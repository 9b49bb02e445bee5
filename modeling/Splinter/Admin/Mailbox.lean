import Splinter.Admin.Messages

/-!
# The event mailbox

`DurableBTreeSet` of the storage module, and the mailbox of admin service
events on top of it.  A `MailboxIter` fixes its time window when it is created
and reads the set in chunks; `MailboxIter.rest` is what it still has to give.
-/

namespace Splinter.Admin

inductive Bound where
  | included (index : Nat)
  | excluded (index : Nat)
  | unbounded
  deriving DecidableEq

def Bound.above (index : Nat) : Bound → Prop
  | .included start => start ≤ index
  | .excluded start => start < index
  | .unbounded => True

def Bound.below (index : Nat) : Bound → Prop
  | .included stop => index ≤ stop
  | .excluded stop => index < stop
  | .unbounded => True

instance (index : Nat) : DecidablePred (Bound.above index) := fun bound => by
  cases bound <;> dsimp only [Bound.above] <;> infer_instance

instance (index : Nat) : DecidablePred (Bound.below index) := fun bound => by
  cases bound <;> dsimp only [Bound.below] <;> infer_instance

/-- The values stand in the order of their indices. -/
structure DurableBTreeSet (Value : Type) where
  inner : List Value
  bound : Nat
  deriving DecidableEq

namespace DurableBTreeSet

variable {Value Index : Type} [LinearOrder Index] (index : Value → Index)

/-- `BTreeSet::insert`: a value with the same index stays. -/
def insert (item : Value) : List Value → List Value
  | [] => [item]
  | first :: rest =>
    if index item < index first then
      item :: first :: rest
    else if index item = index first then
      first :: rest
    else
      first :: insert item rest

def add (item : Value) (set : DurableBTreeSet Value) : DurableBTreeSet Value :=
  let kept :=
    if set.inner.length = set.bound then set.inner.tail else set.inner
  { set with inner := insert index item kept }

def rangeIter (index : Value → Nat) (set : DurableBTreeSet Value) (start stop : Bound) :
    List Value :=
  set.inner.filter fun value =>
    start.above (index value) ∧ stop.below (index value)

variable {index : Value → Nat} {item : Value} {values : List Value}

theorem insert_eq_append (last : ∀ value ∈ values, index value < index item) :
    insert index item values = values ++ [item] := by
  induction values with
  | nil => rfl
  | cons first rest ih =>
    obtain ⟨before, others⟩ := List.forall_mem_cons.mp last
    rw [insert, if_neg (Nat.lt_asymm before), if_neg (Nat.ne_of_gt before), ih others]
    rfl

theorem inner_add {set : DurableBTreeSet Value} (room : set.inner.length < set.bound)
    (last : ∀ value ∈ set.inner, index value < index item) :
    (add index item set).inner = set.inner ++ [item] := by
  unfold add
  rw [if_neg (Nat.ne_of_lt room)]
  exact insert_eq_append last

theorem filter_after_take {count : Nat} {latest : Value}
    (ordered : values.Pairwise fun left right => index left < index right)
    (ends : (values.take count).getLast? = some latest) :
    values.filter (fun value => decide (index latest < index value)) = values.drop count := by
  have member : latest ∈ values.take count := List.mem_of_getLast? ends
  have split := List.take_append_drop count values
  have separated := ordered
  rw [← split, List.pairwise_append] at separated
  obtain ⟨initial, _, across⟩ := separated
  have upTo : ∀ value ∈ values.take count, ¬ index latest < index value := by
    intro value taken
    obtain ⟨earlier, shape⟩ := List.getLast?_eq_some_iff.mp ends
    rw [shape, List.pairwise_append] at initial
    rw [shape, List.mem_append, List.mem_singleton] at taken
    rcases taken with before | same
    · exact Nat.lt_asymm (initial.2.2 value before latest (List.mem_singleton.mpr rfl))
    · rw [same]
      exact Nat.lt_irrefl _
  conv_lhs => rw [← split]
  rw [List.filter_append]
  have none : (values.take count).filter
      (fun value => decide (index latest < index value)) = [] := by
    rw [List.filter_eq_nil_iff]
    intro value taken
    simpa using upTo value taken
  have all : (values.drop count).filter (fun value => decide (index latest < index value)) =
      values.drop count := by
    rw [List.filter_eq_self]
    intro value left
    simpa using across latest member value left
  rw [none, all, List.nil_append]

end DurableBTreeSet

def Messages.AdminServiceEvent.proposal : Messages.AdminServiceEvent → Messages.CircuitProposal
  | .proposalSubmitted proposal => proposal
  | .proposalVote proposal _ => proposal
  | .proposalAccepted proposal _ => proposal
  | .proposalRejected proposal _ => proposal
  | .circuitReady proposal => proposal

/-- An event with the time at which it was added.  Times are counted from the
epoch. -/
structure EventEntry where
  timestamp : Nat
  event : Messages.AdminServiceEvent
  deriving DecidableEq

abbrev Mailbox := DurableBTreeSet EventEntry

/-- `Mailbox::add` when the clock shows `now`. -/
def Mailbox.add (now : Nat) (event : Messages.AdminServiceEvent) (mailbox : Mailbox) : Mailbox :=
  DurableBTreeSet.add EventEntry.timestamp ⟨now, event⟩ mailbox

def defaultInMemoryEventLimit : Nat := 100

def iterCacheSize : Nat := 100

structure MailboxIter where
  startSearch : Nat
  endSearch : Nat
  cache : List EventEntry
  deriving DecidableEq

namespace MailboxIter

def searchedUpTo (cache : List EventEntry) (endSearch : Nat) : Nat :=
  match cache.getLast? with
  | none => endSearch
  | some entry => entry.timestamp

/-- Take a chunk of what is in a range, and remember where it ends. -/
def load (found : List EventEntry) (endSearch : Nat) : MailboxIter where
  startSearch := searchedUpTo (found.take iterCacheSize) endSearch
  endSearch := endSearch
  cache := found.take iterCacheSize

def new (source : Mailbox) (startSearch endSearch : Nat) : MailboxIter := load
    (source.rangeIter EventEntry.timestamp (.included startSearch) (.excluded endSearch))
    endSearch

def reloadCache (source : Mailbox) (iter : MailboxIter) : MailboxIter := load
    (source.rangeIter EventEntry.timestamp (.excluded iter.startSearch) (.excluded iter.endSearch))
    iter.endSearch

/-- Reload the cache if it is used up and there may be more. -/
def refill (source : Mailbox) (iter : MailboxIter) : MailboxIter :=
  if iter.cache = [] ∧ iter.startSearch < iter.endSearch then iter.reloadCache source else iter

def next (source : Mailbox) (iter : MailboxIter) : Option EventEntry × MailboxIter :=
  let filled := iter.refill source
  (filled.cache.head?, { filled with cache := filled.cache.tail })

end MailboxIter

/-- `Mailbox::iter` when the clock shows `now`. -/
def Mailbox.iter (now : Nat) (mailbox : Mailbox) : MailboxIter := .new mailbox 0 now

namespace MailboxIter

/-- What an iterator has not given yet. -/
def rest (source : Mailbox) (iter : MailboxIter) : List EventEntry := iter.cache ++
    source.inner.filter fun entry =>
      decide (iter.startSearch < entry.timestamp ∧ entry.timestamp < iter.endSearch)

/-- The entries of a mailbox are in the order of their times. -/
def Ordered (source : Mailbox) : Prop :=
  source.inner.Pairwise fun left right => left.timestamp < right.timestamp

variable {source : Mailbox} {iter after : MailboxIter}

theorem rest_of_searched (searched : iter.endSearch ≤ iter.startSearch) :
    iter.rest source = iter.cache := by
  have nothing : source.inner.filter
      (fun entry =>
        decide (iter.startSearch < entry.timestamp ∧ entry.timestamp < iter.endSearch)) = [] := by
    rw [List.filter_eq_nil_iff]
    intro entry _ within
    exact absurd (of_decide_eq_true within) (by omega)
  rw [rest, nothing, List.append_nil]

theorem searched_of_load {found : List EventEntry} {endSearch : Nat}
    (empty : (load found endSearch).cache = []) :
    (load found endSearch).endSearch ≤ (load found endSearch).startSearch := by
  have stopped : (load found endSearch).startSearch =
      searchedUpTo (load found endSearch).cache endSearch := rfl
  rw [stopped, empty]
  exact Nat.le_refl _

variable (ordered : Ordered source)
include ordered

theorem rest_load {start : Bound} {endSearch : Nat} :
    (load (source.rangeIter EventEntry.timestamp start (.excluded endSearch))
      endSearch).rest source =
      source.rangeIter EventEntry.timestamp start (.excluded endSearch) := by
  generalize inRange : source.rangeIter EventEntry.timestamp start (.excluded endSearch) = found
  have sorted : found.Pairwise fun left right => left.timestamp < right.timestamp := by
    rw [← inRange]
    exact ordered.filter _
  cases ends : (found.take iterCacheSize).getLast? with
  | none =>
    have taken := List.getLast?_eq_none_iff.mp ends
    have empty : found = [] := by
      rcases List.take_eq_nil_iff.mp taken with size | empty
      · cases size
      · exact empty
    rw [rest_of_searched (searched_of_load taken), empty]
    rfl
  | some latest =>
    have member : latest ∈ found := List.mem_of_mem_take (List.mem_of_getLast? ends)
    have stopped : searchedUpTo (found.take iterCacheSize) endSearch = latest.timestamp := by
      rw [searchedUpTo, ends]
    have later : source.inner.filter
        (fun entry =>
          decide (latest.timestamp < entry.timestamp ∧ entry.timestamp < endSearch)) =
        found.filter (fun entry => decide (latest.timestamp < entry.timestamp)) := by
      rw [← inRange] at member
      rw [← inRange, DurableBTreeSet.rangeIter, List.filter_filter]
      have started := (List.mem_filter.mp member).2
      simp only [decide_eq_true_eq] at started
      refine List.filter_congr fun entry _ => ?_
      rw [← Bool.decide_and, decide_eq_decide]
      constructor
      · intro within
        refine ⟨within.1, ?_, within.2⟩
        cases start with
        | included first => exact Nat.le_trans started.1 (Nat.le_of_lt within.1)
        | excluded first => exact Nat.lt_trans started.1 within.1
        | unbounded => trivial
      · intro within
        exact ⟨within.1, within.2.2⟩
    unfold rest load
    rw [stopped, later, DurableBTreeSet.filter_after_take sorted ends, List.take_append_drop]

theorem rest_new {now : Nat} (past : ∀ entry ∈ source.inner, entry.timestamp < now) :
    (source.iter now).rest source = source.inner := by
  unfold Mailbox.iter new
  rw [rest_load ordered, DurableBTreeSet.rangeIter, List.filter_eq_self]
  intro entry member
  exact decide_eq_true ⟨Nat.zero_le _, past entry member⟩

theorem rest_reloadCache (empty : iter.cache = []) :
    (iter.reloadCache source).rest source = iter.rest source := by
  unfold reloadCache
  rw [rest_load ordered]
  unfold rest DurableBTreeSet.rangeIter
  rw [empty]
  rfl

theorem rest_refill : (iter.refill source).rest source = iter.rest source := by
  unfold refill
  split
  · rename_i usedUp
    exact rest_reloadCache ordered usedUp.1
  · rfl

omit ordered in
theorem searched_of_refill (empty : (iter.refill source).cache = []) :
    (iter.refill source).endSearch ≤ (iter.refill source).startSearch := by
  unfold refill at empty ⊢
  split at empty
  · rename_i usedUp
    rw [if_pos usedUp]
    exact searched_of_load empty
  · rename_i more
    rw [if_neg more]
    exact Nat.le_of_not_lt fun within => more ⟨empty, within⟩

omit ordered in
theorem endSearch_next : (iter.next source).2.endSearch = iter.endSearch := by
  change (iter.refill source).endSearch = iter.endSearch
  unfold refill
  split <;> rfl

theorem rest_next : iter.rest source =
    (iter.next source).1.toList ++ (iter.next source).2.rest source := by
  rw [← rest_refill ordered]
  unfold next
  dsimp only
  cases shape : (iter.refill source).cache with
  | nil =>
    have searched := searched_of_refill shape
    have nothing : rest source { iter.refill source with cache := [] } = [] :=
      rest_of_searched searched
    rw [rest_of_searched searched, shape]
    exact nothing.symm
  | cons entry remaining =>
    unfold rest
    rw [shape]
    rfl

theorem rest_of_next_none (none : (iter.next source).1 = .none) :
    iter.rest source = [] ∧ (iter.next source).2.rest source = [] := by
  have empty : (iter.refill source).cache = [] := List.head?_eq_none_iff.mp none
  have searched := searched_of_refill empty
  have nothing : (iter.refill source).rest source = [] := by
    rw [rest_of_searched searched, empty]
  rw [rest_refill ordered] at nothing
  have split : iter.rest source = _ := rest_next ordered
  rw [nothing, none] at split
  exact ⟨nothing, split.symm⟩

omit ordered

theorem rest_congr {other : Mailbox}
    (same : other.inner.filter (fun entry => decide (entry.timestamp < iter.endSearch)) =
      source.inner.filter (fun entry => decide (entry.timestamp < iter.endSearch))) :
    iter.rest other = iter.rest source := by
  have within (mailbox : Mailbox) : mailbox.inner.filter
      (fun entry =>
        decide (iter.startSearch < entry.timestamp ∧ entry.timestamp < iter.endSearch)) =
      (mailbox.inner.filter (fun entry => decide (entry.timestamp < iter.endSearch))).filter
        fun entry => decide (iter.startSearch < entry.timestamp) := by
    rw [List.filter_filter]
    refine List.filter_congr fun entry _ => ?_
    rw [Bool.decide_and]
  unfold rest
  rw [within, within, same]

end MailboxIter

end Splinter.Admin
