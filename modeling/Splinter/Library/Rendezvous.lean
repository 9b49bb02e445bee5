import Mathlib.Data.Finset.Basic
import Mathlib.Data.List.Basic

/-!
# A rendezvous

An item and the members that have to be ready for it arrive in any order.  As soon
as all members are ready, the item is released and the entry is forgotten.
-/

namespace Splinter.Library

/-- The item arrives, and makes one member ready, or a member gets ready. -/
inductive Signal (Item Member : Type) where
  | deposit (item : Item) (own : Member)
  | mark (member : Member)
  deriving DecidableEq

namespace Rendezvous

variable {Item Member : Type}

/-- What has arrived since the last release. -/
@[ext]
structure Entry (Item Member : Type) where
  item : Option Item
  ready : Finset Member
  deriving DecidableEq

def Entry.empty : Entry Item Member where
  item := none
  ready := ∅

/-- The items that arrive, each with the member it makes ready. -/
def deposits (signals : List (Signal Item Member)) : List (Item × Member) := signals.filterMap fun
    | .deposit item own => some (item, own)
    | .mark _ => none

/-- The item has arrived and all members it requires are ready. -/
def Gathered (required : Item → Finset Member) (signals : List (Signal Item Member)) : Prop :=
  ∃ item own, .deposit item own ∈ signals ∧
    ∀ member ∈ required item, member = own ∨ .mark member ∈ signals

/-- The member that a signal makes ready. -/
def maker : Signal Item Member → Member
  | .deposit _ own => own
  | .mark member => member

/-! ## Gatherings -/

@[simp]
theorem deposits_deposit (item : Item) (own : Member) :
    deposits [.deposit item own] = [(item, own)] :=
  rfl

@[simp]
theorem deposits_mark (member : Member) : deposits [(.mark member : Signal Item Member)] = [] := rfl

theorem mem_deposits_iff (signals : List (Signal Item Member)) (item : Item) (own : Member) :
    (item, own) ∈ deposits signals ↔ .deposit item own ∈ signals := by
  unfold deposits
  rw [List.mem_filterMap]
  constructor
  · rintro ⟨signal, member, shown⟩
    cases signal with
    | deposit arrived own =>
      cases shown
      exact member
    | mark _ => cases shown
  · intro member
    exact ⟨_, member, rfl⟩

@[simp]
theorem deposits_append (earlier later : List (Signal Item Member)) :
    deposits (earlier ++ later) = deposits earlier ++ deposits later :=
  List.filterMap_append

variable {earlier : List (Signal Item Member)} {item : Item} {entry : Entry Item Member}

theorem once_of_append {signal : Signal Item Member}
    (once : (deposits (earlier ++ [signal])).length ≤ 1) :
    (deposits earlier).length ≤ 1 := by
  rw [deposits_append, List.length_append] at once
  omega

theorem Gathered.append {required : Item → Finset Member} (gathered : Gathered required earlier)
    (later : List (Signal Item Member)) :
    Gathered required (earlier ++ later) := by
  obtain ⟨item, own, deposited, ready⟩ := gathered
  refine ⟨item, own, List.mem_append_left _ deposited, fun member needed => ?_⟩
  rcases ready member needed with same | marked
  · exact Or.inl same
  · exact Or.inr (List.mem_append_left _ marked)

theorem deposits_of_gathered {required : Item → Finset Member}
    {later : List (Signal Item Member)} {own : Member} (gathered : Gathered required earlier)
    (single : deposits (earlier ++ later) = [(item, own)]) :
    deposits earlier = [(item, own)] := by
  obtain ⟨stored, ready, deposited, _⟩ := gathered
  rw [← mem_deposits_iff] at deposited
  rw [deposits_append, List.append_eq_singleton_iff] at single
  rcases single with ⟨none, _⟩ | ⟨alone, _⟩
  · rw [none] at deposited
    cases deposited
  · exact alone

variable [DecidableEq Member] (required : Item → Finset Member)

/-! ## The rendezvous -/

def Entry.arrive (entry : Entry Item Member) : Signal Item Member → Entry Item Member
  | .deposit item own => ⟨some item, insert own entry.ready⟩
  | .mark member => { entry with ready := insert member entry.ready }

def Entry.complete (entry : Entry Item Member) : Option Item :=
  match entry.item with
  | some item => if required item ⊆ entry.ready then some item else none
  | none => none

theorem Entry.item_of_complete (completed : entry.complete required = some item) :
    entry.item = some item := by
  unfold complete at completed
  split at completed
  · rename_i stored kept
    split at completed
    · rw [kept, completed]
    · cases completed
  · cases completed

theorem Entry.required_of_complete (completed : entry.complete required = some item) :
    required item ⊆ entry.ready := by
  unfold complete at completed
  split at completed
  · split at completed
    · rename_i ready
      cases completed
      exact ready
    · cases completed
  · cases completed

/-- The entry, unless it is complete, and the item that is released then. -/
def Entry.settle (entry : Entry Item Member) : Option (Entry Item Member) × Option Item :=
  match entry.complete required with
  | some item => (none, some item)
  | none => (some entry, none)

/-- The entry that is kept after a signal and the item that is released. -/
def receive (slot : Option (Entry Item Member)) (signal : Signal Item Member) :
    Option (Entry Item Member) × Option Item :=
  ((slot.getD Entry.empty).arrive signal).settle required

theorem Entry.snd_settle (entry : Entry Item Member) :
    (entry.settle required).2 = entry.complete required := by
  unfold settle
  cases entry.complete required <;> rfl

theorem eq_arrive_of_receive {slot : Option (Entry Item Member)} {signal : Signal Item Member}
    (kept : (receive required slot signal).1 = some entry) :
    entry = (slot.getD Entry.empty).arrive signal := by
  unfold receive Entry.settle at kept
  split at kept
  · cases kept
  · exact (Option.some.inj kept).symm

/-- The entry that is kept after some signals. -/
def slotAfter (signals : List (Signal Item Member)) : Option (Entry Item Member) :=
  signals.foldl (fun slot signal => (receive required slot signal).1) none

def released (earlier : List (Signal Item Member)) (signal : Signal Item Member) : Option Item :=
  (receive required (slotAfter required earlier) signal).2

theorem slotAfter_append (earlier : List (Signal Item Member)) (signal : Signal Item Member) :
    slotAfter required (earlier ++ [signal]) =
      (receive required (slotAfter required earlier) signal).1 := by
  simp [slotAfter]

/-! ## One deposit -/

/-- Everything that has arrived. -/
def collected (signals : List (Signal Item Member)) : Entry Item Member where
  item := (deposits signals).head?.map Prod.fst
  ready := (signals.map maker).toFinset

theorem mem_ready_collected_iff (signals : List (Signal Item Member)) (member : Member) :
    member ∈ (collected signals).ready ↔ (∃ item, .deposit item member ∈ signals) ∨
      .mark member ∈ signals := by
  simp only [collected, List.mem_toFinset, List.mem_map]
  constructor
  · rintro ⟨signal, arrived, same⟩
    cases signal with
    | deposit item own =>
      subst same
      exact Or.inl ⟨item, arrived⟩
    | mark marked =>
      subst same
      exact Or.inr arrived
  · rintro (⟨item, arrived⟩ | arrived)
    · exact ⟨_, arrived, rfl⟩
    · exact ⟨_, arrived, rfl⟩

section Once

variable {required} {earlier signals : List (Signal Item Member)} {signal : Signal Item Member}

theorem gathered_iff_of_deposits {item : Item} {own : Member}
    (once : deposits signals = [(item, own)]) :
    Gathered required signals ↔ required item ⊆ (collected signals).ready := by
  have deposited : .deposit item own ∈ signals := by
    rw [← mem_deposits_iff, once]
    exact List.mem_singleton.mpr rfl
  have only {other : Item} {ready : Member} (arrived : .deposit other ready ∈ signals) :
      other = item ∧ ready = own := by
    rw [← mem_deposits_iff, once] at arrived
    exact Prod.mk.inj (List.mem_singleton.mp arrived)
  constructor
  · rintro ⟨other, _, arrived, ready⟩ member needed
    obtain ⟨rfl, rfl⟩ := only arrived
    rw [mem_ready_collected_iff]
    rcases ready member needed with rfl | marked
    · exact Or.inl ⟨other, arrived⟩
    · exact Or.inr marked
  · intro covered
    refine ⟨item, own, deposited, fun member needed => ?_⟩
    rcases (mem_ready_collected_iff signals member).mp (covered needed) with
      ⟨other, arrived⟩ | marked
    · exact Or.inl (only arrived).2
    · exact Or.inr marked

theorem complete_collected_iff (once : (deposits signals).length ≤ 1) (item : Item) :
    (collected signals).complete required = some item ↔ Gathered required signals ∧
      ∃ own, deposits signals = [(item, own)] := by
  rcases stored : deposits signals with _ | ⟨⟨first, own⟩, rest⟩
  · simp [Entry.complete, collected, stored]
  · have alone : rest = [] := by
      rw [stored, List.length_cons] at once
      exact List.length_eq_zero_iff.mp (by omega)
    subst alone
    have shown : (collected signals).item = some first := by simp [collected, stored]
    rw [gathered_iff_of_deposits stored]
    simp only [Entry.complete, shown]
    by_cases covered : required first ⊆ (collected signals).ready
    · simp [covered]
    · simp [covered]

theorem exists_complete_of_gathered (once : (deposits signals).length ≤ 1)
    (gathered : Gathered required signals) :
    ∃ item, (collected signals).complete required = some item := by
  obtain ⟨item, own, deposited, _⟩ := id gathered
  rw [← mem_deposits_iff] at deposited
  refine ⟨item, (complete_collected_iff once item).mpr ⟨gathered, own, ?_⟩⟩
  obtain ⟨only, stored⟩ := List.length_eq_one_iff.mp
    (le_antisymm once (List.length_pos_of_mem deposited))
  rw [stored, List.mem_singleton] at deposited
  rw [stored, deposited]

theorem complete_of_not_gathered (once : (deposits signals).length ≤ 1)
    (missing : ¬ Gathered required signals) :
    (collected signals).complete required = none := by
  rw [Option.eq_none_iff_forall_ne_some]
  intro item completed
  exact missing ((complete_collected_iff once item).mp completed).1

theorem mem_ready_concat_iff (member : Member) : member ∈ (collected (earlier ++ [signal])).ready ↔
    member = maker signal ∨ member ∈ (collected earlier).ready := by
  simp only [collected, List.map_append, List.map_singleton, List.mem_toFinset, List.mem_append,
    List.mem_singleton]
  exact or_comm

theorem arrive_collected (once : (deposits (earlier ++ [signal])).length ≤ 1) :
    (collected earlier).arrive signal = collected (earlier ++ [signal]) := by
  cases signal with
  | deposit item own =>
    have first : deposits earlier = [] := by
      rw [deposits_append, deposits_deposit, List.length_append, List.length_singleton] at once
      exact List.length_eq_zero_iff.mp (by omega)
    ext member
    · simp [Entry.arrive, collected, first]
    · rw [mem_ready_concat_iff]
      exact Finset.mem_insert
  | mark member =>
    ext other
    · simp [Entry.arrive, collected]
    · rw [mem_ready_concat_iff]
      exact Finset.mem_insert

theorem item_arrive_of_gathered {entry : Entry Item Member}
    (once : (deposits (earlier ++ [signal])).length ≤ 1) (gathered : Gathered required earlier)
    (forgotten : entry.item = none) :
    (entry.arrive signal).item = none := by
  cases signal with
  | mark member => exact forgotten
  | deposit item own =>
    obtain ⟨stored, ready, deposited, _⟩ := gathered
    rw [← mem_deposits_iff] at deposited
    have present := List.length_pos_of_mem deposited
    rw [deposits_append, deposits_deposit, List.length_append, List.length_singleton] at once
    omega

theorem complete_eq_none {entry : Entry Item Member}
    (forgotten : entry.item = none) : entry.complete required = none := by
  unfold Entry.complete
  rw [forgotten]

theorem slotAfter_spec (once : (deposits signals).length ≤ 1) :
    (¬ Gathered required signals →
      (slotAfter required signals).getD Entry.empty = collected signals) ∧
      (Gathered required signals →
        ((slotAfter required signals).getD Entry.empty).item = none) := by
  induction signals using List.reverseRecOn with
  | nil =>
    refine ⟨fun _ => rfl, fun gathered => ?_⟩
    obtain ⟨_, _, absent, _⟩ := gathered
    cases absent
  | append_singleton earlier signal ih =>
    obtain ⟨keeps, forgets⟩ := ih (once_of_append once)
    rw [slotAfter_append, receive, Entry.settle]
    by_cases before : Gathered required earlier
    · have forgotten := item_arrive_of_gathered once before (forgets before)
      rw [complete_eq_none forgotten]
      exact ⟨fun missing => (missing (before.append [signal])).elim, fun _ => forgotten⟩
    · rw [keeps before, arrive_collected once]
      by_cases gathered : Gathered required (earlier ++ [signal])
      · obtain ⟨item, completed⟩ := exists_complete_of_gathered once gathered
        rw [completed]
        exact ⟨fun missing => (missing gathered).elim, fun _ => rfl⟩
      · rw [complete_of_not_gathered once gathered]
        exact ⟨fun _ => rfl, fun complete => (gathered complete).elim⟩

theorem released_iff (once : (deposits (earlier ++ [signal])).length ≤ 1) (item : Item) :
    released required earlier signal = some item ↔ Gathered required (earlier ++ [signal]) ∧
      ¬ Gathered required earlier ∧
      ∃ own, deposits (earlier ++ [signal]) = [(item, own)] := by
  obtain ⟨keeps, forgets⟩ : (¬ Gathered required earlier → _) ∧ (Gathered required earlier → _) :=
    slotAfter_spec (once_of_append once)
  rw [released, receive, Entry.snd_settle]
  by_cases before : Gathered required earlier
  · have forgotten := item_arrive_of_gathered once before (forgets before)
    rw [complete_eq_none forgotten]
    simp [before]
  · rw [keeps before, arrive_collected once, complete_collected_iff once]
    simp [before]

end Once

theorem exists_first_point {Item : Type} (property : List Item → Prop) {items : List Item}
    (initially : ¬ property []) (eventually : property items) :
    ∃ earlier item later, items = earlier ++ item :: later ∧ ¬ property earlier ∧
      property (earlier ++ [item]) := by
  induction items using List.reverseRecOn with
  | nil => exact (initially eventually).elim
  | append_singleton items last ih =>
    by_cases before : property items
    · obtain ⟨earlier, item, later, rfl, missing, present⟩ := ih before
      exact ⟨earlier, item, later ++ [last], by simp, missing, present⟩
    · exact ⟨items, last, [], rfl, before, eventually⟩

end Rendezvous

end Splinter.Library
