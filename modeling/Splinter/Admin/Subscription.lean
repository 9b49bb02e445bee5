import Splinter.Admin.Mailbox
import Splinter.Library.Run

/-!
# Registration of an application handler

The route `/ws/admin/register/{type}` first takes the past events out of the
mailbox (`get_events_since`) and then adds the subscriber; each call locks the
admin service, and so does each `send_event`.  The events that are sent are
remembered in three parts: before, between and after the two calls.
-/

namespace Splinter.Admin

open Library MailboxIter

def EventEntry.ofType (circuitManagementType : String) (entry : EventEntry) : Bool :=
  entry.event.proposal.circuit.circuitManagementType = circuitManagementType

inductive Phase where
  | before
  | between
  | after
  deriving DecidableEq

/-- One registration and the mailbox.  `sending` is an event that is stored and
not broadcast yet, while `send_event` holds the lock of the admin service. -/
structure Registration where
  clock : Nat
  eventMailbox : Mailbox
  sending : Option EventEntry
  initialEvents : Option MailboxIter
  exhausted : Bool
  subscribed : Bool
  received : List EventEntry
  live : List EventEntry
  before : List EventEntry
  between : List EventEntry
  after : List EventEntry
  deriving DecidableEq

namespace Registration

def start (bound : Nat) : Registration where
  clock := 0
  eventMailbox := ⟨[], bound⟩
  sending := none
  initialEvents := none
  exhausted := false
  subscribed := false
  received := []
  live := []
  before := []
  between := []
  after := []

def phase (state : Registration) : Phase :=
  if state.subscribed then
    .after
  else if state.initialEvents.isSome then
    .between
  else
    .before

def sent (state : Registration) : List EventEntry := state.before ++ state.between ++ state.after

/-- What the handler is given: the catch-up events, then the live ones. -/
def stream (state : Registration) : List EventEntry := state.received ++ state.live

/-- The handler is registered, and no event is on its way to it. -/
def Complete (state : Registration) : Prop :=
  state.subscribed = true ∧ state.exhausted = true ∧ state.sending = none

instance (state : Registration) : Decidable state.Complete :=
  inferInstanceAs (Decidable (_ ∧ _ ∧ _))

def record (entry : EventEntry) (state : Registration) : Registration :=
  { state with
    before :=
      if state.phase = .before then state.before ++ [entry] else state.before
    between :=
      if state.phase = .between then state.between ++ [entry] else state.between
    after :=
      if state.phase = .after then state.after ++ [entry] else state.after }

end Registration

inductive RegistrationMove where
  | store (now : Nat) (event : Messages.AdminServiceEvent)
  | broadcast
  | getEventsSince (now : Nat)
  | addEventSubscriber
  | next
  deriving DecidableEq

namespace Registration

/-- The first half of `send_event`: `event_mailbox.add`. -/
def store (now : Nat) (event : Messages.AdminServiceEvent) (state : Registration) : Registration :=
  { state.record ⟨now, event⟩ with
    clock := now
    eventMailbox := state.eventMailbox.add now event
    sending := some ⟨now, event⟩ }

/-- The second half of `send_event`: `broadcast_by_type`. -/
def broadcast (circuitManagementType : String) (entry : EventEntry)
    (state : Registration) : Registration :=
  { state with
    sending := none
    live :=
      if state.subscribed then
        state.live ++ [entry].filter (EventEntry.ofType circuitManagementType)
      else
        state.live }

def getEventsSince (now : Nat) (state : Registration) : Registration :=
  { state with
    clock := now
    initialEvents := some (state.eventMailbox.iter now) }

def addEventSubscriber (state : Registration) : Registration := { state with subscribed := true }

/-- The websocket draws from the filtered iterator. -/
def draw (circuitManagementType : String) (iter : MailboxIter)
    (state : Registration) : Registration :=
  let drawn := iter.next state.eventMailbox
  { state with
    initialEvents := some drawn.2
    exhausted := drawn.1.isNone
    received := state.received ++ drawn.1.toList.filter (EventEntry.ofType circuitManagementType) }

def advance (circuitManagementType : String) : RegistrationMove → Registration → Option Registration
  | .store now event, state =>
    if state.sending = none ∧ state.clock < now then some (state.store now event) else none
  | .broadcast, state =>
    match state.sending with
    | none => none
    | some entry => some (state.broadcast circuitManagementType entry)
  | .getEventsSince now, state =>
    if state.sending = none ∧ state.initialEvents = none ∧
      state.clock < now then
      some (state.getEventsSince now)
    else
      none
  | .addEventSubscriber, state =>
    if state.sending = none ∧ state.phase = .between then
      some state.addEventSubscriber
    else
      none
  | .next, state =>
    match state.initialEvents with
    | none => none
    | some iter =>
      if state.exhausted then none else some (state.draw circuitManagementType iter)

def SentOutside (circuitManagementType : String) (state : Registration) : RegistrationMove → Prop
  | .store now event =>
    state.phase = .between → EventEntry.ofType circuitManagementType ⟨now, event⟩ = false
  | _ => True

instance (circuitManagementType : String) (state : Registration) :
    DecidablePred (SentOutside circuitManagementType state) := fun event => by
  cases event <;> dsimp only [SentOutside] <;> infer_instance

/-! ## The invariant -/

/-- What has been sent, what the mailbox holds, and what has been given. -/
structure Kept (circuitManagementType : String) (bound : Nat)
    (state : Registration) : Prop where
  bounded : state.eventMailbox.bound = bound
  ordered : state.sent.Pairwise fun left right => left.timestamp < right.timestamp
  past : ∀ entry ∈ state.sent, entry.timestamp ≤ state.clock
  stored : state.sent.length ≤ bound → state.eventMailbox.inner = state.sent
  opened : state.initialEvents = none → state.between = [] ∧ state.received = [] ∧
    state.subscribed = false ∧ state.exhausted = false
  window : ∀ iter, state.initialEvents = some iter → iter.endSearch ≤ state.clock
  caughtUp : ∀ iter, state.initialEvents = some iter → state.sent.length ≤ bound → state.received ++
    (iter.rest state.eventMailbox).filter (EventEntry.ofType circuitManagementType) =
    state.before.filter (EventEntry.ofType circuitManagementType) ∧
    (state.exhausted = true → iter.rest state.eventMailbox = [])
  waiting : state.subscribed = false → state.after = [] ∧ state.live = []
  delivered : state.subscribed = true →
    state.after.filter (EventEntry.ofType circuitManagementType) = state.live ++
      state.sending.toList.filter (EventEntry.ofType circuitManagementType)

variable {circuitManagementType : String} {bound : Nat} {state : Registration}

theorem kept_start : Kept circuitManagementType bound (start bound) where
  bounded := rfl
  ordered := List.Pairwise.nil
  past := by
    intro entry member
    cases member
  stored := fun _ => rfl
  opened := fun _ => ⟨rfl, rfl, rfl, rfl⟩
  window := by
    intro iter present
    cases present
  caughtUp := by
    intro iter present
    cases present
  waiting := fun _ => ⟨rfl, rfl⟩
  delivered := by
    intro subscribed
    cases subscribed

variable (kept : Kept circuitManagementType bound state)
include kept

theorem Kept.mailbox_ordered (fits : state.sent.length ≤ bound) :
    MailboxIter.Ordered state.eventMailbox := by
  unfold MailboxIter.Ordered
  rw [kept.stored fits]
  exact kept.ordered

/-! ## The moves -/

omit kept in
theorem phase_eq_before (opened : state.phase = .before) :
    state.initialEvents = none ∧ state.subscribed = false := by
  unfold phase at opened
  split at opened
  · cases opened
  · rename_i unsubscribed
    split at opened
    · cases opened
    · rename_i absent
      simpa using And.intro absent unsubscribed

omit kept in
theorem phase_eq_between (opened : state.phase = .between) :
    state.initialEvents.isSome = true ∧ state.subscribed = false := by
  unfold phase at opened
  split at opened
  · cases opened
  · rename_i unsubscribed
    split at opened
    · rename_i present
      exact ⟨present, Bool.eq_false_iff.mpr unsubscribed⟩
    · cases opened

omit kept in
theorem phase_eq_after (subscribed : state.phase = .after) : state.subscribed = true := by
  unfold phase at subscribed
  split at subscribed
  · assumption
  · split at subscribed <;> cases subscribed

theorem Kept.sent_store (now : Nat) (event : Messages.AdminServiceEvent) :
    (state.store now event).sent = state.sent ++ [⟨now, event⟩] := by
  unfold store record sent
  cases opened : state.phase with
  | before =>
    obtain ⟨absent, unsubscribed⟩ := phase_eq_before opened
    have between := (kept.opened absent).1
    have after := (kept.waiting unsubscribed).1
    simp [between, after]
  | between =>
    have after := (kept.waiting (phase_eq_between opened).2).1
    simp [after]
  | after => simp

omit kept in
theorem before_store (now : Nat) (event : Messages.AdminServiceEvent)
    (present : state.initialEvents.isSome = true) :
    (state.store now event).before = state.before := by
  refine if_neg fun opened => ?_
  rw [(phase_eq_before opened).1] at present
  cases present

omit kept in
theorem between_store (now : Nat) (event : Messages.AdminServiceEvent)
    (absent : state.initialEvents = none) :
    (state.store now event).between = state.between := by
  refine if_neg fun opened => ?_
  have present := (phase_eq_between opened).1
  rw [absent] at present
  cases present

omit kept in
theorem after_store (now : Nat) (event : Messages.AdminServiceEvent) :
    (state.store now event).after =
      if state.subscribed then state.after ++ [⟨now, event⟩]
      else state.after := by
  by_cases subscribed : state.subscribed = true
  · rw [if_pos subscribed]
    exact if_pos (if_pos subscribed)
  · rw [if_neg subscribed]
    exact if_neg fun opened => subscribed (phase_eq_after opened)

section Storing

variable (kept : Kept circuitManagementType bound state) {now : Nat}
  {event : Messages.AdminServiceEvent}

include kept

theorem Kept.length_store (fits : (state.store now event).sent.length ≤ bound) :
    state.sent.length < bound := by
  rw [kept.sent_store, List.length_append, List.length_singleton] at fits
  exact fits

theorem Kept.inner_store (later : state.clock < now)
    (fits : (state.store now event).sent.length ≤ bound) :
    (state.store now event).eventMailbox.inner = state.eventMailbox.inner ++ [⟨now, event⟩] := by
  have room := kept.length_store fits
  have held := kept.stored (Nat.le_of_lt room)
  apply DurableBTreeSet.inner_add
  · rw [held, kept.bounded]
    exact room
  · rw [held]
    intro entry member
    exact Nat.lt_of_le_of_lt (kept.past entry member) later

theorem Kept.rest_store {iter : MailboxIter} (present : state.initialEvents = some iter)
    (later : state.clock < now) (fits : (state.store now event).sent.length ≤ bound) :
    iter.rest (state.store now event).eventMailbox = iter.rest state.eventMailbox := by
  apply rest_congr
  have within := kept.window iter present
  have outside : ¬ now < iter.endSearch := by omega
  rw [kept.inner_store later fits, List.filter_append]
  simp [outside]

theorem Kept.store (event : Messages.AdminServiceEvent)
    (idle : state.sending = none) (later : state.clock < now) :
    Kept circuitManagementType bound (state.store now event) where
  bounded := kept.bounded
  ordered := by
    rw [kept.sent_store, List.pairwise_append]
    refine ⟨kept.ordered, List.pairwise_singleton .., ?_⟩
    intro entry member latest same
    rw [List.mem_singleton.mp same]
    exact Nat.lt_of_le_of_lt (kept.past entry member) later
  past := by
    intro entry member
    rw [kept.sent_store, List.mem_append, List.mem_singleton] at member
    rcases member with earlier | same
    · exact Nat.le_trans (kept.past entry earlier) (Nat.le_of_lt later)
    · rw [same]
      exact Nat.le_refl now
  stored := by
    intro fits
    have room := Nat.le_of_lt (kept.length_store fits)
    rw [kept.inner_store later fits, kept.stored room, kept.sent_store]
  opened := by
    intro absent
    have absent : state.initialEvents = none := absent
    have unopened := kept.opened absent
    exact ⟨(between_store now event absent).trans unopened.1, unopened.2⟩
  window := fun iter present =>
    Nat.le_trans (kept.window iter present) (Nat.le_of_lt later)
  caughtUp := by
    intro iter present fits
    have some : state.initialEvents.isSome = true := Option.isSome_of_eq_some present
    rw [before_store now event some, kept.rest_store present later fits]
    exact kept.caughtUp iter present (Nat.le_of_lt (kept.length_store fits))
  waiting := by
    intro unsubscribed
    have unheard := kept.waiting unsubscribed
    have not : ¬ state.subscribed = true := Bool.eq_false_iff.mp unsubscribed
    rw [after_store, if_neg not]
    exact unheard
  delivered := by
    intro subscribed
    have subscribed : state.subscribed = true := subscribed
    have heard := kept.delivered subscribed
    rw [idle] at heard
    rw [after_store, if_pos subscribed, List.filter_append, heard]
    simp [Registration.store, record]

end Storing

variable {entry : EventEntry} {path : List (Registration × RegistrationMove)} {last : Registration}

theorem Kept.broadcast (sending : state.sending = some entry) :
    Kept circuitManagementType bound (state.broadcast circuitManagementType entry) :=
  { kept with
    waiting := by
      intro unsubscribed
      have not : state.subscribed = false := unsubscribed
      have unheard := kept.waiting not
      refine ⟨unheard.1, ?_⟩
      unfold Registration.broadcast
      rw [not]
      exact unheard.2
    delivered := by
      intro subscribed
      have heard := kept.delivered subscribed
      rw [sending] at heard
      have given : (state.broadcast circuitManagementType entry).live = state.live ++
              [entry].filter (EventEntry.ofType circuitManagementType) :=
        if_pos subscribed
      rw [given]
      exact heard.trans (List.append_nil _).symm }

theorem Kept.getEventsSince {now : Nat}
    (absent : state.initialEvents = none) (later : state.clock < now) :
    Kept circuitManagementType bound (state.getEventsSince now) := by
  obtain ⟨between, received, unsubscribed, exhausted⟩ := kept.opened absent
  have after := (kept.waiting unsubscribed).1
  have past (entry : EventEntry) (member : entry ∈ state.sent) : entry.timestamp < now :=
    Nat.lt_of_le_of_lt (kept.past entry member) later
  refine
    { kept with
      past := ?_
      opened := ?_
      window := ?_
      caughtUp := ?_ }
  · intro entry member
    exact Nat.le_of_lt (past entry member)
  · intro none
    cases none
  · intro iter present
    cases present
    exact Nat.le_refl now
  · intro iter present fits
    cases present
    have held := kept.stored fits
    have all : (state.eventMailbox.iter now).rest state.eventMailbox = state.before := by
      rw [rest_new (kept.mailbox_ordered fits), held, sent,
        between, after, List.append_nil, List.append_nil]
      rw [held]
      exact past
    constructor
    · have unread : (state.getEventsSince now).received = [] := received
      rw [unread]
      exact congrArg (List.filter _) all
    · intro done
      have not : state.exhausted = true := done
      rw [exhausted] at not
      cases not

theorem Kept.addEventSubscriber (idle : state.sending = none) (opened : state.phase = .between) :
    Kept circuitManagementType bound state.addEventSubscriber := by
  obtain ⟨present, unsubscribed⟩ := phase_eq_between opened
  obtain ⟨after, live⟩ := kept.waiting unsubscribed
  refine
    { kept with
      opened := ?_
      waiting := ?_
      delivered := ?_ }
  · intro absent
    have none : state.initialEvents = none := absent
    rw [none] at present
    cases present
  · intro not
    cases not
  · intro _
    unfold Registration.addEventSubscriber
    rw [after, live, idle]
    rfl

variable {iter : MailboxIter} {move : RegistrationMove} {after : Registration}

theorem Kept.draw (present : state.initialEvents = some iter) :
    Kept circuitManagementType bound (state.draw circuitManagementType iter) := by
  refine
    { kept with
      opened := ?_
      window := ?_
      caughtUp := ?_ }
  · intro none
    cases none
  · intro next same
    cases same
    rw [endSearch_next]
    exact kept.window iter present
  · intro next same fits
    cases same
    have ordered := kept.mailbox_ordered fits
    have held := (kept.caughtUp iter present fits).1
    rw [rest_next ordered, List.filter_append, ← List.append_assoc] at held
    refine ⟨held, ?_⟩
    intro done
    exact (rest_of_next_none ordered (Option.isNone_iff_eq_none.mp done)).2

/-- The steps of a registration beside the calls of `send_event`. -/
def Step (circuitManagementType : String) (before : Registration)
    (move : RegistrationMove) (after : Registration) : Prop :=
  advance circuitManagementType move before = some after

omit kept in
theorem step_cases (taken : Step circuitManagementType state move after) :
    (∃ now event, move = .store now event ∧ state.sending = none ∧
      state.clock < now ∧ after = state.store now event) ∨
      (∃ entry, move = .broadcast ∧ state.sending = some entry ∧
        after = state.broadcast circuitManagementType entry) ∨
      (∃ now, move = .getEventsSince now ∧ state.initialEvents = none ∧
        state.clock < now ∧ after = state.getEventsSince now) ∨
      (move = .addEventSubscriber ∧ state.sending = none ∧
        state.phase = .between ∧ after = state.addEventSubscriber) ∨
      ∃ iter, move = .next ∧ state.initialEvents = some iter ∧
        after = state.draw circuitManagementType iter := by
  unfold Step advance at taken
  cases move with
  | store now event =>
    obtain ⟨⟨idle, later⟩, same⟩ := Option.ite_none_right_eq_some.mp taken
    exact Or.inl ⟨now, event, rfl, idle, later, (Option.some.inj same).symm⟩
  | broadcast =>
    cases sending : state.sending with
    | none =>
      simp only [sending] at taken
      cases taken
    | some entry =>
      simp only [sending] at taken
      exact Or.inr (Or.inl ⟨entry, rfl, rfl, (Option.some.inj taken).symm⟩)
  | getEventsSince now =>
    obtain ⟨⟨_, absent, later⟩, same⟩ := Option.ite_none_right_eq_some.mp taken
    exact Or.inr (Or.inr (Or.inl ⟨now, rfl, absent, later, (Option.some.inj same).symm⟩))
  | addEventSubscriber =>
    obtain ⟨⟨idle, opened⟩, same⟩ := Option.ite_none_right_eq_some.mp taken
    exact Or.inr (Or.inr (Or.inr (Or.inl ⟨rfl, idle, opened, (Option.some.inj same).symm⟩)))
  | next =>
    cases present : state.initialEvents with
    | none =>
      simp only [present] at taken
      cases taken
    | some iter =>
      simp only [present] at taken
      obtain ⟨_, same⟩ := Option.ite_none_left_eq_some.mp taken
      exact Or.inr (Or.inr (Or.inr (Or.inr ⟨iter, rfl, rfl, (Option.some.inj same).symm⟩)))

theorem Kept.step (taken : Step circuitManagementType state move after) :
    Kept circuitManagementType bound after := by
  rcases step_cases taken with
    ⟨now, event, _, idle, later, rfl⟩ | ⟨entry, _, sending, rfl⟩ |
      ⟨now, _, absent, later, rfl⟩ | ⟨_, idle, opened, rfl⟩ |
      ⟨iter, _, present, rfl⟩
  · exact kept.store event idle later
  · exact kept.broadcast sending
  · exact kept.getEventsSince absent later
  · exact kept.addEventSubscriber idle opened
  · exact kept.draw present

omit kept in
theorem kept_of_run (run : Run (Step circuitManagementType) (start bound) path last) :
    Kept circuitManagementType bound last :=
  run.invariant kept_start fun _ _ _ kept taken => kept.step taken

/-! ## Events between the two calls -/

omit kept in
theorem between_step (taken : Step circuitManagementType state move after) :
    after.between.filter (EventEntry.ofType circuitManagementType) = [] ↔
      state.between.filter (EventEntry.ofType circuitManagementType) = [] ∧
        SentOutside circuitManagementType state move := by
  rcases step_cases taken with
    ⟨now, event, rfl, _, _, rfl⟩ | ⟨entry, rfl, _, rfl⟩ |
      ⟨now, rfl, _, _, rfl⟩ | ⟨rfl, _, _, rfl⟩ | ⟨iter, rfl, _, rfl⟩
  · unfold SentOutside
    by_cases opened : state.phase = .between
    · have grown : (state.store now event).between = state.between ++ [⟨now, event⟩] :=
        if_pos opened
      rw [grown, List.filter_append, List.append_eq_nil_iff]
      simp [opened]
    · have unchanged : (state.store now event).between = state.between := if_neg opened
      rw [unchanged]
      simp [opened]
  · exact (and_iff_left trivial).symm
  · exact (and_iff_left trivial).symm
  · exact (and_iff_left trivial).symm
  · exact (and_iff_left trivial).symm

theorem Kept.stream_eq (fits : state.sent.length ≤ bound) (complete : state.Complete) :
    state.stream = state.before.filter (EventEntry.ofType circuitManagementType) ++
      state.after.filter (EventEntry.ofType circuitManagementType) := by
  obtain ⟨subscribed, exhausted, idle⟩ := complete
  have live := kept.delivered subscribed
  rw [idle] at live
  cases present : state.initialEvents with
  | none =>
    have unsubscribed := (kept.opened present).2.2.1
    rw [subscribed] at unsubscribed
    cases unsubscribed
  | some iter =>
    obtain ⟨received, drained⟩ := kept.caughtUp iter present fits
    rw [drained exhausted] at received
    rw [stream, ← received, live]
    simp

/-! ## Completion -/

theorem exists_drawn (fits : state.sent.length ≤ bound)
    (present : state.initialEvents = some iter) :
    ∃ path last, Run (Step circuitManagementType) state path last ∧
      Run.Meets (fun _ move => move = .next) path ∧
        last.exhausted = true ∧ last.subscribed = state.subscribed ∧
          last.sending = state.sending ∧ last.sent = state.sent := by
  induction length : (iter.rest state.eventMailbox).length
    using Nat.strongRecOn generalizing state iter with
  | ind size ih =>
    by_cases exhausted : state.exhausted = true
    · exact ⟨[], state, Run.start, Run.meets_nil _, exhausted, rfl, rfl, rfl⟩
    have taken : Step circuitManagementType state .next
        (state.draw circuitManagementType iter) := by
      simp only [Step, advance, present]
      exact if_neg exhausted
    cases drawn : (iter.next state.eventMailbox).1 with
    | none =>
      refine ⟨[(state, .next)], _, Run.cons taken Run.start, ?_, ?_, rfl, rfl, rfl⟩
      · intro visited member
        rw [List.mem_singleton.mp member]
      · exact Option.isNone_iff_eq_none.mpr drawn
    | some entry =>
      have split : iter.rest state.eventMailbox = _ := rest_next (kept.mailbox_ordered fits)
      rw [drawn] at split
      have shorter : ((iter.next state.eventMailbox).2.rest state.eventMailbox).length < size := by
        rw [← length, split]
        exact Nat.lt_succ_self _
      obtain ⟨path, last, run, meets, ended, frame⟩ := ih _ shorter (kept.step taken) fits rfl rfl
      refine ⟨(state, .next) :: path, last, Run.cons taken run, ?_, ended, frame⟩
      exact List.forall_mem_cons.mpr ⟨rfl, meets⟩

/-- A registration that has its subscriber can be completed by drawing the
catch-up events and by the broadcast that is under way. -/
theorem exists_complete (fits : state.sent.length ≤ bound) (subscribed : state.subscribed = true) :
    ∃ path last, Run (Step circuitManagementType) state path last ∧
      Run.Meets (fun _ move => move = .next ∨ move = .broadcast) path ∧
        last.Complete ∧ last.sent = state.sent := by
  cases present : state.initialEvents with
  | none =>
    have unsubscribed := (kept.opened present).2.2.1
    rw [subscribed] at unsubscribed
    cases unsubscribed
  | some iter =>
    obtain ⟨path, drained, run, meets, exhausted, still, sending, sent⟩ :=
      exists_drawn kept fits present
    rw [subscribed] at still
    have drawing : Run.Meets (fun _ move => move = .next ∨ move = .broadcast) path :=
      fun visited member => Or.inl (meets visited member)
    cases under : drained.sending with
    | none => exact ⟨path, drained, run, drawing, ⟨still, exhausted, under⟩, sent⟩
    | some entry =>
      have taken : Step circuitManagementType drained .broadcast
          (drained.broadcast circuitManagementType entry) := by
        simp only [Step, advance, under]
      refine ⟨_, _, Run.snoc run taken, ?_, ⟨still, exhausted, rfl⟩, sent⟩
      exact (Run.meets_snoc _ _ _ _).mpr ⟨drawing, Or.inr rfl⟩

omit kept

/-- While the mailbox has room, a handler that is registered is given every
event of its type once and in order if and only if none of them is sent between
the two calls of its registration. -/
theorem stream_eq_sent_iff (run : Run (Step circuitManagementType) (start bound) path last)
    (fits : last.sent.length < bound) :
    (last.Complete →
        (last.stream = last.sent.filter (EventEntry.ofType circuitManagementType) ↔
          Run.Meets (SentOutside circuitManagementType) path)) ∧
      (last.subscribed = true → ∃ rest final, Run (Step circuitManagementType) last rest final ∧
            Run.Meets (fun _ move => move = .next ∨ move = .broadcast) rest ∧
              final.Complete ∧ final.sent = last.sent) := by
  have kept := kept_of_run run
  have room := Nat.le_of_lt fits
  refine ⟨?_, exists_complete kept room⟩
  intro complete
  have missed : last.between.filter (EventEntry.ofType circuitManagementType) = [] ↔
        Run.Meets (SentOutside circuitManagementType) path :=
    run.holds_last_iff (fun _ => True)
      (fun state =>
        state.between.filter (EventEntry.ofType circuitManagementType) = [])
      _ trivial rfl (fun _ _ _ _ _ => trivial)
      fun _ _ _ _ taken => between_step taken
  rw [← missed, kept.stream_eq room complete, sent, List.filter_append,
    List.filter_append, List.append_assoc, List.append_cancel_left_eq]
  constructor
  · intro same
    have lengths := congrArg List.length same
    rw [List.length_append] at lengths
    exact List.length_eq_zero_iff.mp (by omega)
  · intro none
    rw [none, List.nil_append]

def gameroomEvent (circuitId : String) : Messages.AdminServiceEvent := .circuitReady
    { proposalType := .create
      circuitId := circuitId
      circuitHash := ""
      circuit :=
        { circuitId := circuitId
          roster := []
          members := []
          authorizationType := .trust
          persistence := .any
          durability := .noDurability
          routes := .any
          circuitManagementType := "gameroom"
          applicationMetadata := [] }
      votes := []
      requester := []
      requesterNodeId := "alpha" }

/-- An event that is sent between the two calls is in neither part. -/
theorem event_between_calls_lost : ∃ path last,
      Run (Step "gameroom") (start defaultInMemoryEventLimit) path last ∧ last.Complete ∧
        last.sent = [⟨2, gameroomEvent "first"⟩] ∧ last.stream = [] := by
  have played : Run.leads (advance "gameroom")
        [.getEventsSince 1, .store 2 (gameroomEvent "first"), .broadcast,
          .addEventSubscriber, .next]
        (start defaultInMemoryEventLimit)
        (fun last =>
          decide
            (last.Complete ∧ last.sent = [⟨2, gameroomEvent "first"⟩] ∧
              last.stream = [])) = true := by
    decide +kernel
  obtain ⟨path, last, run, _, checked⟩ := Run.exists_run_of_leads _ _ _ _ played
  exact ⟨path, last, run, of_decide_eq_true checked⟩

/-- A handler that registers between two events is given both. -/
theorem events_around_registration_given : ∃ path last,
      Run (Step "gameroom") (start defaultInMemoryEventLimit) path last ∧ last.Complete ∧
        last.sent.length = 2 ∧ last.stream = last.sent.filter (EventEntry.ofType "gameroom") := by
  have played : Run.plays (advance "gameroom")
        [.store 1 (gameroomEvent "first"), .broadcast, .getEventsSince 2,
          .addEventSubscriber, .store 3 (gameroomEvent "second"), .next,
          .broadcast, .next]
        (start defaultInMemoryEventLimit)
        (fun path last =>
          decide
            (last.Complete ∧ last.sent.length = 2 ∧
              Run.Meets (SentOutside "gameroom") path)) = true := by
    decide +kernel
  obtain ⟨path, last, run, _, checked⟩ := Run.exists_run_of_plays _ _ _ _ played
  obtain ⟨complete, two, outside⟩ := of_decide_eq_true checked
  have fits : last.sent.length < defaultInMemoryEventLimit := by
    rw [two]
    decide
  exact ⟨path, last, run, complete, two, ((stream_eq_sent_iff run fits).1 complete).mpr outside⟩

end Registration

end Splinter.Admin
