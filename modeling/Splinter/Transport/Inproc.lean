import Splinter.Library.Locks

/-!
# The two ends of an in-process connection

Each end has a mutex for its outgoing messages and one for its readiness.  Sending
takes the outgoing queue and both readinesses, the own one first; receiving takes
the incoming queue and the own readiness.
-/

namespace Splinter.Transport.Inproc

open Library Library.Threads Library.LockProgram

/-- The ends of a connection, in the order in which `Pair::new` returns them. -/
inductive End where
  | first
  | second
  deriving DecidableEq

def End.other : End → End
  | .first => .second
  | .second => .first

inductive Mutex where
  | queue1
  | queue2
  | setReadiness1
  | setReadiness2
  deriving DecidableEq

structure Pair where
  outgoing : Mutex
  incoming : Mutex
  set : Mutex
  otherSet : Mutex

namespace Pair

def new : Pair × Pair :=
  ({ outgoing := .queue1
     incoming := .queue2
     set := .setReadiness1
     otherSet := .setReadiness2 },
   { outgoing := .queue2
     incoming := .queue1
     set := .setReadiness2
     otherSet := .setReadiness1 })

/-- The locks are released in the reverse order when `send` returns. -/
def send (pair : Pair) : LockProgram Mutex :=
  [.acquire pair.outgoing, .acquire pair.set, .acquire pair.otherSet,
    .release pair.otherSet, .release pair.set, .release pair.outgoing]

def recv (pair : Pair) : LockProgram Mutex :=
  [.acquire pair.incoming, .acquire pair.set, .release pair.set, .release pair.incoming]

end Pair

def End.pair : End → Pair
  | .first => Pair.new.1
  | .second => Pair.new.2

inductive Call where
  | send
  | recv
  deriving DecidableEq

def calls (caller : End) : Call → LockProgram Mutex
  | .send => caller.pair.send
  | .recv => caller.pair.recv

/-- An end that sends does not take its own readiness while the other end, which
also sends, has taken its own and waits for this one. -/
def Uncrossed (threads : Threads End Mutex) : ThreadEvent End Call → Prop
  | .act caller =>
    ¬ (threads.programs caller = caller.pair.send.drop 1 ∧
      threads.programs caller.other = caller.other.pair.send.drop 2)
  | .start _ _ => True

theorem calls_closed (caller : End) (call : Call) :
    Balanced (calls caller call) ∧ owed (calls caller call) = [] := by
  cases caller <;> cases call <;> decide

def rests (caller : End) : List (LockProgram Mutex) :=
  caller.pair.send.tails ++ caller.pair.recv.tails

theorem mem_rests {caller : End} {program : LockProgram Mutex}
    (within : Within calls caller program) :
    program ∈ rests caller := by
  rcases within.2 with rfl | ⟨call, suffix⟩
  · cases caller <;> decide
  · cases call with
    | send => exact List.mem_append_left _ ((List.mem_tails _ _).mpr suffix)
    | recv => exact List.mem_append_right _ ((List.mem_tails _ _).mpr suffix)

theorem crossed_iff : ∀ program ∈ rests .first, ∀ other ∈ rests .second,
    (Crossed program other ↔ program = End.first.pair.send.drop 2 ∧
      other = End.second.pair.send.drop 2) := by
  decide

theorem tail_eq_iff (caller : End) : ∀ program ∈ rests caller,
    (program.tail = caller.pair.send.drop 2 ↔ program = caller.pair.send.drop 1) := by
  cases caller <;> decide

theorem calls_ne (caller : End) (call : Call) : calls caller call ≠ caller.pair.send.drop 2 := by
  cases caller <;> cases call <;> decide

variable {before after : Threads End Mutex} {event : ThreadEvent End Call}

theorem programs_crossed_iff (kept : Kept calls before) (caller : End) :
    Crossed (before.programs .first) (before.programs .second) ↔
      before.programs caller = caller.pair.send.drop 2 ∧
        before.programs caller.other = caller.other.pair.send.drop 2 := by
  have both := crossed_iff (before.programs .first) (mem_rests (kept.within .first))
    (before.programs .second) (mem_rests (kept.within .second))
  cases caller with
  | first => exact both
  | second => exact both.trans and_comm

theorem uncrossed_iff (kept : Kept calls before) (keptAfter : Kept calls after)
    (step : Step calls before event after) :
    ¬ Crossed (after.programs .first) (after.programs .second) ↔ Uncrossed before event := by
  rcases step.programs with
    ⟨caller, call, rfl, _, started⟩ | ⟨caller, action, rest, rfl, acts, acted⟩
  · refine iff_of_true ?_ trivial
    rw [programs_crossed_iff keptAfter caller, started, Function.update_self]
    exact fun crossed => calls_ne caller call crossed.1
  · have apart : caller.other ≠ caller := by
      cases caller <;> decide
    have reached := tail_eq_iff caller (before.programs caller) (mem_rests (kept.within caller))
    rw [acts, List.tail_cons] at reached
    rw [programs_crossed_iff keptAfter caller, acted, Function.update_self,
      Function.update_of_ne apart, reached, ← acts]
    rfl

/-- The ends never wait for each other exactly if no end that sends takes its own
readiness while the other end, which also sends, has taken its own. -/
theorem ends_deadlockFree_iff {path : List (Threads End Mutex × ThreadEvent End Call)}
    {last : Threads End Mutex} (run : Run (Step calls) idle path last) :
    Run.Throughout (fun threads => ¬ threads.Deadlocked .first .second) path last ↔
      Run.Meets Uncrossed path :=
  deadlockFree_iff calls_closed .first .second run
    fun _ _ _ kept keptAfter step _ => uncrossed_iff kept keptAfter step

def sending : List (ThreadEvent End Call) :=
  [.start .first .send, .start .second .send, .act .first, .act .second, .act .first, .act .second]

theorem sends_deadlock : ∃ path last,
      Run (Step calls) idle path last ∧ path.map Prod.snd = sending ∧
        last.Deadlocked .first .second := by
  obtain ⟨path, last, run, events, deadlocked⟩ :=
    Run.exists_run_of_leads (advance calls) sending idle
      (fun threads => threads.Deadlocked .first .second) (by decide +kernel)
  exact ⟨path, last, run, events, of_decide_eq_true deadlocked⟩

def receiving : List (ThreadEvent End Call) :=
  [.start .first .send, .start .second .recv, .act .first, .act .first,
    .act .first, .act .first, .act .first, .act .first, .act .second,
    .act .second]

instance (threads : Threads End Mutex) (event : ThreadEvent End Call) :
    Decidable (Uncrossed threads event) := by
  cases event <;> dsimp only [Uncrossed] <;> infer_instance

theorem receiving_deadlockFree : ∃ path last,
      Run (Step calls) idle path last ∧ path.map Prod.snd = receiving ∧
        Run.Throughout (fun threads => ¬ threads.Deadlocked .first .second) path last := by
  obtain ⟨path, last, run, events, met⟩ := Run.exists_run_of_plays (advance calls) receiving idle
      (fun path _ => Run.Meets Uncrossed path) (by decide +kernel)
  exact ⟨path, last, run, events, (ends_deadlockFree_iff run).mpr (of_decide_eq_true met)⟩

/-! ## Messages and readiness -/

/-- What the ends share, where each queue stands under the end that sends into it. -/
structure Shared (Message : Type) where
  queue : End → List Message
  readable : End → Bool
  writable : End → Bool

/-- A call that is made at an end; `reregister` does what `register` does. -/
inductive Event (Message : Type) where
  | send (caller : End) (message : Message)
  | recv (caller : End)
  | register (caller : End)

namespace Shared

open Function (update)

variable {Message : Type}

def new : Shared Message := ⟨fun _ => [], fun _ => false, fun _ => false⟩

/-- A message is inserted at the front of the queue, and taken from its back. -/
def send (caller : End) (message : Message) (shared : Shared Message) : Shared Message where
  queue := update shared.queue caller (message :: shared.queue caller)
  readable := update shared.readable caller.other true
  writable := update shared.writable caller true

def recv (caller : End) (shared : Shared Message) : Option Message × Shared Message :=
  let incoming := shared.queue caller.other
  (incoming.getLast?,
    { shared with
      queue := update shared.queue caller.other incoming.dropLast
      readable := update shared.readable caller (decide (0 < incoming.length)) })

def perform (shared : Shared Message) : Event Message → Shared Message
  | .send caller message => shared.send caller message
  | .recv caller => (shared.recv caller).2
  | .register caller => { shared with writable := update shared.writable caller true }

/-- The message that an end sends by a call. -/
def sentBy (sender : End) : Event Message → List Message
  | .send caller message => if caller = sender then [message] else []
  | .recv _ | .register _ => []

/-- The message that a call returns to an end. -/
def returnedTo (receiver : End) (shared : Shared Message) : Event Message → List Message
  | .recv caller => if caller = receiver then (shared.recv caller).1.toList else []
  | .send _ _ | .register _ => []

/-- What an end receives by a series of calls, each made where the one before has ended. -/
def received (receiver : End) : Shared Message → List (Event Message) → List Message
  | _, [] => []
  | shared, event :: events =>
    returnedTo receiver shared event ++ received receiver (shared.perform event) events

/-- An end with something in its queue is readable. -/
def Ready (shared : Shared Message) (receiver : End) : Prop :=
  shared.queue receiver.other ≠ [] → shared.readable receiver = true

/-- What waits for an end and what a call adds to it is what the call returns to the end and
what waits for it then. -/
theorem perform_delivers (shared : Shared Message) (event : Event Message) (receiver : End) :
    (shared.queue receiver.other).reverse ++ sentBy receiver.other event =
        returnedTo receiver shared event ++
          ((shared.perform event).queue receiver.other).reverse ∧
      (shared.Ready receiver → (shared.perform event).Ready receiver) := by
  have back : receiver.other.other = receiver := by cases receiver <;> rfl
  cases event with
  | send caller message =>
    by_cases mine : caller = receiver.other
    · simp [sentBy, returnedTo, perform, send, Ready, mine, back]
    · have elsewhere : receiver ≠ caller.other := by
        cases receiver <;> cases caller <;> simp_all [End.other]
      simp [sentBy, returnedTo, perform, send, Ready, mine, Ne.symm mine, elsewhere]
  | recv caller =>
    by_cases mine : caller = receiver
    · subst mine
      rcases List.eq_nil_or_concat' (shared.queue caller.other) with empty | ⟨rest, oldest, queued⟩
      · simp [sentBy, returnedTo, perform, recv, Ready, empty]
      · simp [sentBy, returnedTo, perform, recv, Ready, queued]
    · have elsewhere : receiver.other ≠ caller.other := by
        cases receiver <;> cases caller <;> simp_all [End.other]
      simp [sentBy, returnedTo, perform, recv, Ready, mine, Ne.symm mine, elsewhere]
  | register _ => simp [sentBy, returnedTo, perform, Ready]

theorem performAll_delivers (events : List (Event Message)) (shared : Shared Message)
    (receiver : End) :
    (shared.queue receiver.other).reverse ++ events.flatMap (sentBy receiver.other) =
        received receiver shared events ++
          ((events.foldl perform shared).queue receiver.other).reverse ∧
      (shared.Ready receiver → (events.foldl perform shared).Ready receiver) := by
  induction events generalizing shared with
  | nil => simp [received]
  | cons event events ih =>
    obtain ⟨order, ready⟩ := shared.perform_delivers event receiver
    obtain ⟨laterOrder, laterReady⟩ := ih (shared.perform event)
    refine ⟨?_, fun now => laterReady (ready now)⟩
    rw [List.flatMap_cons, ← List.append_assoc, order, List.append_assoc, laterOrder,
      ← List.append_assoc]
    rfl

/-- Each end receives what the other end has sent, in order; `recv` only returns nothing when
all has been received; and an end that has something to receive is readable. -/
theorem pair_delivers (events : List (Event Message)) (receiver : End) :
    let shared := events.foldl perform new
    let sent := events.flatMap (sentBy receiver.other)
    sent = received receiver new events ++ (shared.queue receiver.other).reverse ∧
      ((shared.recv receiver).1 = none ↔ received receiver new events = sent) ∧
      (received receiver new events ≠ sent → shared.readable receiver = true) := by
  intro shared sent
  obtain ⟨order, ready⟩ := performAll_delivers events new receiver
  have emptied : received receiver new events = sent ↔ shared.queue receiver.other = [] := by
    rw [show sent = _ from order]
    simp [shared]
  refine ⟨order, ?_, ?_⟩
  · rw [emptied]
    exact List.getLast?_eq_none_iff
  · rw [ne_eq, emptied]
    exact ready fun some => absurd rfl some

end Shared

end Splinter.Transport.Inproc
