import Splinter.Library.Locks

/-!
# The locks of authorization and administration

`next_state` holds the lock of the authorization manager while the callback of the
admin service takes that of the admin service; the submission of a circuit takes
them in the other order.
-/

namespace Splinter.Admin.Locking

open Library Library.Threads Library.LockProgram

inductive Mutex where
  | authorization
  | adminShared
  deriving DecidableEq

def onAuthorizationChange : LockProgram Mutex := [.acquire .adminShared, .release .adminShared]

/-- `next_state`, which calls the callback of the admin service some number of
times. -/
def nextState (reports : Nat) : LockProgram Mutex := .acquire .authorization ::
    ((List.replicate reports onAuthorizationChange).flatten ++ [.release .authorization])

def isAuthorized : LockProgram Mutex := [.acquire .authorization, .release .authorization]

/-- `submit`, which asks for the authorization of some number of members. -/
def submit (queries : Nat) : LockProgram Mutex := .acquire .adminShared ::
    ((List.replicate queries isAuthorized).flatten ++ [.release .adminShared])

inductive Call where
  | nextState (reports : Nat)
  | isAuthorized
  | submit (queries : Nat)
  deriving DecidableEq

/-- The thread that handles authorization messages and the one that handles
submitted circuits. -/
inductive Thread where
  | authorization
  | administration
  deriving DecidableEq

def Thread.other : Thread → Thread
  | .authorization => .administration
  | .administration => .authorization

def calls (_ : Thread) : Call → LockProgram Mutex
  | .nextState reports => Locking.nextState reports
  | .isAuthorized => Locking.isAuthorized
  | .submit queries => Locking.submit queries

def Mutex.other : Mutex → Mutex
  | .authorization => .adminShared
  | .adminShared => .authorization

/-- What is left of a call that holds its lock and takes the other one some number
of times. -/
def inside (lock : Mutex) (count : Nat) : LockProgram Mutex :=
  (List.replicate count [.acquire lock.other, .release lock.other]).flatten ++ [.release lock]

def Call.lock : Call → Mutex
  | .nextState _ | .isAuthorized => .authorization
  | .submit _ => .adminShared

def Call.count : Call → Nat
  | .nextState count | .submit count => count
  | .isAuthorized => 0

theorem calls_eq (thread : Thread) (call : Call) :
    calls thread call = .acquire call.lock :: inside call.lock call.count := by
  cases call <;> rfl

theorem inside_succ (lock : Mutex) (count : Nat) : inside lock (count + 1) =
    .acquire lock.other :: .release lock.other :: inside lock count :=
  rfl

theorem other_ne (lock : Mutex) : lock.other ≠ lock := by
  cases lock <;> decide

@[simp]
theorem owed_inside (lock : Mutex) (count : Nat) : owed (inside lock count) = [lock] := by
  induction count with
  | zero => rfl
  | succ count ih =>
    rw [inside_succ]
    simp [owed, ih, Ne.symm (other_ne lock)]

theorem balanced_inside (lock : Mutex) (count : Nat) : Balanced (inside lock count) := by
  induction count with
  | zero => exact ⟨nofun, trivial⟩
  | succ count ih =>
    rw [inside_succ]
    refine ⟨List.mem_cons_self .., ?_, ih⟩
    simp [other_ne lock]

theorem calls_closed (thread : Thread) (call : Call) :
    Balanced (calls thread call) ∧ owed (calls thread call) = [] := by
  rw [calls_eq]
  refine ⟨⟨?_, balanced_inside _ _⟩, ?_⟩
  · simp
  · simp [owed]

inductive Rest : LockProgram Mutex → Prop
  | done : Rest []
  | entering (lock : Mutex) (count : Nat) : Rest (.acquire lock :: inside lock count)
  | inside (lock : Mutex) (count : Nat) : Rest (inside lock count)
  | nested (lock : Mutex) (count : Nat) : Rest (.release lock.other :: Locking.inside lock count)

variable {program : LockProgram Mutex} {lock : Mutex} {action : LockAction Mutex} {count : Nat}

theorem Rest.tail (rest : Rest (action :: program)) : Rest program := by
  generalize whole : action :: program = start at rest
  cases rest with
  | done => cases whole
  | entering lock count =>
    obtain ⟨_, rfl⟩ := List.cons.inj whole
    exact Rest.inside lock count
  | inside lock count =>
    cases count with
    | zero =>
      obtain ⟨_, rfl⟩ := List.cons.inj whole
      exact Rest.done
    | succ count =>
      rw [inside_succ] at whole
      obtain ⟨_, rfl⟩ := List.cons.inj whole
      exact Rest.nested lock count
  | nested lock count =>
    obtain ⟨_, rfl⟩ := List.cons.inj whole
    exact Rest.inside lock count

theorem Rest.of_suffix {whole : LockProgram Mutex} (rest : Rest whole)
    (suffix : program <:+ whole) :
    Rest program := by
  obtain ⟨before, rfl⟩ := suffix
  induction before with
  | nil => exact rest
  | cons action before ih => exact ih rest.tail

theorem rest_of_within {thread : Thread} (within : Within calls thread program) : Rest program := by
  rcases within.2 with rfl | ⟨call, suffix⟩
  · exact Rest.done
  · rw [calls_eq] at suffix
    exact (Rest.entering _ _).of_suffix suffix

/-- A thread that waits for a lock while it holds one holds the lock of its call
and waits for the other one. -/
theorem Rest.waiting {taken : Mutex} (rest : Rest program) (wants : wanted program = some taken)
    (owes : lock ∈ owed program) :
    taken = lock.other ∧ ∃ count, program = Locking.inside lock (count + 1) := by
  cases rest with
  | done => cases wants
  | entering lock count => simp [owed] at owes
  | inside held count =>
    rw [owed_inside, List.mem_singleton] at owes
    cases count with
    | zero => cases wants
    | succ count =>
      rw [owes]
      exact ⟨(Option.some.inj wants).symm, count, rfl⟩
  | nested lock count => cases wants

theorem inside_injective {other : Mutex} {otherCount : Nat}
    (same : inside lock count = inside other otherCount) : lock = other := by
  have owes := congrArg owed same
  rw [owed_inside, owed_inside] at owes
  exact List.singleton_inj.mp owes

/-- A thread waits for the other lock after it has taken the lock of its call, or
after it has released the other lock. -/
theorem Rest.of_waiting (rest : Rest (action :: Locking.inside lock (count + 1))) :
    action = .acquire lock ∨ action = .release lock.other := by
  generalize whole : action :: Locking.inside lock (count + 1) = start at rest
  cases rest with
  | done => cases whole
  | entering held left =>
    obtain ⟨taken, same⟩ := List.cons.inj whole
    rw [inside_injective same]
    exact Or.inl taken
  | inside held left =>
    cases left with
    | zero =>
      obtain ⟨_, same⟩ := List.cons.inj whole
      cases same
    | succ left =>
      rw [inside_succ, inside_succ] at whole
      obtain ⟨_, same⟩ := List.cons.inj whole
      cases (List.cons.inj same).1
  | nested held left =>
    obtain ⟨released, same⟩ := List.cons.inj whole
    rw [inside_injective same]
    exact Or.inr released

theorem Rest.crossed_iff {other : LockProgram Mutex}
    (rest : Rest program) (otherRest : Rest other) :
    Crossed program other ↔ ∃ lock count otherCount, program = Locking.inside lock (count + 1) ∧
      other = Locking.inside lock.other (otherCount + 1) := by
  constructor
  · intro crossed
    obtain ⟨⟨taken, wants, owedByOther⟩, lock, wanted, owes⟩ := crossed
    obtain ⟨same, count, shape⟩ := rest.waiting wants owes
    obtain ⟨_, otherCount, otherShape⟩ := otherRest.waiting wanted owedByOther
    rw [same] at otherShape
    exact ⟨lock, count, otherCount, shape, otherShape⟩
  · intro shapes
    obtain ⟨lock, count, otherCount, rfl, rfl⟩ := shapes
    refine ⟨⟨lock.other, rfl, ?_⟩, lock, ?_, ?_⟩
    · simp
    · cases lock <;> rfl
    · simp

/-- A thread does not take the lock of its call while the other thread, which
holds the other lock, waits for it, unless the call needs no other lock. -/
def Uncrossed (threads : Threads Thread Mutex) : ThreadEvent Thread Call → Prop
  | .act thread =>
    ∀ lock count otherCount, threads.programs thread = .acquire lock :: inside lock (count + 1) →
      threads.programs thread.other ≠ inside lock.other (otherCount + 1)
  | .start _ _ => True

variable {before after : Threads Thread Mutex} {event : ThreadEvent Thread Call}

theorem programs_crossed_iff (kept : Kept calls before) (thread : Thread) :
    Crossed (before.programs .authorization) (before.programs .administration) ↔
      ∃ lock count otherCount, before.programs thread = inside lock (count + 1) ∧
        before.programs thread.other = inside lock.other (otherCount + 1) := by
  have rest := rest_of_within (kept.within thread)
  have otherRest := rest_of_within (kept.within thread.other)
  rw [← rest.crossed_iff otherRest]
  cases thread with
  | authorization => rfl
  | administration => exact and_comm

theorem uncrossed_iff (kept : Kept calls before) (keptAfter : Kept calls after)
    (step : Step calls before event after) :
    ¬ Crossed (after.programs .authorization) (after.programs .administration) ↔
      Uncrossed before event := by
  rcases step.programs with
    ⟨thread, call, rfl, _, started⟩ | ⟨thread, action, rest, rfl, acts, acted⟩
  · refine iff_of_true ?_ trivial
    rw [programs_crossed_iff keptAfter thread, started, Function.update_self, calls_eq]
    intro crossed
    obtain ⟨lock, count, _, entered, _⟩ := crossed
    have owes := congrArg owed entered
    simp [owed] at owes
  · have apart : thread.other ≠ thread := by
      cases thread <;> decide
    rw [programs_crossed_iff keptAfter thread, acted, Function.update_self,
      Function.update_of_ne apart]
    constructor
    · intro safe lock count otherCount enters waits
      obtain ⟨_, left⟩ := List.cons.inj (acts.symm.trans enters)
      exact safe ⟨lock, count, otherCount, left, waits⟩
    · intro uncrossed crossed
      obtain ⟨lock, count, otherCount, rfl, waits⟩ := crossed
      have shape := rest_of_within (kept.within thread)
      rw [acts] at shape
      rcases shape.of_waiting with rfl | rfl
      · exact uncrossed lock count otherCount acts waits
      · -- both threads would hold the other lock
        have owes : lock.other ∈ owed (before.programs thread) := by
          rw [acts]
          exact List.mem_cons_self ..
        have owedByOther : lock.other ∈ owed (before.programs thread.other) := by
          rw [waits, owed_inside]
          exact List.mem_singleton_self _
        exact apart (kept.exclusive owedByOther owes)

/-- The threads never wait for each other exactly if no thread takes the lock of
a call that needs both locks while the other thread, which holds the other lock,
waits for it. -/
theorem authorization_deadlockFree_iff
    {path : List (Threads Thread Mutex × ThreadEvent Thread Call)} {last : Threads Thread Mutex}
    (run : Run (Step calls) idle path last) :
    Run.Throughout
        (fun threads =>
          ¬ threads.Deadlocked .authorization .administration) path last ↔
      Run.Meets Uncrossed path :=
  deadlockFree_iff calls_closed .authorization .administration run
    fun _ _ _ kept keptAfter step _ => uncrossed_iff kept keptAfter step

/-- A peer is authorized while a circuit is submitted whose member has to be
asked for. -/
def submitting : List (ThreadEvent Thread Call) :=
  [.start .authorization (.nextState 1), .start .administration (.submit 1),
    .act .authorization, .act .administration]

theorem authorization_deadlocks : ∃ path last,
      Run (Step calls) idle path last ∧ path.map Prod.snd = submitting ∧
        last.Deadlocked .authorization .administration := by
  obtain ⟨path, last, run, events, deadlocked⟩ :=
    Run.exists_run_of_leads (advance calls) submitting idle
      (fun threads => threads.Deadlocked .authorization .administration)
      (by decide +kernel)
  exact ⟨path, last, run, events, of_decide_eq_true deadlocked⟩

/-- A thread only runs while the other one has nothing to do. -/
def Alone (threads : Threads Thread Mutex) : ThreadEvent Thread Call → Prop
  | .act thread => threads.programs thread.other = []
  | .start _ _ => True

instance (threads : Threads Thread Mutex) (event : ThreadEvent Thread Call) :
    Decidable (Alone threads event) := by
  cases event <;> dsimp only [Alone] <;> infer_instance

theorem Alone.uncrossed (alone : Alone before event) : Uncrossed before event := by
  cases event with
  | start _ _ => trivial
  | act thread =>
    intro lock count otherCount _ waits
    exact nomatch waits.symm.trans alone

/-- A peer is authorized, and then a circuit is submitted. -/
def successively : List (ThreadEvent Thread Call) :=
  [.start .authorization (.nextState 1), .act .authorization,
    .act .authorization, .act .authorization, .act .authorization,
    .start .administration (.submit 1), .act .administration,
    .act .administration, .act .administration, .act .administration]

theorem successively_deadlockFree : ∃ path last,
      Run (Step calls) idle path last ∧ path.map Prod.snd = successively ∧ Run.Throughout
          (fun threads =>
            ¬ threads.Deadlocked .authorization .administration)
          path last := by
  obtain ⟨path, last, run, events, alone⟩ :=
    Run.exists_run_of_plays (advance calls) successively idle
      (fun path _ => Run.Meets Alone path) (by decide +kernel)
  have met : Run.Meets Uncrossed path := fun visited member =>
    (of_decide_eq_true alone visited member).uncrossed
  exact ⟨path, last, run, events, (authorization_deadlockFree_iff run).mpr met⟩

end Splinter.Admin.Locking
