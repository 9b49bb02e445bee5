import Splinter.Library.Run
import Mathlib.Data.List.Basic
import Mathlib.Data.List.Infix
import Mathlib.Logic.Function.Basic

/-!
# Threads that take locks

An operation is the list of the locks that it takes and releases, in program
order.  Which locks a thread holds can be read off the rest of its operation
(`Kept.held`), so a deadlock depends only on what the threads still have to do.
-/

namespace Splinter.Library

inductive LockAction (Lock : Type) where
  | acquire (lock : Lock)
  | release (lock : Lock)
  deriving DecidableEq

abbrev LockProgram (Lock : Type) := List (LockAction Lock)

namespace LockProgram

variable {Lock : Type} [DecidableEq Lock] {program : LockProgram Lock}

/-- The lock that a program takes next, if it does. -/
def wanted : LockProgram Lock → Option Lock
  | .acquire lock :: _ => some lock
  | _ => none

/-- The locks that a program releases without taking them before. -/
def owed : LockProgram Lock → List Lock
  | [] => []
  | .acquire lock :: rest => (owed rest).filter (· ≠ lock)
  | .release lock :: rest => lock :: owed rest

/-- Every lock that a program takes is released, and released once. -/
def Balanced : LockProgram Lock → Prop
  | [] => True
  | .acquire lock :: rest => lock ∈ owed rest ∧ Balanced rest
  | .release lock :: rest => lock ∉ owed rest ∧ Balanced rest

instance : (program : LockProgram Lock) → Decidable (Balanced program)
  | [] => inferInstanceAs (Decidable True)
  | .acquire _ :: rest | .release _ :: rest =>
    have : Decidable (Balanced rest) := instDecidableBalanced rest
    inferInstanceAs (Decidable (_ ∧ _))

/-- Each of two programs wants a lock that the other one still has to
release. -/
def Crossed (program other : LockProgram Lock) : Prop :=
  (∃ lock ∈ wanted program, lock ∈ owed other) ∧ ∃ lock ∈ wanted other, lock ∈ owed program

instance (program other : LockProgram Lock) : Decidable (Crossed program other) := by
  unfold Crossed
  infer_instance

end LockProgram

/-- What each thread still has to do, and who holds each lock. -/
structure Threads (Thread Lock : Type) where
  programs : Thread → LockProgram Lock
  holder : Lock → Option Thread

inductive ThreadEvent (Thread Operation : Type) where
  | start (thread : Thread) (operation : Operation)
  | act (thread : Thread)
  deriving DecidableEq

namespace Threads

open LockProgram

variable {Thread Lock Operation : Type} [DecidableEq Lock]

/-- No thread does anything. -/
def idle : Threads Thread Lock where
  programs _ := []
  holder _ := none

/-- A thread waits for a lock that another one holds. -/
def Waits (threads : Threads Thread Lock) (thread other : Thread) : Prop :=
  (wanted (threads.programs thread)).bind threads.holder = some other

def Deadlocked (threads : Threads Thread Lock) (thread other : Thread) : Prop :=
  threads.Waits thread other ∧ threads.Waits other thread

instance [DecidableEq Thread] (threads : Threads Thread Lock)
    (thread other : Thread) : Decidable (threads.Deadlocked thread other) := by
  unfold Deadlocked Waits
  infer_instance

section Steps

variable [DecidableEq Thread] (operations : Thread → Operation → LockProgram Lock)

/-- A thread that has nothing to do may start an operation; a lock can be taken
while nobody holds it. -/
def advance (event : ThreadEvent Thread Operation)
    (threads : Threads Thread Lock) : Option (Threads Thread Lock) :=
  match event with
  | .start thread operation =>
    if threads.programs thread = [] then
      some
        { threads with
          programs := Function.update threads.programs thread (operations thread operation) }
    else none
  | .act thread =>
    match threads.programs thread with
    | [] => none
    | .acquire lock :: rest =>
      if threads.holder lock = none then
        some
          { programs := Function.update threads.programs thread rest
            holder := Function.update threads.holder lock (some thread) }
      else none
    | .release lock :: rest =>
      some
        { programs := Function.update threads.programs thread rest
          holder := Function.update threads.holder lock none }

def Step (before : Threads Thread Lock)
    (event : ThreadEvent Thread Operation) (after : Threads Thread Lock) :
    Prop :=
  advance operations event before = some after

/-- What a step can be. -/
inductive Taken (before : Threads Thread Lock) :
    ThreadEvent Thread Operation → Threads Thread Lock → Prop
  | start {thread : Thread} {operation : Operation} : before.programs thread = [] →
    Taken before (.start thread operation)
      { before with
        programs := Function.update before.programs thread (operations thread operation) }
  | acquire {thread : Thread} {lock : Lock} {rest : LockProgram Lock} :
    before.programs thread = .acquire lock :: rest →
    before.holder lock = none →
    Taken before (.act thread)
      { programs := Function.update before.programs thread rest
        holder := Function.update before.holder lock (some thread) }
  | release {thread : Thread} {lock : Lock} {rest : LockProgram Lock} :
    before.programs thread = .release lock :: rest →
    Taken before (.act thread)
      { programs := Function.update before.programs thread rest
        holder := Function.update before.holder lock none }

variable {operations} {before after : Threads Thread Lock} {event : ThreadEvent Thread Operation}

theorem Step.taken (step : Step operations before event after) :
    Taken operations before event after := by
  unfold Step advance at step
  split at step
  · split at step
    · rename_i rests
      cases step
      exact Taken.start rests
    · cases step
  · split at step
    · cases step
    · rename_i program
      split at step
      · rename_i free
        cases step
        exact Taken.acquire program free
      · cases step
    · rename_i program
      cases step
      exact Taken.release program

theorem Step.programs (step : Step operations before event after) :
    (∃ thread operation, event = .start thread operation ∧ before.programs thread = [] ∧
      after.programs = Function.update before.programs thread (operations thread operation)) ∨
      ∃ thread action rest, event = .act thread ∧ before.programs thread = action :: rest ∧
        after.programs = Function.update before.programs thread rest := by
  cases step.taken with
  | start rests => exact Or.inl ⟨_, _, rfl, rests, rfl⟩
  | acquire program _ => exact Or.inr ⟨_, _, _, rfl, program, rfl⟩
  | release program => exact Or.inr ⟨_, _, _, rfl, program, rfl⟩

end Steps

section Holders

variable {operations : Thread → Operation → LockProgram Lock} {before : Threads Thread Lock}

variable (operations) in
def Within (thread : Thread) (program : LockProgram Lock) : Prop := Balanced program ∧
    (program = [] ∨ ∃ operation, program <:+ operations thread operation)

theorem Within.rest {thread : Thread} {action : LockAction Lock} {rest : LockProgram Lock}
    (within : Within operations thread (action :: rest)) :
    Within operations thread rest := by
  obtain ⟨balanced, contained⟩ := within
  refine ⟨?_, Or.inr ?_⟩
  · cases action with
    | acquire lock => exact balanced.2
    | release lock => exact balanced.2
  · rcases contained with empty | ⟨operation, suffix⟩
    · cases empty
    · exact ⟨operation, (List.suffix_cons _ _).trans suffix⟩

variable (operations) in
/-- Every thread is within an operation, and holds the locks that it still has to
release. -/
structure Kept (threads : Threads Thread Lock) : Prop where
  within : ∀ thread, Within operations thread (threads.programs thread)
  held : ∀ thread lock, threads.holder lock = some thread ↔ lock ∈ owed (threads.programs thread)

theorem kept_idle : Kept operations idle where
  within _ := ⟨trivial, Or.inl rfl⟩
  held _ _ := iff_of_false nofun nofun

theorem Kept.exclusive {thread other : Thread} {lock : Lock} (kept : Kept operations before)
    (owes : lock ∈ owed (before.programs thread)) (owesToo : lock ∈ owed (before.programs other)) :
    thread = other := by
  have holds := (kept.held thread lock).mpr owes
  rw [(kept.held other lock).mpr owesToo] at holds
  exact (Option.some.inj holds).symm

theorem Kept.waits_iff {thread other : Thread} (kept : Kept operations before) :
    before.Waits thread other ↔ ∃ lock ∈ wanted (before.programs thread),
      lock ∈ owed (before.programs other) := by
  unfold Waits
  simp only [Option.bind_eq_some_iff, Option.mem_def, kept.held]

theorem Kept.deadlocked_iff {thread other : Thread} (kept : Kept operations before) :
    before.Deadlocked thread other ↔ Crossed (before.programs thread) (before.programs other) := by
  unfold Deadlocked Crossed
  rw [kept.waits_iff, kept.waits_iff]

end Holders

section Operations

variable [DecidableEq Thread] {operations : Thread → Operation → LockProgram Lock}
  {before after : Threads Thread Lock} {event : ThreadEvent Thread Operation}
  (closed : ∀ thread operation, Balanced (operations thread operation) ∧
        owed (operations thread operation) = [])

include closed

theorem Kept.step (kept : Kept operations before) (step : Step operations before event after) :
    Kept operations after := by
  cases step.taken with
  | @start thread operation rests =>
    obtain ⟨balanced, clear⟩ := closed thread operation
    constructor
    · apply (Function.forall_update_iff _ (Within operations)).mpr
      refine ⟨⟨balanced, Or.inr ⟨operation, List.suffix_rfl⟩⟩, ?_⟩
      exact fun other _ => kept.within other
    · apply (Function.forall_update_iff _ fun other program => ∀ lock,
        before.holder lock = some other ↔ lock ∈ owed program).mpr
      refine ⟨?_, fun other _ => kept.held other⟩
      intro lock
      rw [kept.held thread lock, rests, clear]
      rfl
  | @acquire thread lock rest program free =>
    have within := kept.within thread
    have held := kept.held thread
    rw [program] at within held
    constructor
    · apply (Function.forall_update_iff _ (Within operations)).mpr
      exact ⟨within.rest, fun other _ => kept.within other⟩
    · apply (Function.forall_update_iff _ fun other program => ∀ taken,
        Function.update before.holder lock (some thread) taken =
          some other ↔ taken ∈ owed program).mpr
      constructor
      · intro taken
        by_cases same : taken = lock
        · rw [same, Function.update_self]
          exact iff_of_true rfl within.1.1
        · rw [Function.update_of_ne same, held taken]
          simp [owed, same]
      · intro other different taken
        by_cases same : taken = lock
        · rw [same, Function.update_self, ← kept.held other lock, free]
          simp [Ne.symm different]
        · rw [Function.update_of_ne same]
          exact kept.held other taken
  | @release thread lock rest program =>
    have within := kept.within thread
    have held := kept.held thread
    rw [program] at within held
    constructor
    · apply (Function.forall_update_iff _ (Within operations)).mpr
      exact ⟨within.rest, fun other _ => kept.within other⟩
    · apply (Function.forall_update_iff _ fun other program => ∀ freed,
        Function.update before.holder lock none freed = some other ↔ freed ∈ owed program).mpr
      constructor
      · intro freed
        by_cases same : freed = lock
        · rw [same, Function.update_self]
          exact iff_of_false nofun within.1.1
        · rw [Function.update_of_ne same, held freed]
          simp [owed, same]
      · intro other different freed
        by_cases same : freed = lock
        · have holds : before.holder lock = some thread := (held lock).mpr (List.mem_cons_self ..)
          rw [same, Function.update_self, ← kept.held other lock, holds]
          simp [Ne.symm different]
        · rw [Function.update_of_ne same]
          exact kept.held other freed

theorem deadlockFree_iff (thread other : Thread)
    {uncrossed : Threads Thread Lock → ThreadEvent Thread Operation → Prop}
    {path : List (Threads Thread Lock × ThreadEvent Thread Operation)} {last : Threads Thread Lock}
    (run : Run (Step operations) idle path last)
    (decided : ∀ before event after, Kept operations before → Kept operations after →
      Step operations before event after →
      ¬ Crossed (before.programs thread) (before.programs other) →
      (¬ Crossed (after.programs thread) (after.programs other) ↔ uncrossed before event)) :
    Run.Throughout (fun threads => ¬ threads.Deadlocked thread other) path last ↔
      Run.Meets uncrossed path := by
  refine Run.throughout_iff (Kept operations)
    (fun threads => ¬ threads.Deadlocked thread other) uncrossed run
    kept_idle nofun (fun _ _ _ kept => kept.step closed) ?_
  intro before event after kept apart step
  have keptAfter := kept.step closed step
  rw [kept.deadlocked_iff] at apart
  rw [keptAfter.deadlocked_iff]
  exact decided before event after kept keptAfter step apart

end Operations

end Threads

end Splinter.Library
