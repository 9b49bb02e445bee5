import Mathlib.Order.Basic

/-!
# The coordinator timeout

`Timeout` is a timer that is checked now and then.  Readings of the clock are
arguments, so nothing is assumed about when a check happens.
-/

namespace Splinter.TwoPhase

abbrev Instant := Nat

inductive TimeoutState where
  | active
  | inactive
  | expired
  deriving DecidableEq, Repr

structure Timeout where
  state : TimeoutState
  duration : Nat
  start : Instant
  deriving DecidableEq, Repr

namespace Timeout

def new (duration : Nat) (now : Instant) : Timeout where
  state := .inactive
  duration := duration
  start := now

variable (timeout : Timeout)

/-- The timer after its state has been updated at time `now`. -/
def update (now : Instant) : Timeout :=
  if timeout.state = .active ∧ now - timeout.start > timeout.duration then
    { timeout with state := .expired }
  else
    timeout

/-- Whether the timer is found expired when checked at time `now`. -/
def checkExpired (now : Instant) : Bool :=
  match (timeout.update now).state with
  | .active | .inactive => false
  | .expired => true

def restart (now : Instant) : Timeout :=
  { timeout with state := .active, start := now }

def stop : Timeout := { timeout with state := .inactive }

/-- The timer has been started and not stopped since. -/
def Running : Prop := timeout.state ≠ .inactive

instance (timeout : Timeout) : Decidable timeout.Running :=
  inferInstanceAs (Decidable (timeout.state ≠ .inactive))

@[simp]
theorem not_running_new (duration : Nat) (now : Instant) : ¬ (new duration now).Running := by
  simp [new, Running]

variable (timeout : Timeout)

@[simp]
theorem not_running_stop : ¬ timeout.stop.Running := by
  simp [stop, Running]

@[simp]
theorem running_update (now : Instant) : (timeout.update now).Running ↔ timeout.Running := by
  unfold update
  split
  · simp_all [Running]
  · rfl

theorem running_of_checkExpired {timeout : Timeout} {now : Instant}
    (expired : timeout.checkExpired now = true) :
    timeout.Running := by
  rw [← running_update timeout now]
  intro inactive
  simp [checkExpired, inactive] at expired

end Timeout

end Splinter.TwoPhase
