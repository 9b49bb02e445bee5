import Mathlib.Tactic.Common

/-!
# The reconnects of a WebSocket

The outcomes of the connections of a `WebSocketClient` and what `listen` does about them, with
the reactor running and no shutdown requested.  `listen` clones its context before
`ws_connected` resets the count of attempts, and some closures use the clones.
-/

namespace Splinter.Events

structure WebSocketClient where
  reconnect : Bool
  reconnectLimit : Nat

structure Context where
  ws : WebSocketClient
  reconnectCount : Nat

inductive WebSocketError where
  | reconnectError (message : String)
  | connectError (message : String)

/-- What a connection comes to.  `openFailed`: the response of `on_open` is not sent;
`timedOut`: it is idle, or reading from it fails; `unexpectedClose`: a message cannot be
parsed or answered. -/
inductive Outcome where
  | connectFailed
  | openFailed
  | timedOut
  | unexpectedClose
  | closed
  | ended
  deriving DecidableEq

/-- The next connection is started with the context, or `on_error` is called. -/
inductive Effect where
  | startWs (context : Context)
  | onError (error : WebSocketError) (context : Context)

namespace Context

def new (ws : WebSocketClient) : Context := ⟨ws, 0⟩

def wsConnected (context : Context) : Context := { context with reconnectCount := 0 }

def reconnect (context : Context) : Effect :=
  .startWs { context with reconnectCount := context.reconnectCount + 1 }

def tryReconnect (context : Context) : Effect :=
  if context.ws.reconnect ∧ context.reconnectCount < context.ws.reconnectLimit then
    context.reconnect
  else
    let errorMessage :=
      if context.ws.reconnect then
        .reconnectError ("Cannot connect to ws server. " ++
          "Reached maximum limit of reconnection attempts")
      else
        .connectError "Cannot connect to ws server"
    .onError errorMessage context.wsConnected

def listen (context : Context) : Outcome → Option Effect :=
  let contextTimeout := context
  let contextConnection := context
  fun
  | .connectFailed => some contextConnection.tryReconnect
  | .openFailed => none
  | .timedOut => some contextTimeout.tryReconnect
  | .unexpectedClose | .closed => some context.wsConnected.tryReconnect
  -- `take_while` and `for_each` end with the stream
  | .ended => none

/-- What a caller sees: the number of the attempt is logged. -/
inductive Reaction where
  | reconnect (attempt : Nat)
  | onError
  | nothing
  deriving DecidableEq

def reactions (context : Context) : List Outcome → List Reaction
  | [] => []
  | outcome :: later =>
    match context.listen outcome with
    | some (.startWs next) => .reconnect next.reconnectCount :: next.reactions later
    | some (.onError _ _) => [.onError]
    | none => [.nothing]

/-- The attempts since the start or the last connection that was established. -/
def attemptsMade (attempts : Nat) (outcome : Outcome) : Nat :=
  if outcome = .connectFailed then attempts else 0

def policy (limit attempts : Nat) : List Outcome → List Reaction
  | [] => []
  | outcome :: later =>
    if attemptsMade attempts outcome < limit then
      .reconnect (attemptsMade attempts outcome + 1) ::
        policy limit (attemptsMade attempts outcome + 1) later
    else [.onError]

/-- The outcome is answered, and the count of the clone that answers it is right. -/
def Handled (attempts : Nat) (outcome : Outcome) : Prop :=
  outcome ≠ .openFailed ∧ outcome ≠ .ended ∧ (outcome = .timedOut → attempts = 0)

variable {limit attempts : Nat} {outcome : Outcome} {later : List Outcome}

theorem reactions_of_tryReconnect {count : Nat}
    (answered : listen ⟨⟨true, limit⟩, attempts⟩ outcome =
      some (tryReconnect ⟨⟨true, limit⟩, count⟩)) :
    reactions ⟨⟨true, limit⟩, attempts⟩ (outcome :: later) =
      if count < limit then .reconnect (count + 1) :: reactions ⟨⟨true, limit⟩, count + 1⟩ later
      else [.onError] := by
  rw [reactions, answered, tryReconnect]
  by_cases room : count < limit
  · rw [if_pos ⟨rfl, room⟩, if_pos room]
    rfl
  · rw [if_neg fun both => room both.2, if_neg room]

theorem reactions_cons (handled : Handled attempts outcome) :
    reactions ⟨⟨true, limit⟩, attempts⟩ (outcome :: later) =
      if attemptsMade attempts outcome < limit then
        .reconnect (attemptsMade attempts outcome + 1) ::
          reactions ⟨⟨true, limit⟩, attemptsMade attempts outcome + 1⟩ later
      else [.onError] := by
  obtain ⟨opened, continued, first⟩ := handled
  refine reactions_of_tryReconnect ?_
  cases outcome with
  | openFailed => exact absurd rfl opened
  | ended => exact absurd rfl continued
  | timedOut =>
    rw [first rfl]
    rfl
  | connectFailed | unexpectedClose | closed => rfl

theorem reactions_ne (within : attempts ≤ limit) (unhandled : ¬ Handled attempts outcome) :
    reactions ⟨⟨true, limit⟩, attempts⟩ (outcome :: later) ≠
      policy limit attempts (outcome :: later) := by
  cases outcome with
  | connectFailed | unexpectedClose | closed => simp [Handled] at unhandled
  | openFailed | ended =>
    rw [policy]
    split <;> simp [reactions, listen]
  | timedOut =>
    have stale : attempts ≠ 0 := by simpa [Handled] using unhandled
    have positive : attemptsMade attempts .timedOut < limit :=
      Nat.lt_of_lt_of_le (Nat.pos_of_ne_zero stale) within
    rw [reactions_of_tryReconnect rfl, policy, if_pos positive]
    split <;> simp [attemptsMade, stale]

theorem reactions_eq_policy_iff {outcomes : List Outcome} (within : attempts ≤ limit) :
    reactions ⟨⟨true, limit⟩, attempts⟩ outcomes = policy limit attempts outcomes ↔
      ∀ index outcome, outcomes[index]? = some outcome →
        .onError ∉ policy limit attempts (outcomes.take index) →
          Handled (attempts + index) outcome := by
  induction outcomes generalizing attempts with
  | nil => simp [reactions, policy]
  | cons outcome later ih =>
    rw [← Nat.and_forall_add_one]
    by_cases handled : Handled attempts outcome
    · rw [reactions_cons handled]
      simp only [policy, List.take_succ_cons]
      split
      · rename_i room
        have remaining := ih (Nat.succ_le_of_lt room)
        -- after a reconnect there have been attempts, whatever their number
        have later : ∀ index made next, Handled (made + 1 + index) next ↔
            Handled (attempts + (index + 1)) next := by
          simp [Handled, Nat.add_right_comm _ 1]
        simp [remaining, handled, later, policy]
      · simp [handled, policy]
    · refine iff_of_false (reactions_ne within handled) fun all => ?_
      exact handled (all.1 outcome rfl (by simp [policy]))

/-- The reconnects follow the policy unless a connection ends in silence, or one that is not
the first is idle or cannot be read. -/
theorem reconnects_iff (limit : Nat) (outcomes : List Outcome) :
    (new ⟨true, limit⟩).reactions outcomes = policy limit 0 outcomes ↔
      ∀ index outcome, outcomes[index]? = some outcome →
        .onError ∉ policy limit 0 (outcomes.take index) →
          outcome ≠ .openFailed ∧ outcome ≠ .ended ∧ (outcome = .timedOut → index = 0) := by
  rw [new, reactions_eq_policy_iff (Nat.zero_le limit)]
  simp only [Handled, Nat.zero_add]

/-- With a limit of one attempt, the second idle connection is the end. -/
theorem idle_connection_exhausts_limit :
    (new ⟨true, 1⟩).reactions [.timedOut, .timedOut] = [.reconnect 1, .onError] ∧
      policy 1 0 [.timedOut, .timedOut] = [.reconnect 1, .reconnect 1] ∧
      (new ⟨true, 1⟩).reactions [.ended] = [.nothing] := by
  decide

end Context

end Splinter.Events
