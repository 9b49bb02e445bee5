import Mathlib.Data.List.Count
import Splinter.Library.Run
import Splinter.TwoPhase.Decisions

/-!
# An engine and what it has done

A `Node` is an engine with the record of all its handler calls.  The main
result is `Regular.step`: when no proposal is handed to the engine twice, a
proposal is checked successfully at most once, is decided at most once, and is
not kept after its decision.
-/

namespace Splinter.TwoPhase

open Library Consensus TwoPhaseEngine

/-- One handler call: when and why it happened and what it asked. -/
structure Record where
  now : Instant
  input : Input
  exchanges : List Exchange
  deriving DecidableEq

/-- An engine together with its past handler calls. -/
structure Node where
  engine : TwoPhaseEngine
  history : List Record
  deriving DecidableEq

def Handed (history : List Record) (id : ProposalId) : Prop :=
  ∃ record ∈ history, Hands record.input id

instance (history : List Record) (id : ProposalId) : Decidable (Handed history id) :=
  inferInstanceAs (Decidable (∃ record ∈ history, Hands record.input id))

/-- A method of the manager or the network has been called. -/
def Called (history : List Record) (call : Call) : Prop :=
  ∃ record ∈ history, ∃ answer, (call, answer) ∈ record.exchanges

variable (history : List Record)

instance (history : List Record) (call : Call) : Decidable (Called history call) :=
  decidable_of_iff (call ∈ history.flatMap fun record => record.exchanges.map Prod.fst)
    (by simp [Called])

/-- How often a call has been made with a given answer. -/
def answered (history : List Record) (exchange : Exchange) : Nat :=
  (history.flatMap Record.exchanges).count exchange

variable (record : Record)

@[simp]
theorem handed_append_iff (id : ProposalId) :
    Handed (history ++ [record]) id ↔ Handed history id ∨ Hands record.input id := by
  simp [Handed, or_and_right, exists_or]

@[simp]
theorem called_append_iff (call : Call) : Called (history ++ [record]) call ↔
    Called history call ∨ ∃ answer, (call, answer) ∈ record.exchanges := by
  simp [Called, or_and_right, exists_or]

@[simp]
theorem answered_append (exchange : Exchange) : answered (history ++ [record]) exchange =
    answered history exchange + record.exchanges.count exchange := by
  simp [answered]

@[simp]
theorem answered_nil (exchange : Exchange) : answered [] exchange = 0 := by
  simp [answered]

namespace Node

def boot (coordinatorTimeoutDuration : Nat) (now : Instant) (id : PeerId)
    (peerIds : List PeerId) : Node where
  engine := startup coordinatorTimeoutDuration now id peerIds
  history := []

theorem wellKept_boot (coordinatorTimeoutDuration : Nat) (now : Instant) (id : PeerId)
    (peerIds : List PeerId) :
    (boot coordinatorTimeoutDuration now id peerIds).engine.WellKept := by
  constructor <;> simp [boot, startup, TwoPhaseEngine.new, backloggedIds, Evaluates]

/-- One handler call, whatever the manager and the network answer. -/
def Step (codecs : Codecs) (before : Node) (record : Record) (after : Node) : Prop :=
  (∃ returned, Interaction.Trace (handle codecs record.now record.input before.engine)
    record.exchanges (returned, after.engine)) ∧
    after.history = before.history ++ [record]

theorem Step.transition {codecs : Codecs} {before after : Node} {record : Record}
    (step : Step codecs before record after) :
    Transition codecs record.now before.engine record.input record.exchanges after.engine := by
  obtain ⟨⟨returned, trace⟩, _⟩ := step
  exact transition_of_trace trace

theorem wellKept_of_run {codecs : Codecs} {first last : Node} {path : List (Node × Record)}
    (run : Run (Step codecs) first path last) (kept : first.engine.WellKept) :
    last.engine.WellKept := by
  induction run with
  | start => exact kept
  | snoc _ step ih => exact ih.transition step.transition

end Node

namespace TwoPhaseEngine

variable {codecs : Codecs} {now : Instant} {engine after : TwoPhaseEngine}
  {input : Input} {exchanges : List Exchange} {result : ProposalResult} {id : ProposalId}

theorem Decides.keeps_or_hands {proposal : TwoPhaseProposal}
    (decides : Decides codecs engine proposal input result) :
    engine.Keeps proposal.proposalId ∨ Hands input proposal.proposalId := by
  cases decides with
  | timedOut evaluating _ | verified evaluating _ _ | failed evaluating _
  | invalid evaluating _ => exact Or.inl (Or.inl (evaluates_of_state evaluating))
  | unchecked _ source =>
    rcases source with member | delivers
    · exact Or.inl (Or.inr (List.mem_map_of_mem member))
    · exact Or.inr delivers.hands

theorem Transition.of_resultCall (kept : engine.WellKept)
    (transition : Transition codecs now engine input exchanges after)
    (announced : resultCall codecs id result ∈ outgoing exchanges) :
    outgoing exchanges = [resultCall codecs id result] ∧ ¬ after.Keeps id ∧
      ∃ proposal, proposal.proposalId = id ∧ Decides codecs engine proposal input result := by
  have shape := transition.outgoing_cases kept
  generalize outgoing exchanges = sent at announced shape
  cases shape with
  | nothing => cases announced
  | request _ _ _ =>
    have same := List.mem_singleton.mp announced
    exact (requestCall_ne_resultCall _ _ _ _ same.symm).elim
  | verified _ _ _ _ | failed _ _ _ _ =>
    have same := List.mem_singleton.mp announced
    simp [resultCall, responseCall] at same
  | result decides gone =>
    have same := List.mem_singleton.mp announced
    obtain ⟨rfl, rfl⟩ := (resultCall_inj _ _ _ _ _).mp same
    exact ⟨rfl, gone, _, rfl, decides⟩

theorem Transition.count_checkProposal_le
    (transition : Transition codecs now engine input exchanges after) :
    exchanges.count (.checkProposal id, .ok ()) ≤ 1 := by
  have coordination {coordinator : TwoPhaseEngine} {proposal : TwoPhaseProposal}
      (coordination : Coordination codecs now coordinator proposal exchanges after) :
      exchanges.count (.checkProposal id, .ok ()) ≤ 1 := by
    cases coordination with
    | started => exact List.count_le_length
    | rejected completion =>
      rw [List.count_cons_of_ne (by simp), List.count_eq_zero.mpr completion.checkProposal_notMem]
      exact Nat.zero_le 1
  cases transition with
  | timedOut _ _ completion | voteCompleted _ _ _ completion
  | voteFailed _ _ completion | invalidRejected _ _ completion =>
    rw [List.count_eq_zero.mpr completion.checkProposal_notMem]
    exact Nat.zero_le 1
  | coordinated _ _ result | proposalCoordinated _ _ _ _ _ _ _ result => exact coordination result
  | ignored _ | requestBacklogged _ _ | voteCounted _ _ _ | nothingCreated _
  | proposalBacklogged _ _ _ _ _ _ => exact Nat.zero_le 1
  | _ => exact List.count_le_length

end TwoPhaseEngine

namespace Node

/-- What holds of a node to which no proposal is handed twice. -/
structure Regular (codecs : Codecs) (node : Node) : Prop where
  wellKept : node.engine.WellKept
  kept_handed : ∀ id, node.engine.Keeps id → Handed node.history id
  checked_once : ∀ id, answered node.history (.checkProposal id, .ok ()) ≤ 1
  checked_gone : ∀ id, answered node.history (.checkProposal id, .ok ()) ≠ 0 →
    Handed node.history id ∧ id ∉ node.engine.backloggedIds
  announced_gone : ∀ id result, Called node.history (resultCall codecs id result) →
    Handed node.history id ∧ ¬ node.engine.Keeps id
  announced_once : ∀ id result other, Called node.history (resultCall codecs id result) →
    Called node.history (resultCall codecs id other) → result = other

/-- No proposal is handed to the engine again. -/
def HandsOnce (node : Node) (record : Record) : Prop :=
  ∀ id, Hands record.input id → ¬ Handed node.history id

instance (node : Node) (record : Record) : Decidable (node.HandsOnce record) := decidable_of_iff
    (∀ id ∈ handedId record.input, ¬ Handed node.history id)
    (by simp only [HandsOnce, hands_iff, Option.mem_def])

theorem called_of_append {history : List Record} {record : Record} {call : Call}
    (network : isNetworkCall call = true) (called : Called (history ++ [record]) call) :
    Called history call ∨ call ∈ outgoing record.exchanges := by
  rw [called_append_iff] at called
  rcases called with earlier | now
  · exact Or.inl earlier
  · exact Or.inr ((mem_outgoing_iff _ _).mpr ⟨network, now⟩)

section Step

variable {codecs : Codecs} {before after : Node} {record : Record} {id : ProposalId}

theorem Regular.checked_absent (regular : before.Regular codecs)
    (step : Step codecs before record after) (once : before.HandsOnce record)
    (again : (.checkProposal id, .ok ()) ∈ record.exchanges) :
    answered before.history (.checkProposal id, .ok ()) = 0 := by
  by_contra checked
  obtain ⟨handed, absent⟩ := regular.checked_gone id checked
  rcases (step.transition.of_checkProposal again).1 with
    member | ⟨tracked, delivers, rfl⟩
  · exact absent member
  · exact once _ delivers.hands handed

theorem Regular.announced_absent (regular : before.Regular codecs)
    (step : Step codecs before record after)
    (once : before.HandsOnce record) {result other : ProposalResult}
    (announced : resultCall codecs id result ∈ outgoing record.exchanges) :
    ¬ Called before.history (resultCall codecs id other) := by
  intro earlier
  obtain ⟨handed, gone⟩ := regular.announced_gone id other earlier
  obtain ⟨_, _, proposal, rfl, decides⟩ := step.transition.of_resultCall regular.wellKept announced
  rcases decides.keeps_or_hands with keeps | hands
  · exact gone keeps
  · exact once _ hands handed

theorem Regular.step (regular : before.Regular codecs) (step : Step codecs before record after)
    (once : before.HandsOnce record) :
    after.Regular codecs := by
  have transition := step.transition
  have past := step.2
  constructor
  case wellKept => exact regular.wellKept.transition transition
  case kept_handed =>
    intro id keeps
    rw [past, handed_append_iff]
    rcases transition.keeps_cases keeps with earlier | hands
    · exact Or.inl (regular.kept_handed id earlier)
    · exact Or.inr hands
  case checked_once =>
    intro id
    rw [past, answered_append]
    by_cases again : (.checkProposal id, .ok ()) ∈ record.exchanges
    · rw [regular.checked_absent step once again]
      have single : record.exchanges.count (.checkProposal id, .ok ()) ≤ 1 :=
        transition.count_checkProposal_le
      omega
    · rw [List.count_eq_zero.mpr again]
      exact regular.checked_once id
  case checked_gone =>
    intro id checked
    rw [past, answered_append] at checked
    rw [past, handed_append_iff]
    by_cases again : (.checkProposal id, .ok ()) ∈ record.exchanges
    · obtain ⟨source, passed⟩ := transition.of_checkProposal again
      have separate := (regular.wellKept.transition transition).separate id (passed rfl)
      refine ⟨?_, separate⟩
      rcases source with member | ⟨tracked, delivers, rfl⟩
      · exact Or.inl (regular.kept_handed id (Or.inr member))
      · exact Or.inr delivers.hands
    · rw [List.count_eq_zero.mpr again] at checked
      obtain ⟨handed, absent⟩ := regular.checked_gone id checked
      refine ⟨Or.inl handed, ?_⟩
      intro member
      rcases transition.backloggedIds_cases member with earlier | hands
      · exact absent earlier
      · exact once id hands handed
  case announced_gone =>
    intro id result announced
    rw [past] at announced
    rw [past, handed_append_iff]
    rcases called_of_append rfl announced with earlier | now
    · obtain ⟨handed, gone⟩ := regular.announced_gone id result earlier
      refine ⟨Or.inl handed, ?_⟩
      intro keeps
      rcases transition.keeps_cases keeps with kept | hands
      · exact gone kept
      · exact once id hands handed
    · obtain ⟨_, gone, proposal, rfl, decides⟩ := transition.of_resultCall regular.wellKept now
      refine ⟨?_, gone⟩
      rcases decides.keeps_or_hands with keeps | hands
      · exact Or.inl (regular.kept_handed _ keeps)
      · exact Or.inr hands
  case announced_once =>
    intro id result other announced otherAnnounced
    rw [past] at announced otherAnnounced
    rcases called_of_append rfl announced with earlier | now
    · rcases called_of_append rfl otherAnnounced with otherEarlier | otherNow
      · exact regular.announced_once id result other earlier otherEarlier
      · exact (regular.announced_absent step once otherNow earlier).elim
    · rcases called_of_append rfl otherAnnounced with otherEarlier | otherNow
      · exact (regular.announced_absent step once now otherEarlier).elim
      · have single := (transition.of_resultCall regular.wellKept now).1
        rw [single, List.mem_singleton, resultCall_inj] at otherNow
        exact otherNow.2.symm

end Step

end Node

end Splinter.TwoPhase
