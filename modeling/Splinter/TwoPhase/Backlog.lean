import Splinter.TwoPhase.Simulation
import Splinter.TwoPhase.Wire

/-!
# The structure of the backlog

Whatever is delivered to an engine, and however often, the proposals it keeps are
distinct and well formed, and what it takes out of a backlog by position is there.
-/

namespace Splinter.TwoPhase

open Library Consensus TwoPhaseEngine
open TwoPhaseProposal (hasId)

/-- `position`, and then `remove` with an `unwrap`: there is no outcome if it panics. -/
def removeFound {Item : Type} (wanted : Item → Bool) (items : List Item) :
    Option (Option (Item × List Item)) :=
  match items.findIdx? wanted with
  | none => some none
  | some idx => items[idx]?.map fun item => some (item, items.eraseIdx idx)

theorem removeFound_eq {Item : Type} (wanted : Item → Bool) (items : List Item) :
    removeFound wanted items =
      some ((items.find? wanted).map fun item => (item, items.eraseP wanted)) := by
  unfold removeFound
  rw [List.find?_eq_bind_findIdx?_getElem?, List.eraseP_eq_eraseIdx]
  cases position : items.findIdx? wanted with
  | none => rfl
  | some idx =>
    obtain ⟨inside, _⟩ := List.findIdx?_eq_some_iff_getElem.mp position
    simp [List.getElem?_eq_getElem inside]

/-- `handle_backlogged_verification_request` takes a request out of its backlog, and then
the proposal, whose position must be found as well. -/
def removeRequested (engine : TwoPhaseEngine) : Option (Option (TwoPhaseProposal × ProposalId)) :=
  match removeFound engine.isBacklogged engine.verificationRequestBacklog with
  | none => none
  | some none => some none
  | some (some (proposalId, _)) =>
    match removeFound (hasId proposalId) engine.proposalBacklog with
    | some (some (proposal, _)) => some (some (proposal, proposalId))
    | some none | none => none

theorem removeRequested_isSome (engine : TwoPhaseEngine) :
    (removeRequested engine).isSome = true := by
  unfold removeRequested
  rw [removeFound_eq]
  cases requested : engine.verificationRequestBacklog.find? engine.isBacklogged with
  | none => rfl
  | some proposalId =>
    have backlogged := List.find?_some requested
    obtain ⟨proposal, member, same⟩ := List.any_eq_true.mp backlogged
    cases found : engine.proposalBacklog.find? (hasId proposalId) with
    | none => exact absurd same (List.find?_eq_none.mp found proposal member)
    | some proposal => simp [removeFound_eq, found]

namespace Node

/-- In every run the backlog has each proposal once and not the one under
evaluation, coordinators are the least verifiers, and no removal panics. -/
theorem backlog_structured (codecs : Codecs) (coordinatorTimeoutDuration : Nat) (start : Instant)
    (self : PeerId) (peerIds : List PeerId) (path : List (Node × Record)) (last : Node)
    (run : Run (Step codecs) (boot coordinatorTimeoutDuration start self peerIds) path last) :
    last.engine.backloggedIds.Nodup ∧
    (∀ id, last.engine.Evaluates id → id ∉ last.engine.backloggedIds) ∧
    (∀ proposal, proposal ∈ last.engine.proposalBacklog ∨
        last.engine.state = .evaluatingProposal proposal →
      proposal.requiredVerifiers ≠ ∅ ∧
        IsLeast (proposal.requiredVerifiers : Set PeerId) proposal.coordinatorId) ∧
    (∀ wanted, (removeFound wanted last.engine.proposalBacklog).isSome = true) ∧
    (removeRequested last.engine).isSome = true := by
  have kept := wellKept_of_run run (wellKept_boot coordinatorTimeoutDuration start self peerIds)
  refine ⟨kept.distinct, kept.separate, ?_, ?_, removeRequested_isSome last.engine⟩
  · intro proposal _
    exact ⟨proposal.requiredVerifiers_ne_empty, proposal.lowest⟩
  · intro wanted
    rw [removeFound_eq]
    rfl

/-- A proposal is delivered twice to an engine that does not coordinate it. -/
theorem repeated_proposal_backlogged_once :
    let node := (boot 30000 0 ⟨[2]⟩ [⟨[1]⟩]).performAll .protobuf
      (List.replicate 2 (Action.ok (.handleProposalUpdate
        (.proposalReceived { Proposal.default with id := ⟨[7]⟩ } ⟨[1]⟩))))
    node.engine.backloggedIds = [⟨[7]⟩] ∧ node.engine.backloggedIds.Nodup := by
  intro node
  exact ⟨by decide +kernel, (backlog_structured _ _ _ _ _ _ _ (run_performAll .protobuf _ _)).1⟩

end Node

end Splinter.TwoPhase
