import Splinter.TwoPhase.Simulation
import Splinter.TwoPhase.Wire

/-!
# Deciding when every verifier has been counted

The coordinator counts a verifier when a VERIFIED response arrives and when its own
manager reports that the proposal is valid.  Only the first handler looks whether
the verifiers are complete, and it compares the two sets by equality.
-/

namespace Splinter.TwoPhase

open Library Consensus

namespace TwoPhaseEngine

/-- Some verifier is missing for the proposal the engine coordinates. -/
def Undecided (engine : TwoPhaseEngine) : Prop :=
  ∀ proposal, engine.state = .evaluatingProposal proposal → engine.id = proposal.coordinatorId →
    ¬ proposal.requiredVerifiers ⊆ proposal.peersVerified

theorem undecided_iff_of_evaluating {engine : TwoPhaseEngine} {proposal : TwoPhaseProposal}
    (evaluating : engine.state = .evaluatingProposal proposal) :
    engine.Undecided ↔
      (engine.id = proposal.coordinatorId →
        ¬ proposal.requiredVerifiers ⊆ proposal.peersVerified) := by
  unfold Undecided
  rw [evaluating]
  constructor
  · intro undecided
    exact undecided proposal rfl
  · rintro undecided _ ⟨⟩
    exact undecided

instance : DecidablePred Undecided := fun engine =>
  match shape : engine.state with
  | .evaluatingProposal _ => decidable_of_iff' _ (undecided_iff_of_evaluating shape)
  | .idle => isTrue (by simp [Undecided, shape])
  | .awaitingProposal => isTrue (by simp [Undecided, shape])

/-- The input is the vote of the last missing verifier for a proposal that the
engine coordinates. -/
def CompletedBy (codecs : Codecs) (engine : TwoPhaseEngine) (input : Input)
    (proposal : TwoPhaseProposal) (voter : PeerId) : Prop :=
  engine.state = .evaluatingProposal proposal ∧ engine.id = proposal.coordinatorId ∧
    Votes codecs engine input proposal voter ∧
    proposal.requiredVerifiers ⊆ insert voter proposal.peersVerified

/-- With the last vote the proposal is accepted and the decision broadcast. -/
def Announces (codecs : Codecs) (engine : TwoPhaseEngine) (input : Input)
    (exchanges : List Exchange) : Prop :=
  ∀ proposal voter, CompletedBy codecs engine input proposal voter → ∃ answer, exchanges =
    [(.acceptProposal proposal.proposalId none, .ok ()),
      (.broadcast
        (codecs.twoPhaseMessage.write (resultMessage proposal.proposalId .apply)), answer)]

/-- The last vote is a response, only required verifiers have been counted, and
the manager does not refuse the proposal. -/
def Conclusive (codecs : Codecs) (engine : TwoPhaseEngine) (input : Input)
    (exchanges : List Exchange) : Prop :=
  ∀ proposal voter, CompletedBy codecs engine input proposal voter →
    (∃ message, input = .handleConsensusMsg message) ∧
      insert voter proposal.peersVerified ⊆ proposal.requiredVerifiers ∧
      ∀ error, (.acceptProposal proposal.proposalId none, .error error) ∉ exchanges

section Votes

variable {codecs : Codecs} {now : Instant} {engine after : TwoPhaseEngine}
  {input : Input} {exchanges : List Exchange} {proposal : TwoPhaseProposal}
  {voter : PeerId}

section

variable (transition : Transition codecs now engine input exchanges after)
include transition

/-- A vote is counted, and completes the coordination exactly if it is a
response that makes the counted peers equal to the required ones. -/
theorem Transition.of_vote (evaluating : engine.state = .evaluatingProposal proposal)
    (votes : Votes codecs engine input proposal voter) :
    ((∃ message, input = .handleConsensusMsg message) ∧
      insert voter proposal.peersVerified = proposal.requiredVerifiers ∧
      Completion codecs
        { engine with
          state := .evaluatingProposal (proposal.addVerifiedPeer voter) }
          proposal.proposalId .apply exchanges after) ∨
      after.state = .evaluatingProposal (proposal.addVerifiedPeer voter) ∧
        ((∃ message, input = .handleConsensusMsg message) → insert voter proposal.peersVerified ≠
            proposal.requiredVerifiers) := by
  have current : engine.evaluatingProposal proposal.proposalId = true :=
    (evaluatingProposal_eq_true_iff _ _).mpr (evaluates_of_state evaluating)
  have unique {counting : TwoPhaseProposal} (same : engine.state = .evaluatingProposal counting) :
      counting = proposal := by
    injection same.symm.trans evaluating
  rcases votes with ⟨message, rfl, received, rfl⟩ | ⟨valid, coordinator, rfl⟩
  · cases transition with
    | voteCounted _ counting incomplete =>
      obtain rfl := unique counting
      exact Or.inr ⟨rfl, fun _ => incomplete⟩
    | voteCompleted _ counting complete completion =>
      obtain rfl := unique counting
      exact Or.inl ⟨⟨_, rfl⟩, complete, completion⟩
    | ignored ignores =>
      simp only [Ignores, received] at ignores
      cases ignores current
    | requestBacklogged decoded _ | requested decoded _ _
    | requestFailed decoded _ _ | applied decoded _ | applyFailed decoded _
    | rejected decoded _ | rejectedOther decoded _ | rejectFailed decoded =>
      cases received.symm.trans decoded
    | voteFailed decoded _ _ =>
      injection received.symm.trans decoded with _ differs
      cases differs
  · cases transition with
    | verificationRequested counting _ =>
      obtain rfl := unique counting
      refine Or.inr ⟨rfl, ?_⟩
      rintro ⟨message, ⟨⟩⟩
    | verifiedSent counting participant =>
      obtain rfl := unique counting
      exact (participant coordinator).elim
    | ignored ignores =>
      subst valid
      rw [Ignores, current] at ignores
      cases ignores
    | emptyRejected delivered _ _ | emptyRejectFailed delivered _ _
    | proposalBacklogged delivered _ _ _ _ _
    | proposalCoordinated delivered _ _ _ _ _ _ _ =>
      cases valid
      cases delivered
    | _ => cases valid

theorem announced_of_conclusive (completed : CompletedBy codecs engine input proposal voter)
    (conclusive : Conclusive codecs engine input exchanges) :
    after.state = .idle ∧ ∃ answer, exchanges =
      [(.acceptProposal proposal.proposalId none, .ok ()),
        (.broadcast
          (codecs.twoPhaseMessage.write (resultMessage proposal.proposalId .apply)), answer)] := by
  obtain ⟨response, required, accepted⟩ := conclusive proposal voter completed
  obtain ⟨evaluating, _, votes, enough⟩ := completed
  rcases transition.of_vote evaluating votes with
    ⟨_, _, completion⟩ | ⟨_, incomplete⟩
  · cases completion with
    | refused decided =>
      cases decided
      exact (accepted _ (List.mem_singleton.mpr rfl)).elim
    | announced decided =>
      cases decided
      exact ⟨rfl, _, rfl⟩
  · exact (incomplete response (required.antisymm enough)).elim

theorem conclusive_of_undecided (undecided : after.Undecided) :
    Conclusive codecs engine input exchanges := by
  rintro proposal voter ⟨evaluating, coordinator, votes, enough⟩
  have notCounted : after.state ≠ .evaluatingProposal (proposal.addVerifiedPeer voter) := by
    intro counted
    have own : after.id = proposal.coordinatorId := transition.id_eq.trans coordinator
    exact undecided _ counted own enough
  rcases transition.of_vote evaluating votes with
    ⟨response, complete, completion⟩ | ⟨counted, _⟩
  · cases completion with
    | refused _ => exact (notCounted rfl).elim
    | announced decided =>
      cases decided
      exact ⟨response, complete.subset, by simp⟩
  · exact (notCounted counted).elim

end

theorem Undecided.transition (kept : engine.WellKept) (undecided : engine.Undecided)
    (transition : Transition codecs now engine input exchanges after)
    (conclusive : Conclusive codecs engine input exchanges) :
    after.Undecided := by
  intro proposal evaluating coordinator enough
  have own : engine.id = proposal.coordinatorId := transition.id_eq.symm.trans coordinator
  rcases transition.state_cases evaluating with
    unchanged | ⟨earlier, voter, counting, rfl, votes⟩ | ⟨_, source⟩
  · exact undecided proposal unchanged own enough
  · obtain ⟨idle, _⟩ := announced_of_conclusive transition ⟨counting, own, votes, enough⟩ conclusive
    rw [idle] at evaluating
    cases evaluating
  · -- nobody has been counted for a proposal that is only now evaluated
    rw [unvoted_of_source kept source, Finset.subset_empty] at enough
    exact proposal.requiredVerifiers_ne_empty enough

end Votes

end TwoPhaseEngine

namespace Node

open TwoPhaseEngine

/-- In every state of a run the coordinator misses some verifier exactly if
every last vote of the run is conclusive; then the step of the last vote
accepts the proposal and broadcasts the decision. -/
theorem undecided_iff (codecs : Codecs) (coordinatorTimeoutDuration : Nat) (start : Instant)
    (self : PeerId) (peerIds : List PeerId) (path : List (Node × Record)) (last : Node)
    (run : Run (Step codecs) (boot coordinatorTimeoutDuration start self peerIds) path last) :
    (Run.Throughout (fun node => node.engine.Undecided) path last ↔ Run.Meets
          (fun node record =>
            Conclusive codecs node.engine record.input record.exchanges)
          path) ∧
      (Run.Throughout (fun node => node.engine.Undecided) path last → Run.Meets
          (fun node record =>
            Announces codecs node.engine record.input record.exchanges)
          path) := by
  have kept := wellKept_boot coordinatorTimeoutDuration start self peerIds
  have preserved (before : Node) (record : Record) (after : Node) (kept : before.engine.WellKept)
      (step : Step codecs before record after) :
      after.engine.WellKept :=
    kept.transition step.transition
  have characterised := Run.throughout_iff (fun node => node.engine.WellKept)
      (fun node => node.engine.Undecided)
      (fun node record =>
        Conclusive codecs node.engine record.input record.exchanges)
      run kept nofun preserved
      fun _ _ _ kept undecided step =>
        ⟨conclusive_of_undecided step.transition, undecided.transition kept step.transition⟩
  have announced := Run.forall_iff (fun node => node.engine.WellKept)
      (fun node => node.engine.Undecided)
      (fun node record =>
        Announces codecs node.engine record.input record.exchanges)
      (fun node record =>
        Conclusive codecs node.engine record.input record.exchanges)
      run kept nofun preserved
      fun _ _ _ kept undecided step =>
        ⟨fun reached => conclusive_of_undecided step.transition reached.1, fun conclusive =>
            ⟨undecided.transition kept step.transition conclusive,
              fun _ _ completed =>
                (announced_of_conclusive step.transition completed conclusive).2⟩⟩
  exact ⟨characterised, fun undecided => (announced.mpr (characterised.mp undecided)).2⟩

/-- A proposal without consensus data is created and found valid. -/
def singleProposal : List Action :=
  [Action.ok .getNextProposal, Action.ok
    (.handleProposalUpdate (.proposalCreated (some { Proposal.default with id := ⟨[7]⟩ }))),
    Action.ok (.handleProposalUpdate (.proposalValid ⟨[7]⟩))]

/-- The VERIFIED response of a peer for that proposal. -/
def verifiedBy (peer : PeerId) : Action := Action.ok
    (.handleConsensusMsg
      { message := Codecs.protobuf.twoPhaseMessage.write
            (verificationResponse ⟨[7]⟩ .verified)
        originId := peer })

/-- The response of the other verifier completes the coordination, and the
decision is announced. -/
theorem announced_by_two_verifiers : Run.Meets
      (fun node record =>
        Announces .protobuf node.engine record.input record.exchanges)
      ((boot 30000 0 ⟨[1]⟩ [⟨[2]⟩]).path .protobuf (singleProposal ++ [verifiedBy ⟨[2]⟩])) := by
  have run := run_performAll .protobuf (boot 30000 0 ⟨[1]⟩ [⟨[2]⟩])
      (singleProposal ++ [verifiedBy ⟨[2]⟩])
  have undecided : Run.Throughout (fun node => node.engine.Undecided)
        ((boot 30000 0 ⟨[1]⟩ [⟨[2]⟩]).path .protobuf (singleProposal ++ [verifiedBy ⟨[2]⟩]))
        ((boot 30000 0 ⟨[1]⟩ [⟨[2]⟩]).performAll .protobuf
          (singleProposal ++ [verifiedBy ⟨[2]⟩])) := by
    decide +kernel
  exact (undecided_iff _ _ _ _ _ _ _ run).2 undecided

/-- The only verifier of a proposal is its coordinator.  It goes on evaluating
the proposal when it has been verified, and rejects it at the timeout. -/
theorem single_verifier_rejected : ∃ path last proposal,
      Run (Step .protobuf) (boot 30000 0 ⟨[1]⟩ []) path last ∧
        last.engine.state = .evaluatingProposal proposal ∧
        last.engine.id = proposal.coordinatorId ∧
        proposal.requiredVerifiers ⊆ proposal.peersVerified ∧
        ∃ exchanges after, Interaction.Trace (abortProposalIfTimedOut .protobuf 30001 last.engine)
            exchanges after ∧
          (.rejectProposal proposal.proposalId, .ok ()) ∈ exchanges := by
  refine
    ⟨_, _, _, run_performAll .protobuf _ singleProposal, rfl, rfl, ?_, _, _,
      Interaction.play_trace (fun _ => .ok ()) _, ?_⟩
  · decide +kernel
  · decide +kernel

end Node

end Splinter.TwoPhase
