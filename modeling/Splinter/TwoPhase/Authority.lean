import Splinter.TwoPhase.Simulation
import Splinter.TwoPhase.Wire

/-!
# Who decides

A decision on a proposal belongs to its coordinator.  The engine counts responses
whoever coordinates the proposal, follows results whoever sends them, and leaves an
evaluation without stopping the coordinator timeout.
-/

namespace Splinter.TwoPhase

open Library Consensus TwoPhaseEngine

namespace TwoPhaseEngine

def Tracks (codecs : Codecs) (engine : TwoPhaseEngine) (input : Input)
    (proposal : TwoPhaseProposal) : Prop :=
  engine.state = .evaluatingProposal proposal ∨ proposal ∈ engine.proposalBacklog ∨
    Delivers codecs engine input proposal

section Transitions

variable {codecs : Codecs} {now : Instant} {engine after : TwoPhaseEngine}
  {input : Input} {exchanges : List Exchange} {id : ProposalId}
  {proposal : TwoPhaseProposal} {result : ProposalResult}

theorem Decides.tracks (decides : Decides codecs engine proposal input result) :
    Tracks codecs engine input proposal := by
  cases decides with
  | timedOut evaluating _ | verified evaluating _ _ | failed evaluating _
  | invalid evaluating _ => exact Or.inl evaluating
  | unchecked _ source => exact Or.inr source

/-- Among the proposals tracked while a message is handled, the one under
evaluation is determined by its identifier. -/
theorem Tracks.eq_of_evaluating {message : ConsensusMessage} {tracked : TwoPhaseProposal}
    (kept : engine.WellKept) (evaluating : engine.state = .evaluatingProposal proposal)
    (tracks : Tracks codecs engine (.handleConsensusMsg message) tracked)
    (sameId : tracked.proposalId = proposal.proposalId) :
    tracked = proposal := by
  rcases tracks with other | member | ⟨update, given, input, _⟩
  · rw [evaluating] at other
    injection other with same
    exact same.symm
  · have backlogged : tracked.proposalId ∈ engine.backloggedIds := List.mem_map_of_mem member
    rw [sameId] at backlogged
    exact (kept.separate _ (evaluates_of_state evaluating) backlogged).elim
  · cases input

theorem Completion.carriedOut {completed : ProposalId} {decision : ProposalResult}
    (completion : Completion codecs engine completed decision exchanges after)
    (announced : resultCall codecs id result ∈ outgoing exchanges) :
    ∃ call, decisionCall id result = some call ∧ (call, .ok ()) ∈ exchanges := by
  rcases completion.outgoing_cases with silent | ⟨single, _⟩
  · rw [silent] at announced
    cases announced
  · rw [single, List.mem_singleton, resultCall_inj] at announced
    obtain ⟨rfl, rfl⟩ := announced
    cases completion with
    | refused decided => cases result <;> cases decided <;> cases single
    | announced decided => exact ⟨_, decided, List.mem_cons_self⟩

theorem Transition.carriedOut_of_resultCall
    (transition : Transition codecs now engine input exchanges after)
    (announced : resultCall codecs id result ∈ outgoing exchanges) :
    ∃ call, decisionCall id result = some call ∧ (call, .ok ()) ∈ exchanges := by
  have coordinated {coordinator : TwoPhaseEngine} {proposal : TwoPhaseProposal}
      (coordination : Coordination codecs now coordinator proposal exchanges after) :
      ∃ call, decisionCall id result = some call ∧ (call, .ok ()) ∈ exchanges := by
    cases coordination with
    | started => cases announced
    | rejected completion =>
      obtain ⟨call, decision, made⟩ := completion.carriedOut announced
      exact ⟨call, decision, List.mem_cons_of_mem _ made⟩
  cases transition with
  | timedOut _ _ completion | voteCompleted _ _ _ completion
  | voteFailed _ _ completion | invalidRejected _ _ completion =>
    exact completion.carriedOut announced
  | coordinated _ _ coordination
  | proposalCoordinated _ _ _ _ _ _ _ coordination => exact coordinated coordination
  | verificationRequested _ _ =>
    have same := List.mem_singleton.mp announced
    exact (requestCall_ne_resultCall _ _ _ _ same.symm).elim
  | verifiedSent _ _ | failedSent _ _ =>
    have same := List.mem_singleton.mp announced
    cases same
  | _ => cases announced

theorem Transition.idle_of_unverifiable
    (transition : Transition codecs now engine input exchanges after)
    (unverifiable : Unverifiable codecs engine input)
    (carriedOut : (.rejectProposal id, .ok ()) ∈ exchanges) :
    after = { engine with state := .idle } := by
  obtain ⟨update, proposal, rfl, delivered, empty⟩ := unverifiable
  cases transition with
  | emptyRejected _ _ _ => rfl
  | ignored _ | nothingCreated _ | proposalBacklogged _ _ _ _ _ _ => cases carriedOut
  | emptyRejectFailed _ _ _ => simp at carriedOut
  | proposalCoordinated other _ readable _ _ _ _ _ =>
    rw [delivered] at other
    injection other with same
    subst same
    rw [empty] at readable
    injection readable with none
    exact (TwoPhaseProposal.requiredVerifiers_ne_empty _ none.symm).elim
  | verificationRequested _ _ | verifiedSent _ _ | invalidRejected _ _ _
  | failedSent _ _ => cases delivered

theorem Strays.not_ownsTimer (strays : Strays codecs engine input exchanges)
    (transition : Transition codecs now engine input exchanges after) :
    ¬ after.OwnsTimer := by
  obtain ⟨running, results | ⟨unverifiable, id, carriedOut⟩⟩ := strays
  · obtain ⟨message, id, result, call, rfl, received, evaluates, _, carriedOut⟩ := results
    have idle := transition.idle_of_result received evaluates carriedOut
    intro owned
    rw [idle] at owned
    obtain ⟨proposal, evaluating, _⟩ := owned running
    cases evaluating
  · have idle := transition.idle_of_unverifiable unverifiable carriedOut
    intro owned
    rw [idle] at owned
    obtain ⟨proposal, evaluating, _⟩ := owned running
    cases evaluating

end Transitions

end TwoPhaseEngine

namespace Node

/-- Results are broadcast for proposals that the engine coordinates; a
proposal of another coordinator is accepted on that coordinator's APPLY. -/
structure Rightful (codecs : Codecs) (before : Node) (record : Record) :
    Prop where
  broadcasts : ∀ bytes answer id result, (.broadcast bytes, answer) ∈ record.exchanges →
    meaning codecs bytes = .result id result →
    ∃ proposal, Tracks codecs before.engine record.input proposal ∧ proposal.proposalId = id ∧
      IsLeast (proposal.requiredVerifiers : Set PeerId) before.engine.id
  accepts : ∀ id data answer, (.acceptProposal id data, answer) ∈ record.exchanges →
    ∃ proposal, before.engine.state = .evaluatingProposal proposal ∧ proposal.proposalId = id ∧
      (IsLeast (proposal.requiredVerifiers : Set PeerId) before.engine.id ∨
        ∃ message, record.input = .handleConsensusMsg message ∧
          meaning codecs message.message = .result id .apply ∧
          message.originId = proposal.coordinatorId)

/-- Responses that decide the proposal under evaluation reach its coordinator
only, an APPLY for it comes from the coordinator, and the evaluation is not
dropped while the coordinator timeout runs. -/
structure Addressed (codecs : Codecs) (before : Node) (record : Record) :
    Prop where
  failed : ∀ message proposal, record.input = .handleConsensusMsg message →
    before.engine.state = .evaluatingProposal proposal →
    meaning codecs message.message = .response proposal.proposalId .failed →
    (.rejectProposal proposal.proposalId, .ok ()) ∈ record.exchanges →
    before.engine.id = proposal.coordinatorId
  verified : ∀ message proposal, record.input = .handleConsensusMsg message →
    before.engine.state = .evaluatingProposal proposal →
    meaning codecs message.message = .response proposal.proposalId .verified →
    insert message.originId proposal.peersVerified = proposal.requiredVerifiers →
    before.engine.id = proposal.coordinatorId
  applied : ∀ message proposal, record.input = .handleConsensusMsg message →
    before.engine.state = .evaluatingProposal proposal →
    meaning codecs message.message = .result proposal.proposalId .apply →
    before.engine.id = proposal.coordinatorId ∨ message.originId = proposal.coordinatorId
  steady : ¬ Strays codecs before.engine record.input record.exchanges

section Step

variable {codecs : Codecs} {before after : Node} {record : Record}
  {proposal : TwoPhaseProposal} {answer : Answer} {id : ProposalId} {result : ProposalResult}

theorem isLeast_of_coordinatorId {peer : PeerId} (own : peer = proposal.coordinatorId) :
    IsLeast (proposal.requiredVerifiers : Set PeerId) peer := by
  rw [own]
  exact proposal.lowest

theorem Addressed.broadcasts (addressed : before.Addressed codecs record)
    (kept : before.engine.WellKept) (owned : before.engine.OwnsTimer)
    (step : Step codecs before record after) {bytes : Bytes}
    (sent : (.broadcast bytes, answer) ∈ record.exchanges)
    (read : meaning codecs bytes = .result id result) :
    ∃ proposal, Tracks codecs before.engine record.input proposal ∧ proposal.proposalId = id ∧
      IsLeast (proposal.requiredVerifiers : Set PeerId) before.engine.id := by
  have transition := step.transition
  have member : .broadcast bytes ∈ outgoing record.exchanges :=
    (mem_outgoing_iff _ _).mpr ⟨rfl, answer, sent⟩
  have shape := transition.outgoing_cases kept
  generalize calls : outgoing record.exchanges = messages at member shape
  cases shape with
  | nothing => cases member
  | request _ _ _ =>
    have same := List.mem_singleton.mp member
    injection same with equal
    rw [equal, meaning_verificationRequest] at read
    cases read
  | verified _ _ _ _ | failed _ _ _ _ =>
    have same := List.mem_singleton.mp member
    cases same
  | @result proposal decision decides _ =>
    have same := List.mem_singleton.mp member
    injection same with equal
    rw [equal, meaning_resultMessage] at read
    injection read with sameId sameResult
    subst sameId
    have announced : resultCall codecs proposal.proposalId decision ∈
        outgoing record.exchanges := by
      rw [calls]
      exact List.mem_singleton.mpr rfl
    obtain ⟨call, decided, carriedOut⟩ := transition.carriedOut_of_resultCall announced
    refine ⟨proposal, decides.tracks, rfl, isLeast_of_coordinatorId ?_⟩
    generalize shape : record.input = input at decides
    cases decides with
    | timedOut evaluating running =>
      obtain ⟨current, currentEvaluating, own⟩ := owned running
      rw [evaluating] at currentEvaluating
      injection currentEvaluating with equal
      rw [equal]
      exact own
    | verified evaluating received complete =>
      exact addressed.verified _ _ shape evaluating received complete
    | failed evaluating received =>
      cases decided
      exact addressed.failed _ _ shape evaluating received carriedOut
    | invalid _ own | unchecked own _ => exact own

theorem Addressed.accepts (addressed : before.Addressed codecs record)
    (step : Step codecs before record after) {data : Option Bytes}
    (made : (.acceptProposal id data, answer) ∈ record.exchanges) :
    ∃ proposal, before.engine.state = .evaluatingProposal proposal ∧ proposal.proposalId = id ∧
      (IsLeast (proposal.requiredVerifiers : Set PeerId) before.engine.id ∨
        ∃ message, record.input = .handleConsensusMsg message ∧
          meaning codecs message.message = .result id .apply ∧
          message.originId = proposal.coordinatorId) := by
  have transition := step.transition
  have noData := transition.acceptProposal_data made
  subst noData
  cases transition.of_decision (acceptCall id) made with
  | own proposal sameId decides _ =>
    generalize shape : record.input = input at decides
    cases decides with
    | verified evaluating received complete =>
      have own := addressed.verified _ _ shape evaluating received complete
      exact ⟨proposal, evaluating, sameId, Or.inl (isLeast_of_coordinatorId own)⟩
  | told message input received evaluates =>
    obtain ⟨proposal, evaluating, rfl⟩ := evaluates rfl
    refine ⟨proposal, evaluating, rfl, ?_⟩
    rcases addressed.applied message proposal input evaluating received with
      own | origin
    · exact Or.inl (isLeast_of_coordinatorId own)
    · exact Or.inr ⟨message, input, received, origin⟩
  | unverifiable _ rejects => cases rejects

theorem Rightful.coordinates {message : ConsensusMessage} (rightful : before.Rightful codecs record)
    (kept : before.engine.WellKept) (input : record.input = .handleConsensusMsg message)
    (evaluating : before.engine.state = .evaluatingProposal proposal)
    (announced : resultCall codecs proposal.proposalId result ∈ outgoing record.exchanges) :
    before.engine.id = proposal.coordinatorId := by
  obtain ⟨_, answer, sent⟩ := (mem_outgoing_iff _ _).mp announced
  obtain ⟨tracked, tracks, sameId, least⟩ :=
    rightful.broadcasts _ answer _ result sent (meaning_resultMessage _ _ _)
  rw [input] at tracks
  obtain rfl := tracks.eq_of_evaluating kept evaluating sameId
  exact least.unique tracked.lowest

theorem Rightful.addressed (rightful : before.Rightful codecs record)
    (kept : before.engine.WellKept) (owned : after.engine.OwnsTimer)
    (step : Step codecs before record after) :
    before.Addressed codecs record := by
  have transition := step.transition
  have accepted {message : ConsensusMessage} {proposal : TwoPhaseProposal} {answer : Answer}
      (input : record.input = .handleConsensusMsg message)
      (evaluating : before.engine.state = .evaluatingProposal proposal)
      (made : (.acceptProposal proposal.proposalId none, answer) ∈ record.exchanges) :
      before.engine.id = proposal.coordinatorId ∨ meaning codecs message.message =
        .result proposal.proposalId .apply ∧
        message.originId = proposal.coordinatorId := by
    obtain ⟨current, currentEvaluating, sameId, least | told⟩ := rightful.accepts _ none answer made
    · rw [evaluating] at currentEvaluating
      injection currentEvaluating with same
      subst same
      exact Or.inl (least.unique proposal.lowest)
    · obtain ⟨other, otherInput, received, origin⟩ := told
      rw [evaluating] at currentEvaluating
      injection currentEvaluating with same
      subst same
      rw [input] at otherInput
      injection otherInput with sameMessage
      subst sameMessage
      exact Or.inr ⟨received, origin⟩
  constructor
  case failed =>
    intro message proposal input evaluating received carriedOut
    have decided := transition.of_decision (rejectCall _) carriedOut
    cases decided with
    | own tracked sameId _ announced =>
      exact rightful.coordinates kept input evaluating (announced rfl)
    | told other otherInput otherReceived _ =>
      rw [input] at otherInput
      injection otherInput with same
      subst same
      rw [received] at otherReceived
      cases otherReceived
    | unverifiable unverifiable _ =>
      obtain ⟨update, given, otherInput, _⟩ := unverifiable
      rw [input] at otherInput
      cases otherInput
  case verified =>
    intro message proposal input evaluating received complete
    rw [input] at transition
    obtain ⟨answer, made⟩ := transition.of_verified received evaluating complete
    rcases accepted input evaluating made with own | ⟨result, _⟩
    · exact own
    · rw [received] at result
      cases result
  case applied =>
    intro message proposal input evaluating received
    rw [input] at transition
    obtain ⟨answer, shape, _⟩ := transition.of_apply received (evaluates_of_state evaluating)
    have made : (.acceptProposal proposal.proposalId none, answer) ∈ record.exchanges := by
      rw [shape]
      exact List.mem_singleton.mpr rfl
    rcases accepted input evaluating made with own | ⟨_, origin⟩
    · exact Or.inl own
    · exact Or.inr origin
  case steady =>
    intro strays
    exact strays.not_ownsTimer transition owned

theorem ownsTimer_and_rightful_iff (kept : before.engine.WellKept) (owned : before.engine.OwnsTimer)
    (step : Step codecs before record after) :
    after.engine.OwnsTimer ∧ before.Rightful codecs record ↔ before.Addressed codecs record := by
  constructor
  · rintro ⟨ownedAfter, rightful⟩
    exact rightful.addressed kept ownedAfter step
  · intro addressed
    refine ⟨owned.transition kept step.transition addressed.steady, ?_⟩
    constructor
    · intro bytes answer id result sent read
      exact addressed.broadcasts kept owned step sent read
    · intro id data answer made
      exact addressed.accepts step made

end Step

/-- In every state of a run the timeout runs only while the engine evaluates a
proposal it coordinates, and every handler call decides rightfully, exactly if
every handler call of the run is addressed. -/
theorem only_coordinator_decides_iff
    (codecs : Codecs) (coordinatorTimeoutDuration : Nat) (start : Instant)
    (self : PeerId) (peerIds : List PeerId) (path : List (Node × Record)) (last : Node)
    (run : Run (Step codecs) (boot coordinatorTimeoutDuration start self peerIds) path last) :
    Run.Throughout (fun node => node.engine.OwnsTimer) path last ∧
        Run.Meets (fun node record => node.Rightful codecs record) path ↔
      Run.Meets (fun node record => node.Addressed codecs record) path := by
  refine Run.forall_iff (fun node => node.engine.WellKept) _ _ _ run
      (wellKept_boot _ _ _ _) ?_ ?_ ?_
  · exact ownsTimer_of_not_running (Timeout.not_running_new _ _)
  · intro _ _ _ kept step
    exact kept.transition step.transition
  · intro _ _ _ kept owned step
    exact ownsTimer_and_rightful_iff kept owned step

theorem addressed_of_update {codecs : Codecs} {before : Node} {record : Record}
    {update : ProposalUpdate} (input : record.input = .handleProposalUpdate update)
    (verifiable : ∀ proposal, handed update = some proposal →
      before.engine.verifiers codecs proposal ≠ .ok ∅) :
    before.Addressed codecs record := by
  have noMessage (message : ConsensusMessage) : record.input ≠ .handleConsensusMsg message := by
    simp [input]
  constructor
  · exact fun message _ same => (noMessage message same).elim
  · exact fun message _ same => (noMessage message same).elim
  · exact fun message _ same => (noMessage message same).elim
  · rintro ⟨_, ⟨message, _, _, _, same, _⟩ | ⟨⟨other, proposal, same, delivered, empty⟩, _⟩⟩
    · exact noMessage message same
    · rw [input] at same
      injection same with equal
      subst equal
      exact verifiable proposal delivered empty

/-- The delivery of a proposal that the first of two peers coordinates. -/
def proposed : Input := .handleProposalUpdate
    (.proposalReceived { Proposal.default with id := ⟨[7]⟩ } ⟨[2]⟩)

/-- A coordinator that starts an evaluation and requests verification. -/
theorem only_coordinator_decides_iff_coordinator :
    Run.Throughout (fun node => node.engine.OwnsTimer)
        ((boot 30000 0 ⟨[1]⟩ [⟨[2]⟩]).path .protobuf
          [Action.ok proposed, Action.ok (.handleProposalUpdate (.proposalValid ⟨[7]⟩))])
        ((boot 30000 0 ⟨[1]⟩ [⟨[2]⟩]).performAll .protobuf
          [Action.ok proposed, Action.ok (.handleProposalUpdate (.proposalValid ⟨[7]⟩))]) ∧
      ((boot 30000 0 ⟨[1]⟩ [⟨[2]⟩]).performAll .protobuf
        [Action.ok proposed,
          Action.ok (.handleProposalUpdate
            (.proposalValid ⟨[7]⟩))]).engine.coordinatorTimeout.Running := by
  refine ⟨?_, by decide +kernel⟩
  refine
    ((only_coordinator_decides_iff .protobuf 30000 0 ⟨[1]⟩ [⟨[2]⟩] _ _
      (run_performAll .protobuf _ _)).mpr ?_).1
  intro visited member
  rcases List.mem_cons.mp member with rfl | later
  · refine addressed_of_update rfl ?_
    intro proposal delivered
    injection delivered with same
    subst same
    intro empty
    injection empty with none
    revert none
    decide +kernel
  · obtain rfl := List.mem_singleton.mp later
    exact addressed_of_update rfl nofun

/-- The messages of a peer that coordinates nothing. -/
def impostorResponse : Input := .handleConsensusMsg
    ⟨Codecs.protobuf.twoPhaseMessage.write (verificationResponse ⟨[7]⟩ .failed), ⟨[3]⟩⟩

def impostorResult : Input := .handleConsensusMsg
    ⟨Codecs.protobuf.twoPhaseMessage.write (resultMessage ⟨[7]⟩ .apply), ⟨[3]⟩⟩

def verificationRequested : Input := .handleConsensusMsg
    ⟨Codecs.protobuf.twoPhaseMessage.write (verificationRequest ⟨[7]⟩), ⟨[1]⟩⟩

/-- A verifier evaluates a proposal of another coordinator.  On a FAILED
response from a third peer it broadcasts a result; on an APPLY from a third
peer it accepts the proposal.  A coordinator that receives such an APPLY stops
evaluating while its timeout goes on. -/
theorem impostor_decides :
    (∃ path before record after proposal,
        Run (Step .protobuf) (boot 30000 0 ⟨[2]⟩ [⟨[1]⟩, ⟨[3]⟩]) path before ∧
          Step .protobuf before record after ∧
          before.engine.state = .evaluatingProposal proposal ∧
          before.engine.id ≠ proposal.coordinatorId ∧
          resultCall .protobuf proposal.proposalId .reject ∈ outgoing record.exchanges) ∧
      (∃ path before message exchanges after proposal,
        Run (Step .protobuf) (boot 30000 0 ⟨[2]⟩ [⟨[1]⟩, ⟨[3]⟩]) path before ∧
          Step .protobuf before ⟨0, .handleConsensusMsg message, exchanges⟩ after ∧
          before.engine.state = .evaluatingProposal proposal ∧
          before.engine.id ≠ proposal.coordinatorId ∧
          message.originId ≠ proposal.coordinatorId ∧
          (.acceptProposal proposal.proposalId none, .ok ()) ∈ exchanges) ∧
      ∃ path last, Run (Step .protobuf) (boot 30000 0 ⟨[1]⟩ [⟨[2]⟩, ⟨[3]⟩]) path last ∧
          last.engine.coordinatorTimeout.Running ∧
          last.engine.state = .idle := by
  refine ⟨⟨_, _, _, _, _, run_performAll .protobuf _
      [Action.ok proposed, Action.ok verificationRequested],
      step_perform .protobuf _ (Action.ok impostorResponse), rfl, ?_, ?_⟩,
    ⟨_, _, _, _, _, _, run_performAll .protobuf _
      [Action.ok proposed, Action.ok verificationRequested],
      step_perform .protobuf _ (Action.ok impostorResult), rfl, ?_, ?_, ?_⟩,
    _, _, run_performAll .protobuf _ [Action.ok proposed, Action.ok impostorResult], ?_⟩ <;>
    decide +kernel

end Node

end Splinter.TwoPhase
