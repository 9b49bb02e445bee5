import Splinter.TwoPhase.Simulation
import Splinter.TwoPhase.Wire

/-!
# Decided proposals

A proposal that has been decided may be evaluated again: when it was in the
backlog, when it is delivered after its result, or when the manager could not
carry out the result.  In a run without these it is never looked at again.
-/

namespace Splinter.TwoPhase

open Library Consensus TwoPhaseEngine

def Brings (codecs : Codecs) (input : Input) (id : ProposalId) (result : ProposalResult) : Prop :=
  ∃ message, input = .handleConsensusMsg message ∧
    meaning codecs message.message = .result id result

/-- An APPLY or REJECT for the proposal has been handled. -/
def Settled (codecs : Codecs) (history : List Record) (id : ProposalId) : Prop :=
  ∃ record ∈ history, ∃ result, Brings codecs record.input id result ∧ result ≠ .unsetResult

namespace Node

/-- The handler call checks the proposal, sends a verification response for
it, or starts its evaluation. -/
def Revisits (codecs : Codecs) (before : Node) (record : Record)
    (after : Node) (id : ProposalId) : Prop :=
  (∃ answer, (.checkProposal id, answer) ∈ record.exchanges) ∨
    (∃ coordinator response, responseCall codecs coordinator id response ∈
      outgoing record.exchanges) ∨
    ¬ before.engine.Evaluates id ∧ after.engine.Evaluates id

/-- A result finds its proposal outside the backlog and is carried out if the
engine evaluates the proposal for another coordinator; no proposal is
delivered after its result. -/
structure Concludes (codecs : Codecs) (before : Node) (record : Record) :
    Prop where
  notBacklogged : ∀ id result, Brings codecs record.input id result →
    result ≠ .unsetResult → id ∉ before.engine.backloggedIds
  carriedOut : ∀ proposal result, Brings codecs record.input proposal.proposalId result →
    result ≠ .unsetResult →
    before.engine.state = .evaluatingProposal proposal →
    before.engine.id ≠ proposal.coordinatorId →
    ∃ call, decisionCall proposal.proposalId result = some call ∧ (call, .ok ()) ∈ record.exchanges
  notDelivered : ∀ proposal, Delivers codecs before.engine record.input proposal →
    ¬ Settled codecs before.history proposal.proposalId

/-- A decided proposal is not in the backlog and is evaluated at most by its
coordinator. -/
def Concluded (codecs : Codecs) (node : Node) : Prop := ∀ id, Settled codecs node.history id →
    id ∉ node.engine.backloggedIds ∧ ∀ proposal, node.engine.state = .evaluatingProposal proposal →
      proposal.proposalId = id → node.engine.id = proposal.coordinatorId

section Step

variable {codecs : Codecs} {before after : Node} {record : Record}

theorem settled_append_iff (history : List Record) (id : ProposalId) :
    Settled codecs (history ++ [record]) id ↔ Settled codecs history id ∨
      ∃ result, Brings codecs record.input id result ∧ result ≠ .unsetResult := by
  simp [Settled, or_and_right, exists_or]

variable {engine : TwoPhaseEngine} {input : Input} {id : ProposalId} {result : ProposalResult}
  {proposal : TwoPhaseProposal}

theorem not_delivers_of_brings (brings : Brings codecs input id result) :
    ¬ Delivers codecs engine input proposal := by
  obtain ⟨message, rfl, _⟩ := brings
  rintro ⟨update, given, input, _⟩
  cases input

theorem not_votes_of_brings {voter : PeerId} (brings : Brings codecs input id result) :
    ¬ Votes codecs engine input proposal voter := by
  obtain ⟨message, rfl, received⟩ := brings
  rintro (⟨vote, same, response, _⟩ | ⟨input, _⟩)
  · injection same with equal
    rw [equal, response] at received
    cases received
  · cases input

theorem notMem_backlog_of_not_delivers (step : Step codecs before record after)
    (absent : id ∉ before.engine.backloggedIds)
    (undelivered : ∀ proposal, Delivers codecs before.engine record.input proposal →
      proposal.proposalId ≠ id) :
    id ∉ after.engine.backloggedIds := by
  intro member
  obtain ⟨proposal, proposalMember, rfl⟩ := List.mem_map.mp member
  rcases step.transition.proposalBacklog_cases proposalMember with
    earlier | delivers
  · exact absent (List.mem_map_of_mem earlier)
  · exact undelivered proposal delivers rfl

theorem Concluded.step (concluded : before.Concluded codecs)
    (step : Step codecs before record after) (concludes : before.Concludes codecs record) :
    after.Concluded codecs := by
  have transition := step.transition
  intro id settled
  rw [step.2, settled_append_iff] at settled
  rcases settled with earlier | ⟨result, brings, decisive⟩
  · obtain ⟨absent, own⟩ := concluded id earlier
    have undelivered : ∀ proposal, Delivers codecs before.engine record.input proposal →
        proposal.proposalId ≠ id := by
      rintro proposal delivers rfl
      exact concludes.notDelivered proposal delivers earlier
    refine ⟨notMem_backlog_of_not_delivers step absent undelivered, ?_⟩
    intro proposal evaluating sameId
    rw [transition.id_eq]
    rcases transition.state_cases evaluating with
      unchanged | ⟨current, voter, counting, rfl, _⟩ | ⟨_, source⟩
    · exact own proposal unchanged sameId
    · exact own current counting sameId
    · rcases source with member | delivers
      · rw [← sameId] at absent
        exact (absent (List.mem_map_of_mem member)).elim
      · exact (undelivered proposal delivers sameId).elim
  · have absent := concludes.notBacklogged id result brings decisive
    have undelivered : ∀ proposal, Delivers codecs before.engine record.input proposal →
        proposal.proposalId ≠ id := by
      intro proposal delivers
      exact (not_delivers_of_brings brings delivers).elim
    refine ⟨notMem_backlog_of_not_delivers step absent undelivered, ?_⟩
    intro proposal evaluating sameId
    rw [transition.id_eq]
    rcases transition.state_cases evaluating with
      unchanged | ⟨current, voter, _, _, votes⟩ | ⟨_, source⟩
    · by_contra foreign
      subst sameId
      obtain ⟨call, _, carriedOut⟩ :=
        concludes.carriedOut proposal result brings decisive unchanged foreign
      obtain ⟨message, input, received⟩ := brings
      rw [input] at transition
      have idle := transition.idle_of_result received (evaluates_of_state unchanged) carriedOut
      rw [idle] at evaluating
      cases evaluating
    · exact (not_votes_of_brings brings votes).elim
    · rcases source with member | delivers
      · rw [← sameId] at absent
        exact (absent (List.mem_map_of_mem member)).elim
      · exact (undelivered proposal delivers sameId).elim

theorem Concluded.not_revisits (concluded : before.Concluded codecs) (kept : before.engine.WellKept)
    (step : Step codecs before record after) (concludes : before.Concludes codecs record)
    (settled : Settled codecs before.history id) :
    ¬ before.Revisits codecs record after id := by
  have transition := step.transition
  obtain ⟨absent, own⟩ := concluded id settled
  have unchecked (answer : Answer) : (.checkProposal id, answer) ∉ record.exchanges := by
    intro checked
    rcases (transition.of_checkProposal checked).1 with
      member | ⟨tracked, delivers, rfl⟩
    · exact absent member
    · exact concludes.notDelivered tracked delivers settled
  rintro (⟨answer, checked⟩ | ⟨coordinator, response, sent⟩ | ⟨idle, evaluates⟩)
  · exact unchecked answer checked
  · have shape := transition.outgoing_cases kept
    generalize outgoing record.exchanges = calls at sent shape
    cases shape with
    | nothing => cases sent
    | request _ _ _ | result _ _ => simp [requestCall, resultCall, responseCall] at sent
    | verified evaluating foreign _ _ | failed evaluating foreign _ _ =>
      rw [List.mem_singleton, responseCall_inj] at sent
      exact foreign (own _ evaluating sent.2.1.symm)
  · rcases transition.evaluates_cases evaluates with earlier | checked
    · exact idle earlier
    · exact unchecked _ (by rw [checked]; exact List.mem_cons_self)

end Step

section Results

variable (codecs : Codecs) (coordinatorTimeoutDuration : Nat)
  (start : Instant) (self : PeerId) (peerIds : List PeerId)
  (path : List (Node × Record)) (before after : Node) (record : Record)

/-- In a run whose handler calls conclude, no handler call revisits a decided
proposal. -/
theorem decided_not_revisited
    (run : Run (Step codecs) (boot coordinatorTimeoutDuration start self peerIds) path before)
    (step : Step codecs before record after)
    (concludes : Run.Meets (fun node record => node.Concludes codecs record)
        (path ++ [(before, record)]))
    (id : ProposalId) (settled : Settled codecs before.history id) :
    ¬ before.Revisits codecs record after id := by
  rw [Run.meets_snoc] at concludes
  have initially : (boot coordinatorTimeoutDuration start self peerIds).Concluded codecs := by
    rintro id ⟨record, member, _⟩
    cases member
  have concluded :=
    (run.guarded initially (fun _ _ _ concluded met step => concluded.step step met) concludes.1).2
  have kept := wellKept_of_run run (wellKept_boot _ _ _ _)
  exact concluded.not_revisits kept step concludes.2 settled

/-- In a run that hands over no proposal twice, a proposal is checked with success at most once,
and once its result is announced, it is kept no longer and no other result is announced. -/
theorem checked_and_announced_once
    (run : Run (Step codecs) (boot coordinatorTimeoutDuration start self peerIds) path before)
    (once : Run.Meets HandsOnce path) (id : ProposalId) :
    answered before.history (.checkProposal id, .ok ()) ≤ 1 ∧
      ∀ result, Called before.history (resultCall codecs id result) → ¬ before.engine.Keeps id ∧
        ∀ other, Called before.history (resultCall codecs id other) → other = result := by
  have initially : (boot coordinatorTimeoutDuration start self peerIds).Regular codecs := by
    refine ⟨wellKept_boot _ _ _ _, ?_, ?_, ?_, ?_, ?_⟩ <;>
      simp [boot, startup, TwoPhaseEngine.new, TwoPhaseEngine.Keeps, Evaluates, backloggedIds,
        Called]
  have regular :=
    (run.guarded initially (fun _ _ _ regular met step => regular.step step met) once).2
  refine ⟨regular.checked_once id, fun result announced => ?_⟩
  refine ⟨(regular.announced_gone id result announced).2, fun other again => ?_⟩
  exact regular.announced_once id other result again announced

end Results

/-- The messages of a coordinator that requests the verification of a proposal
and then rejects it, and the delivery of the proposal. -/
def rejection : Input := .handleConsensusMsg
    ⟨Codecs.protobuf.twoPhaseMessage.write (resultMessage ⟨[7]⟩ .reject), ⟨[1]⟩⟩

def delivery : Input := .handleProposalUpdate
    (.proposalReceived { Proposal.default with id := ⟨[7]⟩ } ⟨[1]⟩)

def request : Input := .handleConsensusMsg
    ⟨Codecs.protobuf.twoPhaseMessage.write (verificationRequest ⟨[7]⟩), ⟨[1]⟩⟩

theorem delivery_checked_once :
    answered ((boot 30000 0 ⟨[2]⟩ [⟨[1]⟩]).performAll .protobuf
      [Action.ok delivery, Action.ok request]).history (.checkProposal ⟨[7]⟩, .ok ()) ≤ 1 :=
  (checked_and_announced_once _ _ _ _ _ _ _ (run_performAll .protobuf _ _)
    (by decide +kernel) ⟨[7]⟩).1

theorem brings_rejection : Brings .protobuf rejection ⟨[7]⟩ .reject :=
  ⟨_, rfl, meaning_resultMessage _ _ _⟩

/-- A request for a proposal that was rejected unseen is not followed. -/
theorem decided_not_revisited_unseen :
    ¬ ((boot 30000 0 ⟨[2]⟩ [⟨[1]⟩]).performAll .protobuf [Action.ok rejection]).Revisits .protobuf
        ((Action.ok request).record .protobuf
          ((boot 30000 0 ⟨[2]⟩ [⟨[1]⟩]).performAll .protobuf [Action.ok rejection]))
        ((boot 30000 0 ⟨[2]⟩ [⟨[1]⟩]).performAll .protobuf [Action.ok rejection, Action.ok request])
        ⟨[7]⟩ := by
  refine decided_not_revisited .protobuf 30000 0 ⟨[2]⟩ [⟨[1]⟩] _ _ _ _
      (run_performAll .protobuf _ [Action.ok rejection])
      (step_perform .protobuf _ _) ?_ ⟨[7]⟩
      ⟨_, List.mem_singleton.mpr rfl, .reject, brings_rejection, nofun⟩
  intro visited member
  rcases List.mem_cons.mp member with rfl | last
  · constructor
    · intro id result _ _ backlogged
      cases backlogged
    · intro proposal result _ _ evaluating
      cases evaluating
    · intro proposal delivers
      exact (not_delivers_of_brings brings_rejection delivers).elim
  · obtain rfl := List.mem_singleton.mp last
    have noResult (id : ProposalId) (result : ProposalResult) :
        ¬ Brings .protobuf request id result := by
      rintro ⟨message, same, received⟩
      injection same with equal
      subst equal
      rw [meaning_verificationRequest] at received
      cases received
    constructor
    · intro id result brings
      exact (noResult id result brings).elim
    · intro proposal result brings
      exact (noResult _ result brings).elim
    · rintro proposal ⟨update, given, input, _⟩
      cases input

/-- The request and the REJECT for a proposal arrive before the proposal, which
is then evaluated although it has been rejected. -/
theorem decided_revisited : ∃ path before record after id,
      Run (Step .protobuf) (boot 30000 0 ⟨[2]⟩ [⟨[1]⟩]) path before ∧
        Step .protobuf before record after ∧
        Run.Meets HandsOnce (path ++ [(before, record)]) ∧
        Settled .protobuf before.history id ∧
        before.Revisits .protobuf record after id ∧
        after.engine.Evaluates id := by
  refine
    ⟨_, _, _, _, ⟨[7]⟩, run_performAll .protobuf _
        [Action.ok request, Action.ok rejection, Action.ok delivery],
      step_perform .protobuf _ (Action.ok .handleBackloggedVerificationRequest), ?_,
      ⟨_, List.mem_append_left _ (List.mem_append_right _
          (List.mem_singleton.mpr rfl)), .reject, brings_rejection, nofun⟩,
      Or.inl ⟨.ok (), ?_⟩, (evaluatingProposal_eq_true_iff _ _).mp ?_⟩ <;>
    decide +kernel

end Node

end Splinter.TwoPhase
