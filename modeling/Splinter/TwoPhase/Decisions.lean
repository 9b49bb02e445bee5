import Splinter.TwoPhase.Bookkeeping

/-!
# Messages and decisions of one handler call

Which messages a transition sends and why, which decisions it has the proposal
manager carry out, how an evaluation ends, and which proposal the coordinator
timeout belongs to.
-/

namespace Splinter.TwoPhase

open Library Consensus
open TwoPhaseProposal (hasId hasCoordinator)

/-- The call is one of `ConsensusNetworkSender`. -/
def isNetworkCall : Call → Bool
  | .sendTo _ _ | .broadcast _ => true
  | _ => false

def outgoing (exchanges : List Exchange) : List Call :=
  (exchanges.map Prod.fst).filter isNetworkCall

theorem mem_outgoing_iff (exchanges : List Exchange) (call : Call) : call ∈ outgoing exchanges ↔
    isNetworkCall call = true ∧ ∃ answer, (call, answer) ∈ exchanges := by
  simp [outgoing, and_comm]

def requestCall (codecs : Codecs) (id : ProposalId) : Call :=
  .broadcast (codecs.twoPhaseMessage.write (verificationRequest id))

def responseCall (codecs : Codecs) (coordinator : PeerId) (id : ProposalId)
    (response : ProposalVerificationResponse) : Call :=
  .sendTo coordinator (codecs.twoPhaseMessage.write (verificationResponse id response))

def resultCall (codecs : Codecs) (id : ProposalId) (result : ProposalResult) : Call :=
  .broadcast (codecs.twoPhaseMessage.write (resultMessage id result))

variable (codecs : Codecs)

@[simp]
theorem resultCall_inj (left right : ProposalId) (leftResult rightResult : ProposalResult) :
    resultCall codecs left leftResult = resultCall codecs right rightResult ↔
      left = right ∧ leftResult = rightResult := by
  cases left
  cases right
  simp [resultCall, resultMessage]

theorem requestCall_ne_resultCall (left right : ProposalId) (result : ProposalResult) :
    requestCall codecs left ≠ resultCall codecs right result := by
  simp [requestCall, resultCall, verificationRequest, resultMessage]

@[simp]
theorem responseCall_inj (leftPeer rightPeer : PeerId) (left right : ProposalId)
    (leftResponse rightResponse : ProposalVerificationResponse) :
    responseCall codecs leftPeer left leftResponse =
      responseCall codecs rightPeer right rightResponse ↔
      leftPeer = rightPeer ∧ left = right ∧ leftResponse = rightResponse := by
  cases left
  cases right
  simp [responseCall, verificationResponse]

namespace TwoPhaseEngine

/-- The input delivers a proposal that no peer has to verify. -/
def Unverifiable (codecs : Codecs) (engine : TwoPhaseEngine) (input : Input) : Prop :=
  ∃ update proposal, input = .handleProposalUpdate update ∧ handed update = some proposal ∧
    engine.verifiers codecs proposal = .ok ∅

/-- The grounds on which `complete_coordination` is called for a proposal. -/
inductive Decides (codecs : Codecs) (engine : TwoPhaseEngine)
    (proposal : TwoPhaseProposal) : Input → ProposalResult → Prop
  | timedOut : engine.state = .evaluatingProposal proposal → engine.coordinatorTimeout.Running →
    Decides codecs engine proposal .abortProposalIfTimedOut .reject
  | verified {message : ConsensusMessage} : engine.state = .evaluatingProposal proposal →
    meaning codecs message.message = .response proposal.proposalId .verified →
    insert message.originId proposal.peersVerified = proposal.requiredVerifiers →
    Decides codecs engine proposal (.handleConsensusMsg message) .apply
  | failed {message : ConsensusMessage} : engine.state = .evaluatingProposal proposal →
    meaning codecs message.message = .response proposal.proposalId .failed →
    Decides codecs engine proposal (.handleConsensusMsg message) .reject
  | invalid : engine.state = .evaluatingProposal proposal → engine.id = proposal.coordinatorId →
    Decides codecs engine proposal
      (.handleProposalUpdate (.proposalInvalid proposal.proposalId)) .reject
  | unchecked {input : Input} : engine.id = proposal.coordinatorId →
    proposal ∈ engine.proposalBacklog ∨ Delivers codecs engine input proposal →
    Decides codecs engine proposal input .reject

/-- The messages a transition sends, with what it takes to send them. -/
inductive Outgoing (codecs : Codecs) (engine : TwoPhaseEngine) (input : Input)
    (after : TwoPhaseEngine) : List Call → Prop
  | nothing : Outgoing codecs engine input after []
  | request {proposal : TwoPhaseProposal} : engine.state = .evaluatingProposal proposal →
    engine.id = proposal.coordinatorId →
    input = .handleProposalUpdate (.proposalValid proposal.proposalId) →
    Outgoing codecs engine input after [requestCall codecs proposal.proposalId]
  | verified {proposal : TwoPhaseProposal} : engine.state = .evaluatingProposal proposal →
    engine.id ≠ proposal.coordinatorId →
    input = .handleProposalUpdate (.proposalValid proposal.proposalId) →
    after = engine →
    Outgoing codecs engine input after
      [responseCall codecs proposal.coordinatorId proposal.proposalId .verified]
  | failed {proposal : TwoPhaseProposal} : engine.state = .evaluatingProposal proposal →
    engine.id ≠ proposal.coordinatorId →
    input = .handleProposalUpdate (.proposalInvalid proposal.proposalId) →
    after = engine →
    Outgoing codecs engine input after
      [responseCall codecs proposal.coordinatorId proposal.proposalId .failed]
  | result {proposal : TwoPhaseProposal} {result : ProposalResult} :
    Decides codecs engine proposal input result →
    ¬ after.Keeps proposal.proposalId →
    Outgoing codecs engine input after [resultCall codecs proposal.proposalId result]

section Decisions

variable {codecs : Codecs} {now : Instant} {engine after : TwoPhaseEngine}
  {input : Input} {exchanges : List Exchange} {id : ProposalId}
  {result : ProposalResult} {proposal : TwoPhaseProposal} {call : Call} {answer : Answer}
  {message : ConsensusMessage}

theorem Completion.id_eq (completion : Completion codecs engine id result exchanges after) :
    after.id = engine.id := by
  cases completion <;> rfl

theorem Coordination.id_eq
    (coordination : Coordination codecs now engine proposal exchanges after) :
    after.id = engine.id := by
  cases coordination with
  | started => rfl
  | rejected completion => exact completion.id_eq

theorem Transition.id_eq (transition : Transition codecs now engine input exchanges after) :
    after.id = engine.id := by
  cases transition with
  | timedOut _ _ completion | voteCompleted _ _ _ completion
  | voteFailed _ _ completion | invalidRejected _ _ completion => exact completion.id_eq
  | coordinated _ _ coordination
  | proposalCoordinated _ _ _ _ _ _ _ coordination => exact coordination.id_eq
  | _ => rfl

/-! ## Messages -/

theorem Completion.outgoing_cases
    (completion : Completion codecs engine id result exchanges after) :
    outgoing exchanges = [] ∨ outgoing exchanges = [resultCall codecs id result] ∧
      after = engine.settle := by
  cases completion with
  | refused decided =>
    left
    cases result <;> cases decided <;> rfl
  | announced decided =>
    right
    refine ⟨?_, rfl⟩
    cases result <;> cases decided <;> rfl

variable {settled coordinator : TwoPhaseEngine}

theorem outgoing_of_completion
    (completion : Completion codecs settled proposal.proposalId result exchanges after)
    (decides : Decides codecs engine proposal input result)
    (absent : proposal.proposalId ∉ settled.backloggedIds) :
    Outgoing codecs engine input after (outgoing exchanges) := by
  rcases completion.outgoing_cases with silent | ⟨announced, rfl⟩
  · rw [silent]
    exact Outgoing.nothing
  · rw [announced]
    refine Outgoing.result decides ?_
    rintro (⟨current, evaluating, _⟩ | member)
    · simp [settle] at evaluating
    · exact absent member

theorem outgoing_of_coordination
    (coordination : Coordination codecs now coordinator proposal exchanges after)
    (decides : Decides codecs engine proposal input .reject)
    (absent : proposal.proposalId ∉ coordinator.backloggedIds) :
    Outgoing codecs engine input after (outgoing exchanges) := by
  cases coordination with
  | started => exact Outgoing.nothing
  | rejected completion =>
    have shape := outgoing_of_completion completion decides absent
    exact shape

theorem Transition.outgoing_cases (kept : engine.WellKept)
    (transition : Transition codecs now engine input exchanges after) :
    Outgoing codecs engine input after (outgoing exchanges) := by
  have absent {proposal : TwoPhaseProposal}
      (evaluating : engine.state = .evaluatingProposal proposal) :
      proposal.proposalId ∉ engine.backloggedIds :=
    kept.separate _ (evaluates_of_state evaluating)
  cases transition with
  | timedOut evaluating expired completion =>
    exact outgoing_of_completion completion
      (Decides.timedOut evaluating (Timeout.running_of_checkExpired expired))
      (absent evaluating)
  | voteCompleted received evaluating complete completion =>
    exact outgoing_of_completion completion (Decides.verified evaluating received complete)
      (absent evaluating)
  | voteFailed received evaluating completion =>
    exact outgoing_of_completion completion (Decides.failed evaluating received) (absent evaluating)
  | invalidRejected evaluating own completion =>
    exact outgoing_of_completion completion (Decides.invalid evaluating own) (absent evaluating)
  | coordinated _ found coordination =>
    have own := coordinatorId_of_find? found
    exact outgoing_of_coordination coordination
      (Decides.unchecked own.symm (Or.inl (List.mem_of_find?_eq_some found)))
      (notMem_withoutBacklogged kept found)
  | proposalCoordinated delivered fresh readable sameId unvoted _ own coordination =>
    rw [isBacklogged_eq_false_iff, ← sameId] at fresh
    exact outgoing_of_coordination coordination
      (Decides.unchecked own (Or.inr ⟨_, _, rfl, delivered, readable, sameId, unvoted⟩))
      fresh
  | verificationRequested evaluating own => exact Outgoing.request evaluating own rfl
  | verifiedSent evaluating foreign => exact Outgoing.verified evaluating foreign rfl rfl
  | failedSent evaluating foreign => exact Outgoing.failed evaluating foreign rfl rfl
  | _ => exact Outgoing.nothing

/-! ## Decisions -/

theorem Completion.of_decision (completion : Completion codecs engine id result exchanges after)
    (manager : isNetworkCall call = false) (member : (call, answer) ∈ exchanges) :
    decisionCall id result = some call ∧
      (answer = .ok () → resultCall codecs id result ∈ outgoing exchanges) := by
  cases completion with
  | refused decided =>
    simp only [List.mem_singleton, Prod.mk.injEq] at member
    obtain ⟨rfl, rfl⟩ := member
    exact ⟨decided, nofun⟩
  | announced decided =>
    rw [List.mem_cons, List.mem_singleton] at member
    rcases member with same | same
    · cases same
      refine ⟨decided, fun _ => ?_⟩
      rw [mem_outgoing_iff]
      exact ⟨rfl, _, List.mem_cons_of_mem _ (List.mem_singleton.mpr rfl)⟩
    · obtain ⟨rfl, _⟩ := Prod.mk.inj same
      simp [isNetworkCall] at manager

/-- Why the manager is told a decision about a proposal, and what follows when
the call succeeds. -/
inductive Decided (codecs : Codecs) (engine : TwoPhaseEngine) (input : Input)
    (sent : List Call) (id : ProposalId) (result : ProposalResult) (answer : Answer) : Prop
  | own (proposal : TwoPhaseProposal) : proposal.proposalId = id →
    Decides codecs engine proposal input result →
    (answer = .ok () → resultCall codecs id result ∈ sent) →
    Decided codecs engine input sent id result answer
  | told (message : ConsensusMessage) : input = .handleConsensusMsg message →
    meaning codecs message.message = .result id result →
    (result = .apply → engine.Evaluates id) →
    Decided codecs engine input sent id result answer
  | unverifiable : Unverifiable codecs engine input → result = .reject →
    Decided codecs engine input sent id result answer

theorem acceptCall (id : ProposalId) : decisionCall id .apply = some (.acceptProposal id none) :=
  rfl

theorem rejectCall (id : ProposalId) : decisionCall id .reject = some (.rejectProposal id) := rfl

theorem decisionCall_inj {left right : ProposalId} {leftResult rightResult : ProposalResult}
    (leftCall : decisionCall left leftResult = some call)
    (rightCall : decisionCall right rightResult = some call) :
    left = right ∧ leftResult = rightResult := by
  cases leftResult <;> cases leftCall <;>
    cases rightResult <;> cases rightCall <;>
    exact ⟨rfl, rfl⟩

theorem decided_of_completion {completed : ProposalResult}
    (completion : Completion codecs settled proposal.proposalId completed exchanges after)
    (decides : Decides codecs engine proposal input completed)
    (decision : decisionCall id result = some call) (member : (call, answer) ∈ exchanges) :
    Decided codecs engine input (outgoing exchanges) id result answer := by
  have internal : isNetworkCall call = false := by
    cases result <;> cases decision <;> rfl
  obtain ⟨completes, announced⟩ := completion.of_decision internal member
  obtain ⟨sameId, rfl⟩ := decisionCall_inj completes decision
  rw [sameId] at announced
  exact Decided.own proposal sameId decides announced

theorem decided_of_coordination
    (coordination : Coordination codecs now coordinator proposal exchanges after)
    (decides : Decides codecs engine proposal input .reject)
    (decision : decisionCall id result = some call) (member : (call, answer) ∈ exchanges) :
    Decided codecs engine input (outgoing exchanges) id result answer := by
  have notCheck : ∀ checked, call ≠ .checkProposal checked := by
    rintro checked rfl
    cases result <;> cases decision
  cases coordination with
  | started =>
    have same := List.mem_singleton.mp member
    exact (notCheck _ (Prod.mk.inj same).1).elim
  | rejected completion =>
    rcases List.mem_cons.mp member with same | later
    · exact (notCheck _ (Prod.mk.inj same).1).elim
    · have decided := decided_of_completion completion decides decision later
      exact decided

/-- Every decision the manager is told is the engine's own, is taken from a
result message, or rejects a proposal without verifiers. -/
theorem Transition.of_decision (transition : Transition codecs now engine input exchanges after)
    (decision : decisionCall id result = some call) (member : (call, answer) ∈ exchanges) :
    Decided codecs engine input (outgoing exchanges) id result answer := by
  cases transition with
  | timedOut evaluating expired completion =>
    exact decided_of_completion completion
      (Decides.timedOut evaluating (Timeout.running_of_checkExpired expired))
      decision member
  | voteCompleted received evaluating complete completion =>
    exact decided_of_completion completion
      (Decides.verified evaluating received complete) decision member
  | voteFailed received evaluating completion =>
    exact decided_of_completion completion (Decides.failed evaluating received) decision member
  | invalidRejected evaluating own completion =>
    exact decided_of_completion completion (Decides.invalid evaluating own) decision member
  | coordinated _ found coordination =>
    have own := coordinatorId_of_find? found
    exact decided_of_coordination coordination
      (Decides.unchecked own.symm (Or.inl (List.mem_of_find?_eq_some found)))
      decision member
  | proposalCoordinated delivered _ readable sameId unvoted _ own coordination =>
    exact decided_of_coordination coordination
      (Decides.unchecked own (Or.inr ⟨_, _, rfl, delivered, readable, sameId, unvoted⟩))
      decision member
  | applied received evaluating | applyFailed received evaluating =>
    have same := (Prod.mk.inj (List.mem_singleton.mp member)).1
    subst same
    obtain ⟨rfl, rfl⟩ := decisionCall_inj decision (acceptCall _)
    exact Decided.told _ rfl received fun _ => evaluates_of_state evaluating
  | rejected received _ | rejectedOther received _ | rejectFailed received =>
    have same := (Prod.mk.inj (List.mem_singleton.mp member)).1
    subst same
    obtain ⟨rfl, rfl⟩ := decisionCall_inj decision (rejectCall _)
    exact Decided.told _ rfl received nofun
  | emptyRejected delivered _ unreadable
  | emptyRejectFailed delivered _ unreadable =>
    have same := (Prod.mk.inj (List.mem_singleton.mp member)).1
    subst same
    obtain ⟨rfl, rfl⟩ := decisionCall_inj decision (rejectCall _)
    exact Decided.unverifiable ⟨_, _, rfl, delivered, unreadable⟩ rfl
  | drained _ _ _ | drainFailed _ _ _ | requested _ _ _ | requestFailed _ _ _
  | creationRequested _ _ | creationFailed _ _ | verificationRequested _ _
  | verifiedSent _ _ | failedSent _ _ =>
    have same := (Prod.mk.inj (List.mem_singleton.mp member)).1
    subst same
    cases result <;> cases decision
  | ignored _ | requestBacklogged _ _ | voteCounted _ _ _ | nothingCreated _
  | proposalBacklogged _ _ _ _ _ _ => cases member

/-- The calls of a step in which the manager is told to accept a proposal: the
engine announces its own decision, or it was told the decision. -/
inductive Accepting (codecs : Codecs) (input : Input)
    (id : ProposalId) (after : TwoPhaseEngine) : List Exchange → Prop
  | announced {sent : Answer} : Accepting codecs input id after
    [(.acceptProposal id none, .ok ()), (resultCall codecs id .apply, sent)]
  | told {message : ConsensusMessage} : input = .handleConsensusMsg message →
    meaning codecs message.message = .result id .apply →
    after.state = .idle →
    Accepting codecs input id after [(.acceptProposal id none, .ok ())]
  | failed {error : ConsensusEngineError} :
    Accepting codecs input id after [(.acceptProposal id none, .error error)]

variable {data : Option Bytes}

theorem Accepting.sole {other : ProposalId} (accepting : Accepting codecs input id after exchanges)
    (accepts : (.acceptProposal other data, answer) ∈ exchanges) :
    other = id ∧ data = none := by
  cases accepting with
  | announced =>
    rcases List.mem_cons.mp accepts with same | later
    · cases same
      exact ⟨rfl, rfl⟩
    · cases List.mem_singleton.mp later
  | told _ _ _ | failed =>
    cases List.mem_singleton.mp accepts
    exact ⟨rfl, rfl⟩

theorem accepting_of_completion
    (completion : Completion codecs engine decided result exchanges after)
    (accepts : (.acceptProposal id data, answer) ∈ exchanges) :
    Accepting codecs input id after exchanges := by
  have decision := (completion.of_decision rfl accepts).1
  obtain ⟨rfl, rfl⟩ : decided = id ∧ result = .apply := by
    cases result <;> cases decision
    exact ⟨rfl, rfl⟩
  cases completion with
  | refused call =>
    cases call
    exact Accepting.failed
  | announced call =>
    cases call
    exact Accepting.announced

theorem accepting_of_coordination
    (coordination : Coordination codecs now engine proposal exchanges after)
    (accepts : (.acceptProposal id data, answer) ∈ exchanges) :
    False := by
  cases coordination with
  | started => simp at accepts
  | rejected completion =>
    rcases List.mem_cons.mp accepts with impossible | later
    · cases impossible
    · have decision := (completion.of_decision rfl later).1
      cases decision

theorem accepting_of_transition
    (transition : Transition codecs now engine input exchanges after)
    (accepts : (.acceptProposal id data, answer) ∈ exchanges) :
    Accepting codecs input id after exchanges := by
  cases transition with
  | timedOut _ _ completion | voteCompleted _ _ _ completion
  | voteFailed _ _ completion | invalidRejected _ _ completion =>
    exact accepting_of_completion completion accepts
  | coordinated _ _ coordination
  | proposalCoordinated _ _ _ _ _ _ _ coordination =>
    exact (accepting_of_coordination coordination accepts).elim
  | applied received _ =>
    cases List.mem_singleton.mp accepts
    exact Accepting.told rfl received rfl
  | applyFailed _ _ =>
    cases List.mem_singleton.mp accepts
    exact Accepting.failed
  | _ => simp at accepts

theorem Transition.acceptProposal_data
    (transition : Transition codecs now engine input exchanges after)
    (member : (.acceptProposal id data, answer) ∈ exchanges) :
    data = none :=
  ((accepting_of_transition transition member).sole member).2

section

variable (transition : Transition codecs now engine (.handleConsensusMsg message) exchanges after)
include transition

theorem Transition.of_apply (received : meaning codecs message.message = .result id .apply)
    (evaluates : engine.Evaluates id) :
    ∃ answer, exchanges = [(.acceptProposal id none, answer)] ∧
      (answer = .ok () → after = { engine with state := .idle }) := by
  cases transition with
  | ignored ignores =>
    simp only [Ignores, received] at ignores
    rw [(evaluatingProposal_eq_true_iff engine id).mpr evaluates] at ignores
    cases ignores
  | applied other _ =>
    rw [received] at other
    injection other with same _
    subst same
    exact ⟨_, rfl, fun _ => rfl⟩
  | applyFailed other _ =>
    rw [received] at other
    injection other with same _
    subst same
    refine ⟨_, rfl, fun succeeded => ?_⟩
    cases succeeded
  | requestBacklogged other _ | requested other _ _ | requestFailed other _ _
  | voteCounted other _ _ | voteCompleted other _ _ _ | voteFailed other _ _
  | rejected other _ | rejectedOther other _ | rejectFailed other =>
    rw [received] at other
    cases other

theorem Transition.of_verified
    (received : meaning codecs message.message = .response proposal.proposalId .verified)
    (evaluating : engine.state = .evaluatingProposal proposal)
    (complete : insert message.originId proposal.peersVerified = proposal.requiredVerifiers) :
    ∃ answer, (.acceptProposal proposal.proposalId none, answer) ∈ exchanges := by
  cases transition with
  | ignored ignores =>
    simp only [Ignores, received] at ignores
    have evaluates := evaluates_of_state evaluating
    rw [← evaluatingProposal_eq_true_iff] at evaluates
    cases ignores evaluates
  | voteCounted _ other incomplete =>
    rw [evaluating] at other
    injection other with same
    subst same
    exact (incomplete complete).elim
  | voteCompleted _ other _ completion =>
    rw [evaluating] at other
    injection other with same
    subst same
    cases completion with
    | refused decided | announced decided =>
      cases decided
      exact ⟨_, List.mem_cons_self⟩
  | voteFailed other _ _ =>
    rw [received] at other
    injection other with _ different
    cases different
  | requestBacklogged other _ | requested other _ _ | requestFailed other _ _
  | applied other _ | applyFailed other _ | rejected other _
  | rejectedOther other _ | rejectFailed other =>
    rw [received] at other
    cases other

theorem Transition.idle_of_result (received : meaning codecs message.message = .result id result)
    (evaluates : engine.Evaluates id) (carriedOut : (call, .ok ()) ∈ exchanges) :
    after = { engine with state := .idle } := by
  have evaluating := (evaluatingProposal_eq_true_iff engine id).mpr evaluates
  cases transition with
  | applied _ _ | rejected _ _ => rfl
  | ignored _ => cases carriedOut
  | applyFailed _ _ | rejectFailed _ => simp at carriedOut
  | rejectedOther other foreign =>
    rw [received] at other
    injection other with same _
    subst same
    rw [evaluating] at foreign
    cases foreign
  | requestBacklogged other _ | requested other _ _ | requestFailed other _ _
  | voteCounted other _ _ | voteCompleted other _ _ _ | voteFailed other _ _ =>
    rw [received] at other
    cases other

end

/-! ## How an evaluation ends -/

theorem Completion.evaluates_cases {settled : ProposalId}
    (completion : Completion codecs engine settled result exchanges after)
    (evaluates : engine.Evaluates id) :
    after.Evaluates id ∨ resultCall codecs settled result ∈ outgoing exchanges := by
  rcases completion with decided | decided
  · exact Or.inl evaluates
  · right
    rw [mem_outgoing_iff]
    exact ⟨rfl, _, List.mem_cons_of_mem _ (List.mem_singleton.mpr rfl)⟩

/-- An evaluation goes on unless its decision is announced, a result for it
arrives, or a proposal without verifiers resets the engine. -/
theorem Transition.of_evaluates (transition : Transition codecs now engine input exchanges after)
    (evaluates : engine.Evaluates id) :
    after.Evaluates id ∨ (∃ result, resultCall codecs id result ∈ outgoing exchanges) ∨
      (∃ message result, input = .handleConsensusMsg message ∧
        meaning codecs message.message = .result id result) ∨
      Unverifiable codecs engine input := by
  obtain ⟨current, evaluating, rfl⟩ := evaluates
  have busy : engine.Evaluates current.proposalId := evaluates_of_state evaluating
  have unique {proposal : TwoPhaseProposal} (other : engine.state = .evaluatingProposal proposal) :
      proposal = current := by
    rw [evaluating] at other
    injection other with same
    exact same.symm
  cases transition with
  | timedOut other _ completion | voteFailed _ other completion
  | invalidRejected other _ completion =>
    obtain rfl := unique other
    rcases completion.evaluates_cases busy with still | announced
    · exact Or.inl still
    · exact Or.inr (Or.inl ⟨_, announced⟩)
  | voteCompleted _ other _ completion =>
    obtain rfl := unique other
    rcases completion.evaluates_cases ⟨_, rfl, rfl⟩ with still | announced
    · exact Or.inl still
    · exact Or.inr (Or.inl ⟨_, announced⟩)
  | requested _ same found =>
    have sameId := same current evaluating
    exact Or.inl ⟨_, rfl, (proposalId_of_find? found).trans sameId.symm⟩
  | voteCounted _ other _ | verificationRequested other _ =>
    obtain rfl := unique other
    exact Or.inl ⟨_, rfl, rfl⟩
  | applied received other | rejected received other =>
    obtain rfl := unique other
    exact Or.inr (Or.inr (Or.inl ⟨_, _, rfl, received⟩))
  | emptyRejected delivered _ unreadable =>
    exact Or.inr (Or.inr (Or.inr ⟨_, _, rfl, delivered, unreadable⟩))
  | drained idle _ _ | drainFailed idle _ _ | coordinated idle _ _
  | creationRequested idle _ =>
    rw [evaluating] at idle
    cases idle
  | nothingCreated waiting =>
    rw [evaluating] at waiting
    cases waiting
  | proposalCoordinated _ _ _ _ _ free _ _ => exact (free current evaluating).elim
  | _ => exact Or.inl busy

/-! ## The coordinator timeout -/

/-- The timeout runs only for an evaluation that the engine coordinates. -/
def OwnsTimer (engine : TwoPhaseEngine) : Prop := engine.coordinatorTimeout.Running →
    ∃ proposal, engine.state = .evaluatingProposal proposal ∧ engine.id = proposal.coordinatorId

/-- The evaluation is dropped while the coordinator timeout runs: on a result
for the proposal, or on a proposal without verifiers. -/
def Strays (codecs : Codecs) (engine : TwoPhaseEngine) (input : Input)
    (exchanges : List Exchange) : Prop :=
  engine.coordinatorTimeout.Running ∧
    ((∃ message id result call, input = .handleConsensusMsg message ∧
      meaning codecs message.message = .result id result ∧
      engine.Evaluates id ∧ decisionCall id result = some call ∧
      (call, .ok ()) ∈ exchanges) ∨
      Unverifiable codecs engine input ∧ ∃ id, (.rejectProposal id, .ok ()) ∈ exchanges)

theorem Completion.ownsTimer (completion : Completion codecs engine id result exchanges after)
    (owned : engine.OwnsTimer) :
    after.OwnsTimer := by
  cases completion with
  | refused _ => exact owned
  | announced _ =>
    intro running
    exact (Timeout.not_running_stop _ running).elim

theorem Coordination.ownsTimer
    (coordination : Coordination codecs now engine proposal exchanges after)
    (own : engine.id = proposal.coordinatorId) (owned : engine.OwnsTimer) :
    after.OwnsTimer := by
  cases coordination with
  | started => exact fun _ => ⟨proposal, rfl, own⟩
  | rejected completion => exact completion.ownsTimer owned

theorem OwnsTimer.not_running (owned : engine.OwnsTimer)
    (free : ∀ proposal, engine.state ≠ .evaluatingProposal proposal) :
    ¬ engine.coordinatorTimeout.Running := by
  intro running
  obtain ⟨proposal, evaluating, _⟩ := owned running
  exact free proposal evaluating

theorem ownsTimer_of_not_running (stopped : ¬ engine.coordinatorTimeout.Running) :
    engine.OwnsTimer :=
  fun running => (stopped running).elim

theorem OwnsTimer.addVerifiedPeer {voter : PeerId} (owned : engine.OwnsTimer)
    (evaluating : engine.state = .evaluatingProposal proposal)
    (sameTimer : after.coordinatorTimeout = engine.coordinatorTimeout)
    (sameId : after.id = engine.id)
    (counted : after.state = .evaluatingProposal (proposal.addVerifiedPeer voter)) :
    after.OwnsTimer := by
  intro running
  rw [sameTimer] at running
  obtain ⟨current, currentEvaluating, own⟩ := owned running
  rw [evaluating] at currentEvaluating
  injection currentEvaluating with same
  refine ⟨_, counted, ?_⟩
  rw [sameId, own, ← same]
  rfl

theorem OwnsTimer.transition (kept : engine.WellKept) (owned : engine.OwnsTimer)
    (transition : Transition codecs now engine input exchanges after)
    (steady : ¬ Strays codecs engine input exchanges) :
    after.OwnsTimer := by
  have resting (idle : engine.state = .idle) : ¬ engine.coordinatorTimeout.Running := by
    refine owned.not_running ?_
    simp [idle]
  cases transition with
  | timedOut evaluating _ completion =>
    refine completion.ownsTimer ?_
    intro running
    rw [Timeout.running_update] at running
    exact owned running
  | voteCompleted _ evaluating _ completion =>
    refine completion.ownsTimer ?_
    exact owned.addVerifiedPeer evaluating rfl rfl rfl
  | voteCounted _ evaluating _ | verificationRequested evaluating _ =>
    exact owned.addVerifiedPeer evaluating rfl rfl rfl
  | voteFailed _ _ completion | invalidRejected _ _ completion => exact completion.ownsTimer owned
  | coordinated idle found coordination =>
    refine coordination.ownsTimer (coordinatorId_of_find? found).symm ?_
    exact ownsTimer_of_not_running (resting idle)
  | proposalCoordinated _ _ _ _ _ _ own coordination => exact coordination.ownsTimer own owned
  | drained idle _ _ | drainFailed idle _ _ | creationRequested idle _ =>
    exact ownsTimer_of_not_running (resting idle)
  | requested _ same found =>
    have stopped : ¬ engine.coordinatorTimeout.Running := by
      intro running
      obtain ⟨current, evaluating, _⟩ := owned running
      have member := mem_backloggedIds_of_find? found
      rw [proposalId_of_find? found, ← same current evaluating] at member
      exact kept.separate _ (evaluates_of_state evaluating) member
    exact ownsTimer_of_not_running stopped
  | nothingCreated waiting =>
    have stopped : ¬ engine.coordinatorTimeout.Running := by
      refine owned.not_running ?_
      simp [waiting]
    exact ownsTimer_of_not_running stopped
  | applied received evaluating | rejected received evaluating =>
    intro running
    refine (steady ⟨running, Or.inl ?_⟩).elim
    exact
      ⟨_, _, _, _, rfl, received, evaluates_of_state evaluating, rfl, List.mem_singleton.mpr rfl⟩
  | emptyRejected delivered _ unreadable =>
    intro running
    refine (steady ⟨running, Or.inr ?_⟩).elim
    exact ⟨⟨_, _, rfl, delivered, unreadable⟩, _, List.mem_singleton.mpr rfl⟩
  | _ => exact owned

end Decisions

end TwoPhaseEngine

end Splinter.TwoPhase
