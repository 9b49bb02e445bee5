import Splinter.TwoPhase.Engine

/-!
# What one handler call can do

`Transition` lists every outcome of a handler call.  `transition_of_trace` shows
that the handlers have no other outcomes, so that properties of the engine are
proved by cases on transitions and never by unfolding the handlers.
-/

namespace Splinter.TwoPhase

open Library Consensus
open TwoPhaseProposal (hasId hasCoordinator)

/-- What a received byte string asks of the engine. -/
inductive Meaning where
  | nothing
  | request (id : ProposalId)
  | response (id : ProposalId) (response : ProposalVerificationResponse)
  | result (id : ProposalId) (result : ProposalResult)
  deriving DecidableEq

def meaning (codecs : Codecs) (bytes : Bytes) : Meaning :=
  match codecs.twoPhaseMessage.parse bytes with
  | .error _ => .nothing
  | .ok message =>
    match message.messageType with
    | .proposalVerificationRequest => .request ⟨message.proposalId⟩
    | .proposalVerificationResponse =>
      .response ⟨message.proposalId⟩ message.proposalVerificationResponse
    | .proposalResult => .result ⟨message.proposalId⟩ message.proposalResult
    | .unsetType => .nothing

variable (codecs : Codecs) (id : ProposalId)

@[simp]
theorem meaning_verificationRequest :
    meaning codecs (codecs.twoPhaseMessage.write (verificationRequest id)) = .request id := by
  simp [meaning, verificationRequest]

@[simp]
theorem meaning_verificationResponse (response : ProposalVerificationResponse) :
    meaning codecs (codecs.twoPhaseMessage.write (verificationResponse id response)) =
      .response id response := by
  simp [meaning, verificationResponse]

@[simp]
theorem meaning_resultMessage (result : ProposalResult) :
    meaning codecs (codecs.twoPhaseMessage.write (resultMessage id result)) =
      .result id result := by
  simp [meaning, resultMessage]

/-- The manager call by which a coordinator carries out a decision. -/
def decisionCall (id : ProposalId) : ProposalResult → Option Call
  | .apply => some (.acceptProposal id none)
  | .reject => some (.rejectProposal id)
  | .unsetResult => none

def handed : ProposalUpdate → Option Proposal
  | .proposalCreated proposal => proposal
  | .proposalReceived proposal _ => some proposal
  | _ => none

namespace TwoPhaseEngine

/-- The outcomes of `complete_coordination` with a decision. -/
inductive Completion (codecs : Codecs) (engine : TwoPhaseEngine)
    (id : ProposalId) (result : ProposalResult) :
    List Exchange → TwoPhaseEngine → Prop
  | refused {call : Call} {error : ConsensusEngineError} : decisionCall id result = some call →
    Completion codecs engine id result [(call, .error error)] engine
  | announced {call : Call} {answer : Answer} : decisionCall id result = some call →
    Completion codecs engine id result
      [(call, .ok ()),
        (.broadcast (codecs.twoPhaseMessage.write (resultMessage id result)), answer)]
      engine.settle

/-- The outcomes of `start_coordination`. -/
inductive Coordination (codecs : Codecs) (now : Instant)
    (engine : TwoPhaseEngine) (proposal : TwoPhaseProposal) :
    List Exchange → TwoPhaseEngine → Prop
  | started : Coordination codecs now engine proposal [(.checkProposal proposal.proposalId, .ok ())]
    { engine with
      state := .evaluatingProposal proposal
      coordinatorTimeout := engine.coordinatorTimeout.restart now }
  | rejected {error : ConsensusEngineError} {exchanges : List Exchange} {after : TwoPhaseEngine} :
    Completion codecs engine proposal.proposalId .reject exchanges after →
    Coordination codecs now engine proposal
      ((.checkProposal proposal.proposalId, .error error) :: exchanges) after

/-- The inputs on which a handler makes no call and changes nothing. -/
def Ignores (codecs : Codecs) (now : Instant) (engine : TwoPhaseEngine) : Input → Prop
  | .abortProposalIfTimedOut =>
    ∀ proposal, engine.state = .evaluatingProposal proposal →
      engine.coordinatorTimeout.checkExpired now = false
  | .handleBackloggedVerificationRequest =>
    engine.state = .idle → engine.verificationRequestBacklog.find? engine.isBacklogged = none
  | .getNextProposal => engine.state ≠ .idle
  | .handleConsensusMsg message =>
    match meaning codecs message.message with
    | .nothing => True
    | .request _ => False
    | .response id response =>
      engine.evaluatingProposal id = true → response = .unsetVerificationResponse
    | .result id .apply => engine.evaluatingProposal id = false
    | .result _ .reject => False
    | .result _ .unsetResult => True
  | .handleProposalUpdate update =>
    match update with
    | .proposalCreated none => engine.state ≠ .awaitingProposal
    | .proposalCreated (some proposal)
    | .proposalReceived proposal _ =>
      engine.isBacklogged proposal.id = true ∨
        (∃ error, engine.verifiers codecs proposal = .error error) ∨
        ∃ verifiers, engine.verifiers codecs proposal = .ok verifiers ∧ verifiers.Nonempty ∧
          engine.evaluatingProposal proposal.id = true
    | .proposalValid id => engine.evaluatingProposal id = false
    | .proposalInvalid id => engine.evaluatingProposal id = false
    | _ => True

/-- Every outcome of a handler call on `engine`. -/
inductive Transition (codecs : Codecs) (now : Instant)
    (engine : TwoPhaseEngine) :
    Input → List Exchange → TwoPhaseEngine → Prop
  | ignored {input : Input} : Ignores codecs now engine input →
    Transition codecs now engine input [] engine
  | timedOut {proposal : TwoPhaseProposal} {exchanges : List Exchange} {after : TwoPhaseEngine} :
    engine.state = .evaluatingProposal proposal →
    engine.coordinatorTimeout.checkExpired now = true →
    Completion codecs { engine with coordinatorTimeout := engine.coordinatorTimeout.update now }
      proposal.proposalId .reject exchanges after →
    Transition codecs now engine .abortProposalIfTimedOut exchanges after
  | drained {id : ProposalId} {proposal : TwoPhaseProposal} : engine.state = .idle →
    engine.verificationRequestBacklog.find? engine.isBacklogged = some id →
    engine.proposalBacklog.find? (hasId id) = some proposal →
    Transition codecs now engine .handleBackloggedVerificationRequest [(.checkProposal id, .ok ())]
      { engine.withoutBacklogged (hasId id) with
        verificationRequestBacklog := engine.verificationRequestBacklog.eraseP engine.isBacklogged
        state := .evaluatingProposal proposal }
  | drainFailed {id : ProposalId} {proposal : TwoPhaseProposal} {error : ConsensusEngineError} :
    engine.state = .idle →
    engine.verificationRequestBacklog.find? engine.isBacklogged = some id →
    engine.proposalBacklog.find? (hasId id) = some proposal →
    Transition codecs now engine .handleBackloggedVerificationRequest
      [(.checkProposal id, .error error)]
      { engine.withoutBacklogged (hasId id) with
        verificationRequestBacklog := engine.verificationRequestBacklog.eraseP engine.isBacklogged }
  | coordinated {proposal : TwoPhaseProposal} {exchanges : List Exchange} {after : TwoPhaseEngine} :
    engine.state = .idle →
    engine.proposalBacklog.find? (hasCoordinator engine.id) = some proposal →
    Coordination codecs now (engine.withoutBacklogged (hasCoordinator engine.id))
      proposal exchanges after →
    Transition codecs now engine .getNextProposal exchanges after
  | creationRequested : engine.state = .idle →
    engine.proposalBacklog.find? (hasCoordinator engine.id) = none →
    Transition codecs now engine .getNextProposal [(.createProposal none [], .ok ())]
      { engine with state := .awaitingProposal }
  | creationFailed {error : ConsensusEngineError} : engine.state = .idle →
    engine.proposalBacklog.find? (hasCoordinator engine.id) = none →
    Transition codecs now engine .getNextProposal [(.createProposal none [], .error error)] engine
  | requestBacklogged {message : ConsensusMessage} {id : ProposalId} :
    meaning codecs message.message = .request id →
    (engine.proposalBacklog.find? (hasId id) = none ∨
      ∃ current, engine.state = .evaluatingProposal current ∧ current.proposalId ≠ id) →
    Transition codecs now engine (.handleConsensusMsg message) [] (engine.backlogRequest id)
  | requested {message : ConsensusMessage} {id : ProposalId} {proposal : TwoPhaseProposal} :
    meaning codecs message.message = .request id →
    (∀ current, engine.state = .evaluatingProposal current → current.proposalId = id) →
    engine.proposalBacklog.find? (hasId id) = some proposal →
    Transition codecs now engine (.handleConsensusMsg message) [(.checkProposal id, .ok ())]
      { engine.withoutBacklogged (hasId id) with state := .evaluatingProposal proposal }
  | requestFailed {message : ConsensusMessage} {id : ProposalId}
    {proposal : TwoPhaseProposal} {error : ConsensusEngineError} :
    meaning codecs message.message = .request id →
    (∀ current, engine.state = .evaluatingProposal current → current.proposalId = id) →
    engine.proposalBacklog.find? (hasId id) = some proposal →
    Transition codecs now engine (.handleConsensusMsg message)
      [(.checkProposal id, .error error)] engine
  | voteCounted {message : ConsensusMessage} {proposal : TwoPhaseProposal} :
    meaning codecs message.message = .response proposal.proposalId .verified →
    engine.state = .evaluatingProposal proposal →
    insert message.originId proposal.peersVerified ≠ proposal.requiredVerifiers →
    Transition codecs now engine (.handleConsensusMsg message) []
      { engine with state := .evaluatingProposal (proposal.addVerifiedPeer message.originId) }
  | voteCompleted {message : ConsensusMessage} {proposal : TwoPhaseProposal}
    {exchanges : List Exchange} {after : TwoPhaseEngine} :
    meaning codecs message.message = .response proposal.proposalId .verified →
    engine.state = .evaluatingProposal proposal →
    insert message.originId proposal.peersVerified = proposal.requiredVerifiers →
    Completion codecs
      { engine with state := .evaluatingProposal (proposal.addVerifiedPeer message.originId) }
      proposal.proposalId .apply exchanges after →
    Transition codecs now engine (.handleConsensusMsg message) exchanges after
  | voteFailed {message : ConsensusMessage} {proposal : TwoPhaseProposal}
    {exchanges : List Exchange} {after : TwoPhaseEngine} :
    meaning codecs message.message = .response proposal.proposalId .failed →
    engine.state = .evaluatingProposal proposal →
    Completion codecs engine proposal.proposalId .reject exchanges after →
    Transition codecs now engine (.handleConsensusMsg message) exchanges after
  | applied {message : ConsensusMessage} {proposal : TwoPhaseProposal} :
    meaning codecs message.message = .result proposal.proposalId .apply →
    engine.state = .evaluatingProposal proposal →
    Transition codecs now engine (.handleConsensusMsg message)
      [(.acceptProposal proposal.proposalId none, .ok ())]
      { engine with state := .idle }
  | applyFailed {message : ConsensusMessage} {proposal : TwoPhaseProposal}
    {error : ConsensusEngineError} :
    meaning codecs message.message = .result proposal.proposalId .apply →
    engine.state = .evaluatingProposal proposal →
    Transition codecs now engine (.handleConsensusMsg message)
      [(.acceptProposal proposal.proposalId none, .error error)] engine
  | rejected {message : ConsensusMessage} {proposal : TwoPhaseProposal} :
    meaning codecs message.message = .result proposal.proposalId .reject →
    engine.state = .evaluatingProposal proposal →
    Transition codecs now engine (.handleConsensusMsg message)
      [(.rejectProposal proposal.proposalId, .ok ())]
      { engine with state := .idle }
  | rejectedOther {message : ConsensusMessage} {id : ProposalId} :
    meaning codecs message.message = .result id .reject →
    engine.evaluatingProposal id = false →
    Transition codecs now engine (.handleConsensusMsg message) [(.rejectProposal id, .ok ())] engine
  | rejectFailed {message : ConsensusMessage} {id : ProposalId} {error : ConsensusEngineError} :
    meaning codecs message.message = .result id .reject →
    Transition codecs now engine (.handleConsensusMsg message)
      [(.rejectProposal id, .error error)] engine
  | nothingCreated : engine.state = .awaitingProposal → Transition codecs now engine
    (.handleProposalUpdate (.proposalCreated none)) []
    { engine with state := .idle }
  | emptyRejected {update : ProposalUpdate} {proposal : Proposal} : handed update = some proposal →
    engine.isBacklogged proposal.id = false →
    engine.verifiers codecs proposal = .ok ∅ →
    Transition codecs now engine (.handleProposalUpdate update)
      [(.rejectProposal proposal.id, .ok ())]
      { engine with state := .idle }
  | emptyRejectFailed {update : ProposalUpdate} {proposal : Proposal}
    {error : ConsensusEngineError} :
    handed update = some proposal →
    engine.isBacklogged proposal.id = false →
    engine.verifiers codecs proposal = .ok ∅ →
    Transition codecs now engine (.handleProposalUpdate update)
      [(.rejectProposal proposal.id, .error error)] engine
  | proposalBacklogged {update : ProposalUpdate} {proposal : Proposal}
    {tracked : TwoPhaseProposal} :
    handed update = some proposal →
    engine.isBacklogged proposal.id = false →
    engine.verifiers codecs proposal = .ok tracked.requiredVerifiers →
    tracked.proposalId = proposal.id →
    tracked.peersVerified = ∅ →
    ((∃ current, engine.state = .evaluatingProposal current ∧ current.proposalId ≠ proposal.id) ∨
      (∀ current, engine.state ≠ .evaluatingProposal current) ∧ engine.id ≠ tracked.coordinatorId) →
    Transition codecs now engine (.handleProposalUpdate update) [] (engine.backlog tracked)
  | proposalCoordinated {update : ProposalUpdate} {proposal : Proposal} {tracked : TwoPhaseProposal}
    {exchanges : List Exchange} {after : TwoPhaseEngine} :
    handed update = some proposal →
    engine.isBacklogged proposal.id = false →
    engine.verifiers codecs proposal = .ok tracked.requiredVerifiers →
    tracked.proposalId = proposal.id →
    tracked.peersVerified = ∅ →
    (∀ current, engine.state ≠ .evaluatingProposal current) →
    engine.id = tracked.coordinatorId →
    Coordination codecs now engine tracked exchanges after →
    Transition codecs now engine (.handleProposalUpdate update) exchanges after
  | verificationRequested {proposal : TwoPhaseProposal} {answer : Answer} :
    engine.state = .evaluatingProposal proposal →
    engine.id = proposal.coordinatorId →
    Transition codecs now engine (.handleProposalUpdate (.proposalValid proposal.proposalId))
      [(.broadcast
        (codecs.twoPhaseMessage.write (verificationRequest proposal.proposalId)), answer)]
      { engine with state := .evaluatingProposal (proposal.addVerifiedPeer engine.id) }
  | verifiedSent {proposal : TwoPhaseProposal} {answer : Answer} :
    engine.state = .evaluatingProposal proposal →
    engine.id ≠ proposal.coordinatorId →
    Transition codecs now engine (.handleProposalUpdate (.proposalValid proposal.proposalId))
      [(.sendTo proposal.coordinatorId
        (codecs.twoPhaseMessage.write
          (verificationResponse proposal.proposalId .verified)), answer)]
      engine
  | invalidRejected {proposal : TwoPhaseProposal}
    {exchanges : List Exchange} {after : TwoPhaseEngine} :
    engine.state = .evaluatingProposal proposal →
    engine.id = proposal.coordinatorId →
    Completion codecs engine proposal.proposalId .reject exchanges after →
    Transition codecs now engine (.handleProposalUpdate (.proposalInvalid proposal.proposalId))
      exchanges after
  | failedSent {proposal : TwoPhaseProposal} {answer : Answer} :
    engine.state = .evaluatingProposal proposal →
    engine.id ≠ proposal.coordinatorId →
    Transition codecs now engine (.handleProposalUpdate (.proposalInvalid proposal.proposalId))
      [(.sendTo proposal.coordinatorId
        (codecs.twoPhaseMessage.write (verificationResponse proposal.proposalId .failed)), answer)]
      engine

/-! ## The handlers have no other outcomes -/

open Interaction

@[simp]
theorem trace_finish_iff (engine : TwoPhaseEngine) (exchanges : List Exchange)
    (outcome : Except ConsensusEngineError Unit × TwoPhaseEngine) :
    Trace (finish engine) exchanges outcome ↔ exchanges = [] ∧ outcome = (.ok (), engine) := by
  simp [finish]

theorem trace_attempt_iff (call : Call) (engine : TwoPhaseEngine) (next : Handler)
    (exchanges : List Exchange) (outcome : Except ConsensusEngineError Unit × TwoPhaseEngine) :
    Trace (attempt call engine next) exchanges outcome ↔
      (∃ error, exchanges = [(call, .error error)] ∧ outcome = (.error error, engine)) ∨
        ∃ rest, exchanges = (call, .ok ()) :: rest ∧ Trace next rest outcome := by
  rw [attempt, trace_ask_iff]
  constructor
  · rintro ⟨answer, rest, shape, remaining⟩
    cases answer with
    | error error =>
      rw [trace_done_iff] at remaining
      obtain ⟨restEmpty, same⟩ := remaining
      exact Or.inl ⟨error, by rw [shape, restEmpty], same⟩
    | ok value => exact Or.inr ⟨rest, shape, remaining⟩
  · rintro (⟨error, shape, same⟩ | ⟨rest, shape, remaining⟩)
    · exact ⟨.error error, [], shape, by simp [same]⟩
    · exact ⟨.ok (), rest, shape, remaining⟩

variable {engine : TwoPhaseEngine} {exchanges : List Exchange}
  {outcome : Except ConsensusEngineError Unit × TwoPhaseEngine}
  {call : Call} {codecs : Codecs} {now : Instant}

theorem exchange_of_trace_attempt_finish
    (trace : Trace (attempt call engine (finish engine)) exchanges outcome) :
    ∃ answer, exchanges = [(call, answer)] ∧ outcome.2 = engine := by
  rw [trace_attempt_iff] at trace
  rcases trace with ⟨error, shape, same⟩ | ⟨rest, shape, remaining⟩
  · exact ⟨.error error, shape, by rw [same]⟩
  · rw [trace_finish_iff] at remaining
    exact ⟨.ok (), by rw [shape, remaining.1], by rw [remaining.2]⟩

theorem completion_of_trace {id : ProposalId} {result : ProposalResult}
    (decided : decisionCall id result = some call)
    (trace : Trace (completeCoordination codecs id result engine) exchanges outcome) :
    Completion codecs engine id result exchanges outcome.2 := by
  have unfolded : Trace
      (attempt call engine
        (attempt (.broadcast (codecs.twoPhaseMessage.write (resultMessage id result)))
          engine.settle (finish engine.settle)))
      exchanges outcome := by
    cases result with
    | unsetResult => simp [decisionCall] at decided
    | apply =>
      injection decided with same
      subst same
      exact trace
    | reject =>
      injection decided with same
      subst same
      exact trace
  rw [trace_attempt_iff] at unfolded
  rcases unfolded with ⟨error, shape, same⟩ | ⟨rest, shape, remaining⟩
  · rw [shape, same]
    exact Completion.refused decided
  · obtain ⟨answer, restShape, same⟩ := exchange_of_trace_attempt_finish remaining
    rw [shape, restShape, same]
    exact Completion.announced decided

theorem coordination_of_trace {proposal : TwoPhaseProposal}
    (trace : Trace (startCoordination codecs now proposal engine) exchanges outcome) :
    Coordination codecs now engine proposal exchanges outcome.2 := by
  rw [startCoordination, trace_ask_iff] at trace
  obtain ⟨answer, rest, shape, remaining⟩ := trace
  rw [shape]
  cases answer with
  | error error => exact Coordination.rejected (completion_of_trace rfl remaining)
  | ok value =>
    rw [trace_finish_iff] at remaining
    rw [remaining.1, remaining.2]
    exact Coordination.started

theorem update_eq_of_checkExpired_eq_false {timeout : Timeout}
    (running : timeout.checkExpired now = false) :
    timeout.update now = timeout := by
  unfold Timeout.update
  split
  · simp_all [Timeout.checkExpired, Timeout.update]
  · rfl

theorem evaluatingProposal_iff (engine : TwoPhaseEngine) (id : ProposalId) :
    engine.evaluatingProposal id = true ↔ ∃ proposal, engine.state = .evaluatingProposal proposal ∧
      proposal.proposalId = id := by
  unfold evaluatingProposal
  split
  · simp_all
  · simp_all

section Traces

variable {codecs : Codecs} {now : Instant} {engine : TwoPhaseEngine} {exchanges : List Exchange}
  {outcome : Except ConsensusEngineError Unit × TwoPhaseEngine}
  {input : Input} {after : TwoPhaseEngine}

private theorem Transition.finished (transition : Transition codecs now engine input [] after)
    (trace : Trace (finish after) exchanges outcome) :
    Transition codecs now engine input exchanges outcome.2 := by
  rw [trace_finish_iff] at trace
  rw [trace.1, trace.2]
  exact transition

private theorem Transition.attempted {call : Call} {failed : TwoPhaseEngine}
    (refused : ∀ error, Transition codecs now engine input [(call, .error error)] failed)
    (accepted : Transition codecs now engine input [(call, .ok ())] after)
    (trace : Trace (attempt call failed (finish after)) exchanges outcome) :
    Transition codecs now engine input exchanges outcome.2 := by
  rw [trace_attempt_iff] at trace
  rcases trace with ⟨error, shape, same⟩ | ⟨rest, shape, remaining⟩
  · rw [shape, same]
    exact refused error
  · rw [trace_finish_iff] at remaining
    rw [shape, remaining.1, remaining.2]
    exact accepted

private theorem transition_abortProposalIfTimedOut
    (trace : Trace (abortProposalIfTimedOut codecs now engine) exchanges outcome) :
    Transition codecs now engine .abortProposalIfTimedOut exchanges outcome.2 := by
  unfold abortProposalIfTimedOut at trace
  split at trace
  case h_1 proposal evaluating =>
    split at trace
    case isTrue expired =>
      exact Transition.timedOut evaluating expired (completion_of_trace rfl trace)
    case isFalse running =>
      have running : engine.coordinatorTimeout.checkExpired now = false := by simpa using running
      rw [update_eq_of_checkExpired_eq_false running] at trace
      exact .finished (.ignored (fun _ _ => running)) trace
  case h_2 notEvaluating =>
    refine .finished (.ignored ?_) trace
    exact fun proposal evaluating => (notEvaluating proposal evaluating).elim

private theorem transition_handleBackloggedVerificationRequest
    (trace : Trace (handleBackloggedVerificationRequest engine) exchanges outcome) :
    Transition codecs now engine .handleBackloggedVerificationRequest exchanges outcome.2 := by
  unfold handleBackloggedVerificationRequest at trace
  split at trace
  case h_1 idle =>
    split at trace
    case h_1 id found =>
      split at trace
      case h_1 proposal backlogged =>
        exact .attempted (fun _ => .drainFailed idle found backlogged)
          (.drained idle found backlogged) trace
      case h_2 absent =>
        have present := List.find?_some found
        simp only [isBacklogged, List.any_eq_true] at present
        obtain ⟨proposal, member, matching⟩ := present
        exact (List.find?_eq_none.mp absent proposal member matching).elim
    case h_2 none =>
      exact .finished (.ignored (fun _ => none)) trace
  case h_2 busy =>
    exact .finished (.ignored (fun idle => (busy idle).elim)) trace

private theorem transition_getNextProposal
    (trace : Trace (getNextProposal codecs now engine) exchanges outcome) :
    Transition codecs now engine .getNextProposal exchanges outcome.2 := by
  unfold getNextProposal at trace
  split at trace
  case h_1 idle =>
    split at trace
    case h_1 proposal found =>
      rw [logged, trace_map_iff] at trace
      obtain ⟨result, started, same⟩ := trace
      have coordination := coordination_of_trace started
      rw [same]
      exact Transition.coordinated idle found coordination
    case h_2 absent =>
      rw [trace_ask_iff] at trace
      obtain ⟨answer, rest, shape, remaining⟩ := trace
      rw [shape]
      cases answer with
      | error error =>
        rw [trace_finish_iff] at remaining
        rw [remaining.1, remaining.2]
        exact Transition.creationFailed idle absent
      | ok value =>
        rw [trace_finish_iff] at remaining
        rw [remaining.1, remaining.2]
        exact Transition.creationRequested idle absent
  case h_2 busy =>
    exact .finished (.ignored busy) trace

variable {message : ConsensusMessage} {id : ProposalId}

private theorem transition_evaluateRequested
    (decoded : meaning codecs message.message = .request id)
    (free : ∀ current, engine.state = .evaluatingProposal current → current.proposalId = id)
    (trace : Trace (evaluateRequested id engine) exchanges outcome) :
    Transition codecs now engine (.handleConsensusMsg message) exchanges outcome.2 := by
  unfold evaluateRequested at trace
  split at trace
  case h_1 proposal found =>
    exact .attempted (fun _ => .requestFailed decoded free found)
      (.requested decoded free found) trace
  case h_2 absent =>
    exact .finished (.requestBacklogged decoded (Or.inl absent)) trace

private theorem transition_handleVerificationRequest
    (decoded : meaning codecs message.message = .request id)
    (trace : Trace (handleVerificationRequest id engine) exchanges outcome) :
    Transition codecs now engine (.handleConsensusMsg message) exchanges outcome.2 := by
  unfold handleVerificationRequest at trace
  split at trace
  case h_1 proposal evaluating =>
    split at trace
    case isTrue other =>
      exact .finished (.requestBacklogged decoded (Or.inr ⟨proposal, evaluating, other⟩)) trace
    case isFalse same =>
      refine transition_evaluateRequested decoded ?_ trace
      intro current currentEvaluating
      rw [evaluating] at currentEvaluating
      injection currentEvaluating with equal
      rw [← equal]
      exact not_not.mp same
  case h_2 notEvaluating =>
    exact transition_evaluateRequested decoded
      (fun current evaluating => (notEvaluating current evaluating).elim)
      trace

private theorem transition_handleVerificationResponse {response : ProposalVerificationResponse}
    (decoded : meaning codecs message.message = .response id response)
    (trace : Trace (handleVerificationResponse codecs message.originId id response engine)
      exchanges outcome) :
    Transition codecs now engine (.handleConsensusMsg message) exchanges outcome.2 := by
  have nothing
      (unexpected : engine.evaluatingProposal id = true → response = .unsetVerificationResponse)
      (quiet : Trace (finish engine) exchanges outcome) :
      Transition codecs now engine (.handleConsensusMsg message) exchanges outcome.2 := by
    refine .finished (.ignored ?_) quiet
    simpa only [Ignores, decoded] using unexpected
  unfold handleVerificationResponse at trace
  split at trace
  case h_1 proposal evaluating =>
    split at trace
    case isTrue same =>
      subst same
      cases response with
      | verified =>
        dsimp only at trace
        split at trace
        case isTrue complete =>
          exact Transition.voteCompleted decoded evaluating complete (completion_of_trace rfl trace)
        case isFalse incomplete =>
          exact .finished (.voteCounted decoded evaluating incomplete) trace
      | failed => exact Transition.voteFailed decoded evaluating (completion_of_trace rfl trace)
      | unsetVerificationResponse => exact nothing (fun _ => rfl) trace
    case isFalse other =>
      refine nothing ?_ trace
      intro current
      simp [evaluatingProposal, evaluating, other] at current
  case h_2 notEvaluating =>
    refine nothing ?_ trace
    intro current
    obtain ⟨proposal, evaluating, _⟩ := (evaluatingProposal_iff engine id).mp current
    exact (notEvaluating proposal evaluating).elim

private theorem transition_handleProposalResult {result : ProposalResult}
    (decoded : meaning codecs message.message = .result id result)
    (trace : Trace (handleProposalResult id result engine) exchanges outcome) :
    Transition codecs now engine (.handleConsensusMsg message) exchanges outcome.2 := by
  cases result with
  | unsetResult =>
    rw [handleProposalResult, trace_finish_iff] at trace
    rw [trace.1, trace.2]
    apply Transition.ignored
    simp only [Ignores, decoded]
  | apply =>
    unfold handleProposalResult at trace
    dsimp only at trace
    split at trace
    case isTrue current =>
      obtain ⟨proposal, evaluating, same⟩ := (evaluatingProposal_iff engine id).mp current
      subst same
      exact .attempted (fun _ => .applyFailed decoded evaluating)
        (.applied decoded evaluating) trace
    case isFalse other =>
      refine .finished (.ignored ?_) trace
      simpa only [Ignores, decoded, Bool.not_eq_true] using other
  | reject =>
    unfold handleProposalResult at trace
    rw [trace_attempt_iff] at trace
    rcases trace with ⟨error, shape, same⟩ | ⟨rest, shape, remaining⟩
    · rw [shape, same]
      exact Transition.rejectFailed decoded
    · split at remaining
      case isTrue current =>
        obtain ⟨proposal, evaluating, same⟩ := (evaluatingProposal_iff engine id).mp current
        subst same
        rw [trace_finish_iff] at remaining
        rw [shape, remaining.1, remaining.2]
        exact Transition.rejected decoded evaluating
      case isFalse other =>
        rw [trace_finish_iff] at remaining
        rw [shape, remaining.1, remaining.2]
        exact Transition.rejectedOther decoded (Bool.not_eq_true _ ▸ other)

private theorem transition_handleConsensusMsg
    (trace : Trace (handleConsensusMsg codecs message engine) exchanges outcome) :
    Transition codecs now engine (.handleConsensusMsg message) exchanges outcome.2 := by
  unfold handleConsensusMsg at trace
  split at trace
  case h_1 error failed =>
    rw [trace_done_iff] at trace
    rw [trace.1, trace.2]
    apply Transition.ignored
    simp only [Ignores, meaning, failed]
  case h_2 parsed readable =>
    split at trace
    case h_1 kind =>
      exact transition_handleVerificationRequest (by simp only [meaning, readable, kind]) trace
    case h_2 kind =>
      exact transition_handleVerificationResponse (by simp only [meaning, readable, kind]) trace
    case h_3 kind =>
      exact transition_handleProposalResult (by simp only [meaning, readable, kind]) trace
    case h_4 kind =>
      refine .finished (.ignored ?_) trace
      simp only [Ignores, meaning, readable, kind]

variable {update : ProposalUpdate}

private theorem transition_handleProposal {proposal : Proposal}
    (delivered : handed update = some proposal)
    (trace : Trace (handleProposal codecs now proposal engine) exchanges outcome) :
    Transition codecs now engine (.handleProposalUpdate update) exchanges outcome.2 := by
  have ignores
      (known : engine.isBacklogged proposal.id = true ∨
        (∃ error, engine.verifiers codecs proposal = .error error) ∨
        ∃ verifiers, engine.verifiers codecs proposal = .ok verifiers ∧ verifiers.Nonempty ∧
          engine.evaluatingProposal proposal.id = true) :
      Transition codecs now engine (.handleProposalUpdate update) [] engine := by
    apply Transition.ignored
    cases update with
    | proposalCreated created =>
      subst delivered
      exact known
    | proposalReceived received _ =>
      injection delivered with same
      subst same
      exact known
    | _ => cases delivered
  unfold handleProposal at trace
  split at trace
  case isTrue backlogged =>
    exact .finished (ignores (Or.inl backlogged)) trace
  case isFalse fresh =>
    have fresh : engine.isBacklogged proposal.id = false := by simpa using fresh
    split at trace
    case h_1 error malformed =>
      rw [trace_done_iff] at trace
      rw [trace.1, trace.2]
      exact ignores (Or.inr (Or.inl ⟨error, malformed⟩))
    case h_2 verifiers readable =>
      split at trace
      case isTrue nonempty =>
        dsimp only at trace
        split at trace
        case h_1 current evaluating =>
          split at trace
          case isTrue same =>
            rw [trace_finish_iff] at trace
            rw [trace.1, trace.2]
            refine ignores (Or.inr (Or.inr ⟨verifiers, readable, nonempty, ?_⟩))
            exact (evaluatingProposal_iff engine proposal.id).mpr ⟨current, evaluating, same.symm⟩
          case isFalse other =>
            refine .finished (.proposalBacklogged delivered fresh readable rfl rfl ?_) trace
            exact Or.inl ⟨current, evaluating, Ne.symm other⟩
        case h_2 notEvaluating =>
          split at trace
          case isTrue coordinator =>
            exact Transition.proposalCoordinated delivered fresh readable rfl rfl
              notEvaluating coordinator (coordination_of_trace trace)
          case isFalse participant =>
            refine .finished (.proposalBacklogged delivered fresh readable rfl rfl ?_) trace
            exact Or.inr ⟨notEvaluating, participant⟩
      case isFalse empty =>
        rw [Finset.not_nonempty_iff_eq_empty] at empty
        subst empty
        exact .attempted (fun _ => .emptyRejectFailed delivered fresh readable)
          (.emptyRejected delivered fresh readable) trace

private theorem evaluatingProposal_eq_false_of_ne {proposal : TwoPhaseProposal}
    (evaluating : engine.state = .evaluatingProposal proposal)
    (other : ¬ proposal.proposalId = id) :
    engine.evaluatingProposal id = false := by
  simp [evaluatingProposal, evaluating, other]

private theorem evaluatingProposal_eq_false_of_forall_ne
    (notEvaluating : ∀ proposal, engine.state = .evaluatingProposal proposal → False) :
    engine.evaluatingProposal id = false := by
  rw [← Bool.not_eq_true, evaluatingProposal_iff]
  rintro ⟨proposal, evaluating, _⟩
  exact notEvaluating proposal evaluating

private theorem transition_handleProposalValid
    (trace : Trace (handleProposalValid codecs id engine) exchanges outcome) :
    Transition codecs now engine (.handleProposalUpdate (.proposalValid id))
      exchanges outcome.2 := by
  unfold handleProposalValid at trace
  split at trace
  case h_1 proposal evaluating =>
    split at trace
    case isTrue same =>
      subst same
      split at trace
      case isTrue coordinator =>
        exact .attempted (fun _ => .verificationRequested evaluating coordinator)
          (.verificationRequested evaluating coordinator) trace
      case isFalse participant =>
        exact .attempted (fun _ => .verifiedSent evaluating participant)
          (.verifiedSent evaluating participant) trace
    case isFalse other =>
      exact .finished (.ignored (evaluatingProposal_eq_false_of_ne evaluating other)) trace
  case h_2 notEvaluating =>
    exact .finished (.ignored (evaluatingProposal_eq_false_of_forall_ne notEvaluating)) trace

private theorem transition_handleProposalInvalid
    (trace : Trace (handleProposalInvalid codecs id engine) exchanges outcome) :
    Transition codecs now engine (.handleProposalUpdate (.proposalInvalid id))
      exchanges outcome.2 := by
  unfold handleProposalInvalid at trace
  split at trace
  case h_1 proposal evaluating =>
    split at trace
    case isTrue same =>
      subst same
      split at trace
      case isTrue coordinator =>
        exact Transition.invalidRejected evaluating coordinator (completion_of_trace rfl trace)
      case isFalse participant =>
        exact .attempted (fun _ => .failedSent evaluating participant)
          (.failedSent evaluating participant) trace
    case isFalse other =>
      exact .finished (.ignored (evaluatingProposal_eq_false_of_ne evaluating other)) trace
  case h_2 notEvaluating =>
    exact .finished (.ignored (evaluatingProposal_eq_false_of_forall_ne notEvaluating)) trace

private theorem transition_handleProposalUpdate
    (trace : Trace (handleProposalUpdate codecs now update engine) exchanges outcome) :
    Transition codecs now engine (.handleProposalUpdate update) exchanges outcome.2 := by
  cases update with
  | proposalCreated created =>
    cases created with
    | none =>
      unfold handleProposalUpdate at trace
      dsimp only at trace
      split at trace
      case h_1 awaiting =>
        exact .finished (.nothingCreated awaiting) trace
      case h_2 notAwaiting =>
        exact .finished (.ignored notAwaiting) trace
    | some proposal => exact transition_handleProposal rfl trace
  | proposalReceived proposal peer => exact transition_handleProposal rfl trace
  | proposalValid id => exact transition_handleProposalValid trace
  | proposalInvalid id => exact transition_handleProposalInvalid trace
  | proposalAccepted _ | proposalAcceptFailed _ _ | shutdown =>
    rw [handleProposalUpdate, trace_finish_iff] at trace
    rw [trace.1, trace.2]
    exact Transition.ignored trivial

theorem transition_of_trace {input : Input}
    (trace : Trace (handle codecs now input engine) exchanges outcome) :
    Transition codecs now engine input exchanges outcome.2 := by
  cases input with
  | abortProposalIfTimedOut => exact transition_abortProposalIfTimedOut trace
  | handleBackloggedVerificationRequest =>
    exact transition_handleBackloggedVerificationRequest trace
  | getNextProposal => exact transition_getNextProposal trace
  | handleConsensusMsg message => exact transition_handleConsensusMsg trace
  | handleProposalUpdate update => exact transition_handleProposalUpdate trace

end Traces

end TwoPhaseEngine

end Splinter.TwoPhase
