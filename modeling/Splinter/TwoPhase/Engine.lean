import Splinter.TwoPhase.Messages
import Splinter.TwoPhase.Timing

/-!
# The two-phase engine

A handler is an interaction with the proposal manager and the network sender that
ends with the value the function returns and the engine it leaves behind, also
when it returns an error.
-/

namespace Splinter.TwoPhase

open Library Consensus

/-- A proposal consensus keeps track of.  Its coordinator is the lowest of the
required verifiers. -/
structure TwoPhaseProposal where
  proposalId : ProposalId
  coordinatorId : PeerId
  peersVerified : Finset PeerId
  requiredVerifiers : Finset PeerId
  lowest : IsLeast (requiredVerifiers : Set PeerId) coordinatorId
  deriving DecidableEq

namespace TwoPhaseProposal

def new (proposalId : ProposalId) (coordinatorId : PeerId) (requiredVerifiers : Finset PeerId)
    (lowest : IsLeast (requiredVerifiers : Set PeerId) coordinatorId) :
    TwoPhaseProposal where
  proposalId := proposalId
  coordinatorId := coordinatorId
  peersVerified := ∅
  requiredVerifiers := requiredVerifiers
  lowest := lowest

def addVerifiedPeer (proposal : TwoPhaseProposal) (id : PeerId) : TwoPhaseProposal :=
  { proposal with peersVerified := insert id proposal.peersVerified }

def hasId (id : ProposalId) (proposal : TwoPhaseProposal) : Bool := proposal.proposalId = id

/-- The proposal is coordinated by the given peer. -/
def hasCoordinator (peer : PeerId) (proposal : TwoPhaseProposal) : Bool :=
  proposal.coordinatorId = peer

theorem requiredVerifiers_ne_empty (proposal : TwoPhaseProposal) : proposal.requiredVerifiers ≠ ∅ :=
  Finset.ne_empty_of_mem (Finset.mem_coe.mp proposal.lowest.1)

end TwoPhaseProposal

open TwoPhaseProposal (hasId hasCoordinator)

inductive State where
  | idle
  | awaitingProposal
  | evaluatingProposal (proposal : TwoPhaseProposal)
  deriving DecidableEq

structure TwoPhaseEngine where
  id : PeerId
  peers : Finset PeerId
  state : State
  coordinatorTimeout : Timeout
  proposalBacklog : List TwoPhaseProposal
  verificationRequestBacklog : List ProposalId
  deriving DecidableEq

/-- What a handler of the engine does: calls on the manager and the network,
then a result and the engine afterwards. -/
abbrev Handler := Interaction Call Answer (Except ConsensusEngineError Unit × TwoPhaseEngine)

def finish (engine : TwoPhaseEngine) : Handler := .done (.ok (), engine)

/-- Make a call and return its error, if any: the `?` operator. -/
def attempt (call : Call) (engine : TwoPhaseEngine) (next : Handler) : Handler :=
  .ask call fun answer =>
    match answer with
    | .error error => .done (.error error, engine)
    | .ok () => next

/-- Log an error and go on: the handler returns normally whatever happened. -/
def logged (handler : Handler) : Handler := handler.map fun outcome => (.ok (), outcome.2)

namespace TwoPhaseEngine

def new (coordinatorTimeoutDuration : Nat) (now : Instant) : TwoPhaseEngine where
  id := ⟨[]⟩
  peers := ∅
  state := .idle
  coordinatorTimeout := Timeout.new coordinatorTimeoutDuration now
  proposalBacklog := []
  verificationRequestBacklog := []

/-- The engine when `run` enters its loop. -/
def startup (coordinatorTimeoutDuration : Nat) (now : Instant)
    (id : PeerId) (peerIds : List PeerId) : TwoPhaseEngine :=
  { new coordinatorTimeoutDuration now with
    id := id
    peers := peerIds.toFinset }

variable (engine : TwoPhaseEngine)

def evaluatingProposal (id : ProposalId) : Bool :=
  match engine.state with
  | .evaluatingProposal proposal => proposal.proposalId = id
  | _ => false

/-- The state and timer changes of `complete_coordination`. -/
def settle : TwoPhaseEngine :=
  { engine with
    state := .idle
    coordinatorTimeout := engine.coordinatorTimeout.stop }

/-- Take the first backlogged proposal with a property out of the backlog. -/
def withoutBacklogged (wanted : TwoPhaseProposal → Bool) : TwoPhaseEngine :=
  { engine with proposalBacklog := engine.proposalBacklog.eraseP wanted }

def backlog (proposal : TwoPhaseProposal) : TwoPhaseEngine :=
  { engine with proposalBacklog := engine.proposalBacklog ++ [proposal] }

def backlogRequest (id : ProposalId) : TwoPhaseEngine :=
  { engine with verificationRequestBacklog := engine.verificationRequestBacklog ++ [id] }

def isBacklogged (id : ProposalId) : Bool :=
  engine.proposalBacklog.any (hasId id)

def completeCoordination (codecs : Codecs) (proposalId : ProposalId)
    (proposalResult : ProposalResult) (engine : TwoPhaseEngine) : Handler :=
  let announce : Handler := attempt
    (.broadcast (codecs.twoPhaseMessage.write (resultMessage proposalId proposalResult)))
    engine.settle (finish engine.settle)
  match proposalResult with
  | .apply => attempt (.acceptProposal proposalId none) engine announce
  | .reject => attempt (.rejectProposal proposalId) engine announce
  | .unsetResult => finish engine

def startCoordination (codecs : Codecs) (now : Instant)
    (proposal : TwoPhaseProposal) (engine : TwoPhaseEngine) : Handler :=
  .ask (.checkProposal proposal.proposalId) fun answer =>
    match answer with
    | .ok () =>
      finish
        { engine with
          state := .evaluatingProposal proposal
          coordinatorTimeout := engine.coordinatorTimeout.restart now }
    | .error _ => completeCoordination codecs proposal.proposalId .reject engine

/-- The peers that must verify a proposal: the ones its consensus data lists,
or every peer and the engine itself when there is no such data. -/
def verifiers (codecs : Codecs) (engine : TwoPhaseEngine)
    (proposal : Proposal) : Except ProtobufError (Finset PeerId) :=
  if proposal.consensusData = [] then
    .ok (insert engine.id engine.peers)
  else
    (codecs.requiredVerifiers.parse proposal.consensusData).map fun required =>
      (required.verifiers.map PeerId.mk).toFinset

def handleProposal (codecs : Codecs) (now : Instant)
    (proposal : Proposal) (engine : TwoPhaseEngine) : Handler :=
  if engine.isBacklogged proposal.id then
    finish engine
  else
    match engine.verifiers codecs proposal with
    | .error error => .done (.error (.protobuf error), engine)
    | .ok verifiers =>
      if nonempty : verifiers.Nonempty then
        let tpcProposal := TwoPhaseProposal.new proposal.id (verifiers.min' nonempty)
          verifiers (verifiers.isLeast_min' nonempty)
        match engine.state with
        | .evaluatingProposal currentProposal =>
          if tpcProposal.proposalId = currentProposal.proposalId then
            finish engine
          else
            finish (engine.backlog tpcProposal)
        | _ =>
          if engine.id = tpcProposal.coordinatorId then
            startCoordination codecs now tpcProposal engine
          else
            finish (engine.backlog tpcProposal)
      else
        attempt (.rejectProposal proposal.id) engine (finish { engine with state := .idle })

def evaluateRequested (proposalId : ProposalId) (engine : TwoPhaseEngine) : Handler :=
  match engine.proposalBacklog.find? (hasId proposalId) with
  | some proposal =>
    attempt (.checkProposal proposalId) engine
      (finish
        { engine.withoutBacklogged (hasId proposalId) with state := .evaluatingProposal proposal })
  | none => finish (engine.backlogRequest proposalId)

def handleVerificationRequest (proposalId : ProposalId) (engine : TwoPhaseEngine) : Handler :=
  match engine.state with
  | .evaluatingProposal proposal =>
    if proposal.proposalId ≠ proposalId then
      finish (engine.backlogRequest proposalId)
    else
      evaluateRequested proposalId engine
  | _ => evaluateRequested proposalId engine

def handleVerificationResponse (codecs : Codecs) (originId : PeerId)
    (proposalId : ProposalId) (response : ProposalVerificationResponse)
    (engine : TwoPhaseEngine) : Handler :=
  match engine.state with
  | .evaluatingProposal proposal =>
    if proposal.proposalId = proposalId then
      match response with
      | .verified =>
        let counted := proposal.addVerifiedPeer originId
        let engine := { engine with state := .evaluatingProposal counted }
        if counted.peersVerified = counted.requiredVerifiers then
          completeCoordination codecs proposalId .apply engine
        else
          finish engine
      | .failed => completeCoordination codecs proposalId .reject engine
      | .unsetVerificationResponse => finish engine
    else
      finish engine
  | _ => finish engine

def handleProposalResult (proposalId : ProposalId) (result : ProposalResult)
    (engine : TwoPhaseEngine) : Handler :=
  match result with
  | .apply =>
    if engine.evaluatingProposal proposalId then
      attempt (.acceptProposal proposalId none) engine (finish { engine with state := .idle })
    else
      finish engine
  | .reject =>
    attempt (.rejectProposal proposalId) engine
      (if engine.evaluatingProposal proposalId then
        finish { engine with state := .idle }
      else
        finish engine)
  | .unsetResult => finish engine

variable (codecs : Codecs)

def handleConsensusMsg (consensusMsg : ConsensusMessage) (engine : TwoPhaseEngine) : Handler :=
  match codecs.twoPhaseMessage.parse consensusMsg.message with
  | .error error => .done (.error (.protobuf error), engine)
  | .ok twoPhaseMsg =>
    let proposalId : ProposalId := ⟨twoPhaseMsg.proposalId⟩
    match twoPhaseMsg.messageType with
    | .proposalVerificationRequest => handleVerificationRequest proposalId engine
    | .proposalVerificationResponse =>
      handleVerificationResponse codecs consensusMsg.originId proposalId
        twoPhaseMsg.proposalVerificationResponse engine
    | .proposalResult => handleProposalResult proposalId twoPhaseMsg.proposalResult engine
    | .unsetType => finish engine

def handleProposalValid (proposalId : ProposalId) (engine : TwoPhaseEngine) : Handler :=
  match engine.state with
  | .evaluatingProposal proposal =>
    if proposal.proposalId = proposalId then
      if engine.id = proposal.coordinatorId then
        let engine :=
          { engine with state := .evaluatingProposal (proposal.addVerifiedPeer engine.id) }
        attempt (.broadcast (codecs.twoPhaseMessage.write (verificationRequest proposalId)))
          engine (finish engine)
      else
        attempt
          (.sendTo proposal.coordinatorId
            (codecs.twoPhaseMessage.write (verificationResponse proposalId .verified)))
          engine (finish engine)
    else
      finish engine
  | _ => finish engine

def handleProposalInvalid (proposalId : ProposalId) (engine : TwoPhaseEngine) : Handler :=
  match engine.state with
  | .evaluatingProposal proposal =>
    if proposal.proposalId = proposalId then
      if engine.id = proposal.coordinatorId then
        completeCoordination codecs proposalId .reject engine
      else
        attempt
          (.sendTo proposal.coordinatorId
            (codecs.twoPhaseMessage.write (verificationResponse proposalId .failed)))
          engine (finish engine)
    else
      finish engine
  | _ => finish engine

def handleProposalUpdate (now : Instant)
    (update : ProposalUpdate) (engine : TwoPhaseEngine) : Handler :=
  match update with
  | .proposalCreated none =>
    match engine.state with
    | .awaitingProposal => finish { engine with state := .idle }
    | _ => finish engine
  | .proposalCreated (some proposal) => handleProposal codecs now proposal engine
  | .proposalReceived proposal _ => handleProposal codecs now proposal engine
  | .proposalValid proposalId => handleProposalValid codecs proposalId engine
  | .proposalInvalid proposalId => handleProposalInvalid codecs proposalId engine
  | .proposalAccepted _ => finish engine
  | .proposalAcceptFailed _ _ => finish engine
  | .shutdown => finish engine

def abortProposalIfTimedOut (now : Instant) (engine : TwoPhaseEngine) : Handler :=
  match engine.state with
  | .evaluatingProposal proposal =>
    let checked := { engine with coordinatorTimeout := engine.coordinatorTimeout.update now }
    if engine.coordinatorTimeout.checkExpired now then
      completeCoordination codecs proposal.proposalId .reject checked
    else
      finish checked
  | _ => finish engine

def handleBackloggedVerificationRequest (engine : TwoPhaseEngine) : Handler :=
  match engine.state with
  | .idle =>
    match engine.verificationRequestBacklog.find? engine.isBacklogged with
    | some proposalId =>
      match engine.proposalBacklog.find? (hasId proposalId) with
      | some proposal =>
        let remaining :=
          { engine.withoutBacklogged (hasId proposalId) with
            verificationRequestBacklog := engine.verificationRequestBacklog.eraseP
              engine.isBacklogged }
        attempt (.checkProposal proposalId) remaining
          (finish { remaining with state := .evaluatingProposal proposal })
      | none => finish engine
    | none => finish engine
  | _ => finish engine

def getNextProposal (codecs : Codecs) (now : Instant) (engine : TwoPhaseEngine) : Handler :=
  match engine.state with
  | .idle =>
    match engine.proposalBacklog.find? (hasCoordinator engine.id) with
    | some proposal =>
      logged
        (startCoordination codecs now proposal
          (engine.withoutBacklogged (hasCoordinator engine.id)))
    | none =>
      .ask (.createProposal none []) fun answer =>
        match answer with
        | .ok () => finish { engine with state := .awaitingProposal }
        | .error _ => finish engine
  | _ => finish engine

/-- What the loop of `run` calls the engine with. -/
inductive Input where
  | abortProposalIfTimedOut
  | handleBackloggedVerificationRequest
  | getNextProposal
  | handleConsensusMsg (consensusMsg : ConsensusMessage)
  | handleProposalUpdate (update : ProposalUpdate)
  deriving DecidableEq

/-- One handler call of the loop, at a reading of the clock. -/
def handle (codecs : Codecs) (now : Instant) (input : Input) (engine : TwoPhaseEngine) : Handler :=
  match input with
  | .abortProposalIfTimedOut => abortProposalIfTimedOut codecs now engine
  | .handleBackloggedVerificationRequest => handleBackloggedVerificationRequest engine
  | .getNextProposal => getNextProposal codecs now engine
  | .handleConsensusMsg consensusMsg => handleConsensusMsg codecs consensusMsg engine
  | .handleProposalUpdate update => handleProposalUpdate codecs now update engine

end TwoPhaseEngine

end Splinter.TwoPhase
