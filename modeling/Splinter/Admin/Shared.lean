import Splinter.Admin.OpenProposals
import Splinter.Hex
import Splinter.TwoPhase.Messages

/-!
# The shared state of the admin service

A method may fail after it has changed something; the change then stays.  What a
method learns from the outside during a call is a `Surroundings`; serialisations
and hashes are the same in every call and are collected in `Formats`.
-/

namespace Splinter.Admin

open Library
open Service (ErrorText ServiceDefinition ServiceSendError)
open Circuits (TextMap SplinterState CircuitDirectory)
open Consensus (Proposal ProposalId)
open Protos (CircuitManagementPayload CircuitProposal)

/-- The serialisations, and the sha256 digest of the crypto library. -/
structure Formats where
  protos : Protos.Codecs
  consensus : Consensus.Codecs
  twoPhase : TwoPhase.Codecs
  digest : Bytes → Except ErrorText Bytes

structure Sha256Error where
  source : ErrorText
  deriving DecidableEq

def Sha256Error.display (error : Sha256Error) : ErrorText :=
  "unable to get sha256 hash: " ++ error.source

def sha256 (formats : Formats) (message : Bytes) : Except Sha256Error String :=
  match formats.digest message with
  | .ok digest => .ok (toHex digest)
  | .error error => .error ⟨error⟩

def adminServiceId (nodeId : String) : String :=
  "admin::" ++ nodeId

/-- The errors of the shared state, and the panic of an index. -/
inductive AdminSharedError where
  | hashError (source : Sha256Error)
  | invalidMessageFormat (source : MarshallingError)
  | noPendingChanges
  | serviceInitializationFailed (source : ErrorText)
  | serviceSendError (source : ServiceSendError)
  | unknownAction (reason : String)
  | validationFailed (reason : String)
  | commitError (reason : String)
  | updateProposalsError (source : OpenProposalError)
  | indexOutOfBounds
  deriving DecidableEq

def AdminSharedError.display : AdminSharedError → ErrorText
  | .hashError source => "received error while hashing: " ++ source.display
  | .invalidMessageFormat source => "invalid message format: " ++ source.display
  | .noPendingChanges => "tried to commit without pending changes"
  | .serviceInitializationFailed source => "failed to initialize service: " ++ source
  | .serviceSendError source => "failed to send service message: " ++ source.display
  | .unknownAction reason => "received message with unknown action: " ++ reason
  | .validationFailed reason => "validation failed: " ++ reason
  | .commitError reason => "unable to commit circuit: " ++ reason
  | .updateProposalsError source => "received error while update open proposal: " ++ source.display
  | .indexOutOfBounds => "index out of bounds"

def actionName : CircuitManagementPayload.Action → String
  | .actionUnset => "ACTION_UNSET"
  | .circuitProposalVote => "CIRCUIT_PROPOSAL_VOTE"
  | .circuitCreateRequest => "CIRCUIT_CREATE_REQUEST"
  | .circuitUpdateRosterRequest => "CIRCUIT_UPDATE_ROSTER_REQUEST"
  | .circuitUpdateAddNode => "CIRCUIT_UPDATE_ADD_NODE"
  | .circuitUpdateRemoveNode => "CIRCUIT_UPDATE_REMOVE_NODE"
  | .circuitUpdateApplicationMetadataRequest => "CIRCUIT_UPDATE_APPLICATION_METADATA_REQUEST"
  | .circuitJoinRequest => "CIRCUIT_JOIN_REQUEST"
  | .circuitDestroyRequest => "CIRCUIT_DESTROY_REQUEST"
  | .circuitAbandon => "CIRCUIT_ABANDON"

inductive CircuitProposalStatus where
  | accepted
  | rejected
  | pending
  deriving DecidableEq

structure CircuitProposalContext where
  circuitProposal : CircuitProposal
  action : CircuitManagementPayload.Action
  signerPublicKey : Bytes
  deriving DecidableEq

structure UninitializedCircuit where
  circuit : Option CircuitProposal
  readyMembers : Finset String
  deriving DecidableEq

structure KeyInfo where
  publicKey : Bytes
  associatedNodeId : String
  deriving DecidableEq

/-- What the components around the admin service answer during one call. -/
structure Surroundings where
  verify : Bytes → Bytes → Bytes → Except ErrorText Bool
  getKey : Bytes → Except ErrorText (Option KeyInfo)
  isPermitted : Bytes → String → Except ErrorText Bool
  send : String → Bytes → Except ServiceSendError Unit
  isAuthorized : String → Bool
  connectPeer : String → String → Except ErrorText Unit
  supportedServiceTypes : List String
  initializeService : ServiceDefinition → TextMap String → Except ErrorText Unit
  storesEvent : Messages.AdminServiceEvent → Bool

/-- The shared state.  `initializedServices` are the calls the orchestrator has
answered with `Ok`, `sentEvents` are the events the mailbox has stored, each
with the circuit management type it was sent for, and `sentMessages` are the
messages the network sender has taken. -/
structure AdminServiceShared where
  nodeId : String
  openProposals : OpenProposals
  uninitializedCircuits : TextMap UninitializedCircuit
  runningServices : Finset ServiceDefinition
  initializedServices : List (ServiceDefinition × TextMap String)
  networkSender : Bool
  unpeeredPayloads : List (List String × CircuitManagementPayload)
  pendingCircuitPayloads : List CircuitManagementPayload
  pendingConsensusProposals : Finmap fun _ : ProposalId => Proposal × CircuitManagementPayload
  pendingChanges : Option CircuitProposalContext
  currentConsensusVerifiers : List String
  splinterState : SplinterState
  sentEvents : List (String × Messages.AdminServiceEvent)
  sentMessages : List (String × Bytes)
  deriving DecidableEq

abbrev Method (Result : Type) := EStateM AdminSharedError AdminServiceShared Result

namespace AdminServiceShared

def new (nodeId : String) (openProposals : OpenProposals)
    (splinterState : SplinterState) : AdminServiceShared where
  nodeId := nodeId
  openProposals := openProposals
  uninitializedCircuits := ∅
  runningServices := ∅
  initializedServices := []
  networkSender := false
  unpeeredPayloads := []
  pendingCircuitPayloads := []
  pendingConsensusProposals := ∅
  pendingChanges := none
  currentConsensusVerifiers := []
  splinterState := splinterState
  sentEvents := []
  sentMessages := []

/-! ## Parts of the state -/

def onOpenProposals {Result : Type} (program : EStateM OpenProposalError OpenProposals Result) :
    Method Result :=
  zoom openProposals (fun shared openProposals => { shared with openProposals := openProposals })
    (mapError .updateProposalsError program)

def onSplinterState (change : SplinterState → SplinterState) : Method Unit :=
  modify fun shared => { shared with splinterState := change shared.splinterState }

def sendEvent (around : Surroundings) (circuitManagementType : String)
    (event : Messages.AdminServiceEvent) : Method Unit :=
  modify fun shared =>
    if around.storesEvent event then
      { shared with sentEvents := shared.sentEvents ++ [(circuitManagementType, event)] }
    else
      shared

def send (around : Surroundings) (recipient : String) (message : Bytes) : Method Unit :=
  match around.send recipient message with
  | .ok () =>
    modify fun shared =>
      { shared with sentMessages := shared.sentMessages ++ [(recipient, message)] }
  | .error error => throw (.serviceSendError error)

def addProposal (circuitProposal : CircuitProposal) : Method (Option CircuitProposal) :=
  onOpenProposals (OpenProposals.addProposal circuitProposal)

def removeProposal (circuitId : String) : Method (Option CircuitProposal) :=
  onOpenProposals (OpenProposals.removeProposal circuitId)

def getProposal (shared : AdminServiceShared) (circuitId : String) :
    Except AdminSharedError (Option CircuitProposal) :=
  (shared.openProposals.getProposal circuitId).mapError .updateProposalsError

def hasProposal (shared : AdminServiceShared) (circuitId : String) : Bool :=
  shared.openProposals.hasProposal circuitId

/-! ## Services -/

/-- The services of a circuit that this node runs and the orchestrator can
start. -/
def localServices (around : Surroundings) (shared : AdminServiceShared)
    (circuit : Protos.Circuit) : List Protos.SplinterService :=
  circuit.roster.filter fun service =>
    service.allowedNodes.contains shared.nodeId &&
      around.supportedServiceTypes.contains service.serviceType

/-- What the orchestrator is given to initialise a service. -/
def serviceCall (circuit : Protos.Circuit) (service : Protos.SplinterService) :
    ServiceDefinition × TextMap String :=
  ({ circuit := circuit.circuitId
     serviceId := service.serviceId
     serviceType := service.serviceType },
    Circuits.collect (service.arguments.map fun argument => (argument.key, argument.value)))

def initializeService (around : Surroundings) (call : ServiceDefinition × TextMap String) :
    Method Unit := do
  fromExcept ((around.initializeService call.1 call.2).mapError .serviceInitializationFailed)
  modify fun shared =>
    { shared with
      runningServices := insert call.1 shared.runningServices
      initializedServices := shared.initializedServices ++ [call] }

def initializeServices (around : Surroundings) (circuit : Protos.Circuit) :
    Method Unit := do
  let shared ← get
  forM ((shared.localServices around circuit).map (serviceCall circuit)) (initializeService around)

def readyProposal (shared : AdminServiceShared) (circuitId : String) : Option CircuitProposal :=
  match shared.uninitializedCircuits.lookup circuitId with
  | some ⟨some circuitProposal, readyMembers⟩ =>
    if (circuitProposal.getCircuitProposal.members.map
      Protos.SplinterNode.nodeId).toFinset ⊆ readyMembers then
      some circuitProposal
    else
      none
  | _ => none

def initializeServicesIfMembersReady (around : Surroundings)
    (circuitId : String) : Method Unit := do
  let shared ← get
  match shared.readyProposal circuitId with
  | none => pure ()
  | some circuitProposal =>
    modify fun shared =>
      { shared with uninitializedCircuits := shared.uninitializedCircuits.erase circuitId }
    initializeServices around circuitProposal.getCircuitProposal
    let proposal ← fromExcept
      ((Messages.CircuitProposal.fromProto circuitProposal).mapError .invalidMessageFormat)
    sendEvent around circuitProposal.getCircuitProposal.circuitManagementType
      (.circuitReady proposal)

/-- Change the entry of an uninitialised circuit, which is created first if
there is none. -/
def updateUninitialized (circuitId : String)
    (change : UninitializedCircuit → UninitializedCircuit) : Method Unit :=
  modify fun shared =>
    { shared with
      uninitializedCircuits := shared.uninitializedCircuits.insert circuitId
        (change ((shared.uninitializedCircuits.lookup circuitId).getD ⟨none, ∅⟩)) }

def addUninitializedCircuit (around : Surroundings) (circuit : CircuitProposal) : Method Unit := do
  let shared ← get
  updateUninitialized circuit.circuitId fun uninitialized =>
    { circuit := some circuit
      readyMembers := insert shared.nodeId uninitialized.readyMembers }
  initializeServicesIfMembersReady around circuit.circuitId

def addReadyMember (around : Surroundings) (circuitId memberNodeId : String) :
    Method Unit := do
  updateUninitialized circuitId fun uninitialized =>
    { uninitialized with readyMembers := insert memberNodeId uninitialized.readyMembers }
  initializeServicesIfMembersReady around circuitId

/-! ## The splinter state -/

def stateAuthorization : Protos.Circuit.AuthorizationType →
    Except AdminSharedError Circuits.AuthorizationType
  | .trustAuthorization => .ok .trust
  | .unsetAuthorizationType => .error (.commitError "Missing authorization type on circuit commit")

def statePersistence : Protos.Circuit.PersistenceType →
    Except AdminSharedError Circuits.PersistenceType
  | .anyPersistence => .ok .any
  | .unsetPersistenceType => .error (.commitError "Missing persistence type on circuit commit")

def stateDurability : Protos.Circuit.DurabilityType →
    Except AdminSharedError Circuits.DurabilityType
  | .noDurability => .ok .noDurability
  | .unsetDurabilityType => .error (.commitError "Missing durabilty type on circuit commit")

def stateRoutes : Protos.Circuit.RouteType → Except AdminSharedError Circuits.RouteType
  | .anyRoute => .ok .any
  | .unsetRouteType => .error (.commitError "Missing route type on circuit commit")

def stateNode (node : Protos.SplinterNode) : Circuits.SplinterNode where
  id := node.nodeId
  endpoints := [node.endpoint]

def stateService (service : Protos.SplinterService) : Circuits.ServiceDefinition where
  serviceId := service.serviceId
  serviceType := service.serviceType
  allowedNodes := service.allowedNodes
  arguments := Circuits.collect
    (service.arguments.map fun argument => (argument.key, argument.value))

/-- The circuit that is added to the splinter state. -/
def stateCircuit (circuit : Protos.Circuit) :
    Except AdminSharedError Circuits.Circuit := do
  let auth ← stateAuthorization circuit.authorizationType
  let persistence ← statePersistence circuit.persistence
  let durability ← stateDurability circuit.durability
  let routes ← stateRoutes circuit.routes
  let builder : Circuits.CircuitBuilder :=
    { id := some circuit.circuitId
      auth := some auth
      members := circuit.members.map fun node => (stateNode node).id
      roster := circuit.roster.map stateService
      persistence := some persistence
      durability := some durability
      routes := some routes
      circuitManagementType := some circuit.circuitManagementType }
  builder.build.mapError fun error =>
    .commitError ("Unable build new circuit: " ++ error.display)

/-- Enter a service that another node runs into the service directory. -/
def addRemoteService (circuitId : String) (service : Circuits.ServiceDefinition) : Method Unit := do
  let shared ← get
  if service.allowedNodes.contains shared.nodeId then
    pure ()
  else
    match service.allowedNodes with
    | [] => throw .indexOutOfBounds
    | allowedNode :: _ =>
      match shared.splinterState.node allowedNode with
      | some member =>
        set
          { shared with
            splinterState := shared.splinterState.addService ⟨circuitId, service.serviceId⟩
              ⟨service.serviceId, none, member⟩ }
      | none =>
        throw
          (.commitError
            ("Unable to find allowed node " ++ allowedNode ++
              " when adding service " ++ service.serviceId ++
              " to directory"))

def updateSplinterState (circuit : Protos.Circuit) : Method Unit := do
  let newCircuit ← fromExcept (stateCircuit circuit)
  forM (circuit.members.map stateNode) fun member =>
    onSplinterState fun state => state.addNode member.id member
  onSplinterState fun state => state.addCircuit newCircuit.id newCircuit
  forM (circuit.roster.map stateService) (addRemoteService circuit.circuitId)

/-! ## Deciding the pending change -/

def checkApproved (proposal : CircuitProposal) : CircuitProposalStatus :=
  let receivedVotes := (proposal.votes.map CircuitProposal.VoteRecord.voterNodeId).toFinset
  let requiredVotes :=
    (proposal.getCircuitProposal.members.map
      Protos.SplinterNode.nodeId).toFinset.erase proposal.requesterNodeId
  if proposal.votes.any fun vote => vote.vote = .reject then
    .rejected
  else if requiredVotes = receivedVotes then
    .accepted
  else
    .pending

def reported (circuitProposal : CircuitProposal) : Method Messages.CircuitProposal := fromExcept
    ((Messages.CircuitProposal.fromProto circuitProposal).mapError .invalidMessageFormat)

def memberReadyMessage (circuitId nodeId : String) : Protos.AdminMessage :=
  { Protos.AdminMessage.new with
    messageType := .memberReady
    memberReady := some { circuitId := circuitId, memberNodeId := nodeId } }

def sendMemberReady (formats : Formats) (around : Surroundings)
    (circuit : Protos.Circuit) : Method Unit := do
  let shared ← get
  if shared.networkSender then
    let envelope := formats.protos.adminMessage.write
      (memberReadyMessage circuit.circuitId shared.nodeId)
    forM circuit.members fun member =>
      if member.nodeId ≠ shared.nodeId then
        send around (adminServiceId member.nodeId) envelope
      else
        pure ()

/-- Decide a change that has been taken out of the pending changes. -/
def commitChange (formats : Formats) (around : Surroundings)
    (context : CircuitProposalContext) : Method Unit := do
  let circuitProposal := context.circuitProposal
  let circuit := circuitProposal.getCircuitProposal
  match checkApproved circuitProposal with
  | .accepted =>
    updateSplinterState circuit
    let _ ← removeProposal circuitProposal.circuitId
    let proposal ← reported circuitProposal
    sendEvent around circuit.circuitManagementType
      (.proposalAccepted proposal context.signerPublicKey)
    sendMemberReady formats around circuit
    addUninitializedCircuit around circuitProposal
  | .pending =>
    let _ ← addProposal circuitProposal
    match context.action with
    | .circuitCreateRequest =>
      let proposal ← reported circuitProposal
      sendEvent around circuit.circuitManagementType (.proposalSubmitted proposal)
    | .circuitProposalVote =>
      let proposal ← reported circuitProposal
      sendEvent around circuit.circuitManagementType
        (.proposalVote proposal context.signerPublicKey)
    | action => throw (.unknownAction ("Received unknown action: " ++ actionName action))
  | .rejected =>
    let _ ← removeProposal circuitProposal.circuitId
    let proposal ← reported circuitProposal
    sendEvent around circuit.circuitManagementType
      (.proposalRejected proposal context.signerPublicKey)

def commit (formats : Formats) (around : Surroundings) : Method Unit := do
  let shared ← get
  set { shared with pendingChanges := none }
  match shared.pendingChanges with
  | some context => commitChange formats around context
  | none => throw .noPendingChanges

def rollback : Method Unit := modify fun shared => { shared with pendingChanges := none }

end AdminServiceShared

end Splinter.Admin
