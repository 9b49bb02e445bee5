import Splinter.Admin.Shared
import Splinter.Library.Sha2
import Splinter.TwoPhase.Wire

/-!
# Proposing changes

The methods of the shared state that take a circuit management payload:
`propose_change`, which computes the pending change after all checks, and
`submit`, which queues a payload for consensus.
-/

namespace Splinter.Admin

open Library
open Service (ServiceError)
open Protos (CircuitManagementPayload CircuitProposal)

def require (condition : Prop) [Decidable condition] (reason : String) :
    Except AdminSharedError Unit :=
  if condition then .ok () else .error (.validationFailed reason)

@[simp]
theorem require_eq_ok_iff (condition : Prop) [Decidable condition]
    (reason : String) (outcome : Unit) :
    require condition reason = .ok outcome ↔ condition := by
  unfold require
  split <;> simp_all

def voterRole : String := "voter"

def proposerRole : String := "proposer"

/-! ## Validation -/

/-- The loop over the members of a circuit; it returns their node ids. -/
def validateMembers : List Protos.SplinterNode → List String → List String →
    Except AdminSharedError (List String)
  | [], members, _ => .ok members
  | member :: rest, members, endpoints => do
    require (member.nodeId ≠ "") "Member node id cannot be empty"
    require (member.nodeId ∉ members)
      "Every member must be unique in the circuit."
    require (member.endpoint ≠ "") "Member endpoint cannot be empty"
    require (member.endpoint ∉ endpoints)
      "Every member endpoint must be unique in the circuit."
    validateMembers rest (members ++ [member.nodeId]) (endpoints ++ [member.endpoint])

def validateAllowedNodes (members : List String) : List String → Except AdminSharedError Unit
  | [] => .ok ()
  | node :: rest => do
    require (node ∈ members)
      ("Service cannot have an allowed node that is not in members: " ++ node)
    validateAllowedNodes members rest

def validateServices (members : List String) :
    List Protos.SplinterService → List String → Except AdminSharedError Unit
  | [], _ => .ok ()
  | service :: rest, services => do
    require (service.allowedNodes ≠ [])
      "Service cannot have an empty allowed nodes list"
    require (service.allowedNodes.length ≤ 1)
      "Only one allowed node for a service is supported"
    validateAllowedNodes members service.allowedNodes
    require (service.serviceId ≠ "") "Service id cannot be empty"
    require (service.serviceId ∉ services)
      "Every service must be unique in the circuit."
    validateServices members rest (services ++ [service.serviceId])

def validateCircuit (nodeId : String) (circuit : Protos.Circuit) :
    Except AdminSharedError Unit := do
  require (circuit.authorizationType ≠ .unsetAuthorizationType)
    "authorization_type cannot be unset"
  require (circuit.persistence ≠ .unsetPersistenceType)
    "persistence_type cannot be unset"
  require (circuit.durability ≠ .unsetDurabilityType)
    "durability_type cannot be unset"
  require (circuit.routes ≠ .unsetRouteType) "route_type cannot be unset"
  require (circuit.circuitId ≠ "") "circuit_id must be set"
  require (circuit.circuitManagementType ≠ "")
    "circuit_management_type must be set"
  let members ← validateMembers circuit.members [] []
  require (members ≠ []) "The circuit must have members"
  require (nodeId ∈ members) ("Circuit does not contain this node: " ++ nodeId)
  require (circuit.roster ≠ []) "The circuit must have services"
  validateServices members circuit.roster []
  require (circuit.circuitManagementType ≠ "")
    "The circuit must have a mangement type"

/-- The information about a key, which must be registered. -/
def registeredKey (around : Surroundings) (signerPublicKey : Bytes) :
    Except AdminSharedError KeyInfo :=
  match around.getKey signerPublicKey with
  | .error error => .error (.validationFailed error)
  | .ok none =>
    .error (.validationFailed (toHex signerPublicKey ++ " is not registered for a node"))
  | .ok (some keyInfo) => .ok keyInfo

/-- Ask whether a key has a role.  Only an error of the permission manager is
looked at. -/
def checkPermission (around : Surroundings) (signerPublicKey : Bytes)
    (role node : String) : Except AdminSharedError Bool :=
  (around.isPermitted signerPublicKey role).mapError fun _ =>
    .validationFailed (toHex signerPublicKey ++ " is not permitted to vote for node " ++ node)

def validateCircuitManagementPayload (payload : CircuitManagementPayload)
    (header : CircuitManagementPayload.Header) :
    Except AdminSharedError Unit := do
  require (payload.signature ≠ [])
    "CircuitManagementPayload signature must be set"
  require (payload.header ≠ []) "CircuitManagementPayload header must be set"
  require (header.requester ≠ [])
    "CircuitManagementPayload must have a requester"
  require (header.requesterNodeId ≠ "")
    "CircuitManagementPayload must have a requester node id"

def parseHeader (formats : Formats) (payload : CircuitManagementPayload) :
    Except MarshallingError CircuitManagementPayload.Header :=
  (formats.protos.header.parse payload.header).mapError .protobufError

def verifySignature (formats : Formats) (around : Surroundings)
    (payload : CircuitManagementPayload) : Except ServiceError Bool :=
  match formats.protos.header.parse payload.header with
  | .error error => .error (.invalidMessageFormat error.description)
  | .ok header =>
    (around.verify payload.header payload.signature header.requester).mapError
      .unableToHandleMessage

def hashCircuit (formats : Formats) (circuit : Protos.Circuit) : Except Sha256Error String :=
  sha256 formats (formats.protos.circuit.write circuit)

def hashCircuitProposal (formats : Formats) (proposal : CircuitProposal) :
    Except Sha256Error String :=
  sha256 formats (formats.protos.circuitProposal.write proposal)

def hashPayload (formats : Formats) (payload : CircuitManagementPayload) :
    Except Sha256Error String :=
  sha256 formats (formats.protos.circuitManagementPayload.write payload)

def memberVerifiers (circuit : Protos.Circuit) : List String :=
  circuit.members.map fun member => adminServiceId member.nodeId

structure Change where
  expectedHash : String
  context : CircuitProposalContext
  verifiers : List String
  deriving DecidableEq

namespace AdminServiceShared

variable (formats : Formats) (around : Surroundings) (shared : AdminServiceShared)

def validateCreateCircuit (circuit : Protos.Circuit) (signerPublicKey : Bytes)
    (requesterNodeId : String) : Except AdminSharedError Unit := do
  require (requesterNodeId ≠ "") "requester_node_id is empty"
  let keyInfo ← registeredKey around signerPublicKey
  require (keyInfo.associatedNodeId = requesterNodeId)
    (toHex signerPublicKey ++ " is not registered for the node in header")
  let _ ← checkPermission around signerPublicKey proposerRole
    keyInfo.associatedNodeId
  require (shared.hasProposal circuit.circuitId = false)
    ("Ignoring duplicate create proposal of circuit " ++ circuit.circuitId)
  require (shared.splinterState.hasCircuit circuit.circuitId = false)
    ("Circuit with circuit id " ++ circuit.circuitId ++ " already exists")
  validateCircuit shared.nodeId circuit

def validateCircuitVote (proposalVote : Protos.CircuitProposalVote)
    (signerPublicKey : Bytes) (circuitProposal : CircuitProposal)
    (nodeId : String) : Except AdminSharedError Unit := do
  let keyInfo ← registeredKey around signerPublicKey
  let signerNode := keyInfo.associatedNodeId
  require (signerNode = nodeId)
    ("Payload requester node id does not match the node the key is " ++
      "registered to: " ++ toHex circuitProposal.requester)
  require (circuitProposal.requesterNodeId ≠ signerNode)
    ("Received vote from requester node: " ++ toHex circuitProposal.requester)
  require (signerNode ∉ circuitProposal.votes.map CircuitProposal.VoteRecord.voterNodeId)
    ("Received duplicate vote from " ++ signerNode ++ " for " ++ proposalVote.circuitId)
  let _ ← checkPermission around signerPublicKey voterRole signerNode
  require (circuitProposal.circuitHash = proposalVote.circuitHash)
    ("Hash of circuit does not match circuit proposal: " ++ proposalVote.circuitId)

def votedProposal (circuitId : String) : Except AdminSharedError CircuitProposal :=
  match shared.getProposal circuitId with
  | .error error =>
    .error (.validationFailed ("error occured when trying to get proposal " ++ error.display))
  | .ok none =>
    .error
      (.validationFailed
        ("Received vote for a proposal that does not exist: circuit id " ++ circuitId))
  | .ok (some circuitProposal) => .ok circuitProposal

def createdProposal (circuit : Protos.Circuit) (circuitHash : String)
    (header : CircuitManagementPayload.Header) : CircuitProposal where
  proposalType := .create
  circuitId := circuit.circuitId
  circuitHash := circuitHash
  circuitProposal := some circuit
  votes := []
  requester := header.requester
  requesterNodeId := header.requesterNodeId

def castVote (proposalVote : Protos.CircuitProposalVote)
    (header : CircuitManagementPayload.Header) : CircuitProposal.VoteRecord where
  publicKey := header.requester
  vote := proposalVote.vote
  voterNodeId := header.requesterNodeId

def createdChange (payload : CircuitManagementPayload) (header : CircuitManagementPayload.Header) :
    Except AdminSharedError Change := do
  let proposedCircuit := payload.getCircuitCreateRequest.getCircuit
  shared.validateCreateCircuit around proposedCircuit header.requester header.requesterNodeId
  let circuitHash ← (hashCircuit formats proposedCircuit).mapError .hashError
  let circuitProposal := createdProposal proposedCircuit circuitHash header
  let expectedHash ← (hashCircuitProposal formats circuitProposal).mapError .hashError
  return {
    expectedHash := expectedHash
    context := {
      circuitProposal := circuitProposal
      action := .circuitCreateRequest
      signerPublicKey := header.requester }
    verifiers := memberVerifiers proposedCircuit }

def votedChange (payload : CircuitManagementPayload) (header : CircuitManagementPayload.Header) :
    Except AdminSharedError Change := do
  let proposalVote := payload.getCircuitProposalVote
  let openProposal ← shared.votedProposal proposalVote.circuitId
  validateCircuitVote around proposalVote header.requester openProposal header.requesterNodeId
  let circuitProposal : CircuitProposal :=
    { openProposal with votes := openProposal.votes ++ [castVote proposalVote header] }
  let expectedHash ← (hashCircuitProposal formats circuitProposal).mapError .hashError
  return {
    expectedHash := expectedHash
    context := {
      circuitProposal := circuitProposal
      action := .circuitProposalVote
      signerPublicKey := header.requester }
    verifiers := memberVerifiers openProposal.getCircuitProposal }

/-- The change a payload asks for, or why it is refused. -/
def proposedChange (payload : CircuitManagementPayload) :
    Except AdminSharedError Change := do
  let header ← (parseHeader formats payload).mapError .invalidMessageFormat
  validateCircuitManagementPayload payload header
  let _ ← (verifySignature formats around payload).mapError fun _ =>
    .validationFailed "Unable to verify signature"
  match header.action with
  | .circuitCreateRequest => shared.createdChange formats around payload header
  | .circuitProposalVote => shared.votedChange formats around payload header
  | .actionUnset => .error (.validationFailed "Action must be set")
  | unknownAction => .error (.validationFailed ("Unable to handle " ++ actionName unknownAction))

/-- The source changes the state in its last statements only. -/
def proposeChange (payload : CircuitManagementPayload) :
    Method (String × CircuitProposal) := do
  let shared ← get
  let change ← fromExcept (shared.proposedChange formats around payload)
  set
    { shared with
      pendingChanges := some change.context
      currentConsensusVerifiers := change.verifiers }
  return (change.expectedHash, change.context.circuitProposal)

/-! ## Submission -/

/-- The members that have to be authorised first; they are connected to. -/
def unauthorizedPeers (nodeId : String) :
    List Protos.SplinterNode → Except ServiceError (List String)
  | [] => .ok []
  | node :: rest =>
    if nodeId = node.nodeId ∨ around.isAuthorized node.nodeId = true then
      unauthorizedPeers nodeId rest
    else do
      (around.connectPeer node.nodeId node.endpoint).mapError .unableToHandleMessage
      let peers ← unauthorizedPeers nodeId rest
      return node.nodeId :: peers

def proposeCircuit (payload : CircuitManagementPayload) :
    EStateM ServiceError AdminServiceShared Unit := do
  let shared ← get
  let peers ← fromExcept
    (unauthorizedPeers around shared.nodeId payload.getCircuitCreateRequest.getCircuit.members)
  if peers = [] then
    set { shared with pendingCircuitPayloads := shared.pendingCircuitPayloads ++ [payload] }
  else
    set { shared with unpeeredPayloads := shared.unpeeredPayloads ++ [(peers, payload)] }

def proposeVote (payload : CircuitManagementPayload) :
    EStateM ServiceError AdminServiceShared Unit :=
  modify fun shared =>
    { shared with pendingCircuitPayloads := shared.pendingCircuitPayloads ++ [payload] }

/-- The checks of `submit`. -/
def submittedHeader (payload : CircuitManagementPayload) :
    Except ServiceError CircuitManagementPayload.Header := do
  let header ← (formats.protos.header.parse payload.header).mapError fun error =>
    .invalidMessageFormat error.description
  (validateCircuitManagementPayload payload header).mapError fun error =>
    .unableToHandleMessage error.display
  let _ ← verifySignature formats around payload
  return header

def submit (payload : CircuitManagementPayload) :
    EStateM ServiceError AdminServiceShared Unit := do
  let header ← fromExcept (submittedHeader formats around payload)
  match header.action with
  | .circuitCreateRequest => proposeCircuit around payload
  | .circuitProposalVote => proposeVote payload
  | .actionUnset =>
    throw (.unableToHandleMessage (AdminSharedError.validationFailed "No action specified").display)
  | unknownAction =>
    throw
      (.unableToHandleMessage
        (AdminSharedError.validationFailed
          ("Unable to handle " ++ actionName unknownAction)).display)

inductive PeerAuthorizationState where
  | authorized
  | unauthorized
  deriving DecidableEq

/-- The peers a payload still waits for after a change of authorisation. -/
def remainingPeers (peerId : String) (state : PeerAuthorizationState)
    (peers : List String) : List String :=
  match state with
  | .authorized => peers.filter (· ≠ peerId)
  | .unauthorized => if peerId ∈ peers then [] else peers

def onAuthorizationChange (peerId : String) (state : PeerAuthorizationState) : AdminServiceShared :=
  let unpeered := shared.unpeeredPayloads.map fun waiting =>
    (remainingPeers peerId state waiting.1, waiting.2)
  let fullyPeered := unpeered.filter fun waiting => waiting.1 = []
  { shared with
    unpeeredPayloads := unpeered.filter fun waiting => waiting.1 ≠ []
    pendingCircuitPayloads :=
      match state with
      | .authorized => shared.pendingCircuitPayloads ++ fullyPeered.map Prod.snd
      | .unauthorized => shared.pendingCircuitPayloads }

end AdminServiceShared

/-! ## Requests of clients -/

/-- The protobuf serialisations with the real digest. -/
def Formats.standard : Formats where
  protos := .protobuf
  consensus := .protobuf
  twoPhase := .protobuf
  digest message := .ok (Sha2.sha256.hash message)

/-- A request to create a circuit as a client makes and signs it: the header
has the hash of the request. -/
def createPayload (circuit : Protos.Circuit) (requester : Bytes)
    (requesterNodeId : String) (signature : Bytes) :
    CircuitManagementPayload :=
  let request : Protos.CircuitCreateRequest := { circuit := some circuit }
  { CircuitManagementPayload.new with
    header :=
      Protos.Codecs.protobuf.header.write {
        action := .circuitCreateRequest
        requester := requester
        payloadSha512 := Sha2.sha512.hash
          (Protos.Codecs.protobuf.circuitCreateRequest.write request)
        requesterNodeId := requesterNodeId }
    signature := signature
    circuitCreateRequest := some request }

def votePayload (vote : Protos.CircuitProposalVote) (requester : Bytes)
    (requesterNodeId : String) (signature : Bytes) :
    CircuitManagementPayload :=
  { CircuitManagementPayload.new with
    header :=
      Protos.Codecs.protobuf.header.write {
        action := .circuitProposalVote
        requester := requester
        payloadSha512 := Sha2.sha512.hash (Protos.Codecs.protobuf.circuitProposalVote.write vote)
        requesterNodeId := requesterNodeId }
    signature := signature
    circuitProposalVote := some vote }

def simpleCircuit (circuitId : String) (nodes : List String) : Protos.Circuit where
  circuitId := circuitId
  roster := nodes.map fun node =>
    { serviceId := node, serviceType := "scabbard", allowedNodes := [node],
      arguments := [] }
  members := nodes.map fun node => { nodeId := node, endpoint := "tcp://" ++ node }
  authorizationType := .trustAuthorization
  persistence := .anyPersistence
  durability := .noDurability
  routes := .anyRoute
  circuitManagementType := "gameroom"
  applicationMetadata := []

def Surroundings.working : Surroundings where
  verify _ _ _ := .ok true
  getKey key := .ok ((fromUtf8 key).map fun node => ⟨key, node⟩)
  isPermitted _ _ := .ok true
  send _ _ := .ok ()
  isAuthorized _ := true
  connectPeer _ _ := .ok ()
  supportedServiceTypes := ["scabbard"]
  initializeService _ _ := .ok ()
  storesEvent _ := true

end Splinter.Admin
