import Splinter.Admin.Consensus

/-!
# Messages and commands of the admin service

`AdminService::handle_message` and the other ways the outside changes an admin
service: submitted payloads and changes of a peer's authorisation.
-/

namespace Splinter.Admin

open Library
open Service (ErrorText ServiceError ServiceMessageContext)
open Consensus
open Protos (CircuitManagementPayload)

namespace AdminService

variable (formats : Formats) (around : Surroundings)

/-- The channels to the engine, which exist once the service is started. -/
def requireConsensus : EStateM ServiceError AdminService Unit := do
  let service ← get
  if service.consensus = none then
    throw .notStarted

/-- `AdminConsensusManager::handle_message`. -/
def handleConsensusMessage (context : ServiceMessageContext)
    (messageBytes : Bytes) : EStateM ServiceError AdminService Unit := do
  match formats.consensus.consensusMessage.parse messageBytes with
  | .error error =>
    throw (.unableToHandleMessage ("admin consensus manager failed: " ++ error.description))
  | .ok consensusMessage =>
    modify fun service =>
      { service with consensus := service.consensus.map (·.sendMessage context consensusMessage) }

def receivedProposal (proposed : Protos.ProposedCircuit) (hash : String) : Proposal :=
  { Proposal.default with
    id := ⟨asBytes hash⟩
    summary := proposed.expectedHash
    consensusData := proposed.requiredVerifiers }

def handleProposedCircuit (context : ServiceMessageContext) (proposed : Protos.ProposedCircuit) :
    EStateM ServiceError AdminService Unit := do
  let payload := proposed.getCircuitPayload
  let hash ← fromExcept
    ((hashPayload formats payload).mapError fun error =>
      .unableToHandleMessage error.display)
  let proposal := receivedProposal proposed hash
  addPendingConsensusProposal proposal.id (proposal, payload)
  requireConsensus
  sendUpdate (.proposalReceived proposal ⟨asBytes context.sender⟩)

def handleMessage (context : ServiceMessageContext) (messageBytes : Bytes) :
    EStateM ServiceError AdminService Unit := do
  match formats.protos.adminMessage.parse messageBytes with
  | .error error => throw (.invalidMessageFormat error.description)
  | .ok adminMessage =>
    match adminMessage.messageType with
    | .consensusMessage =>
      requireConsensus
      handleConsensusMessage formats context adminMessage.consensusMessage
    | .proposedCircuit => handleProposedCircuit formats context adminMessage.getProposedCircuit
    | .memberReady =>
      onShared
        (fun error : AdminSharedError =>
          ServiceError.unableToHandleMessage error.display)
        (AdminServiceShared.addReadyMember around adminMessage.getMemberReady.circuitId
          adminMessage.getMemberReady.memberNodeId)
    | .unset => throw (.invalidMessageFormat "received message with unset type")

/-- `AdminCommands::submit_circuit_change`. -/
def submitCircuitChange (payload : CircuitManagementPayload) :
    EStateM ServiceError AdminService Unit :=
  onShared (fun error => error) (AdminServiceShared.submit formats around payload)

inductive Operation where
  | handleMessage (around : Surroundings) (context : ServiceMessageContext) (messageBytes : Bytes)
  | submitCircuitChange (around : Surroundings) (payload : CircuitManagementPayload)
  | onAuthorizationChange (peerId : String) (state : AdminServiceShared.PeerAuthorizationState)

def operate (operation : Operation) (service : AdminService) : AdminService :=
  match operation with
  | .handleMessage around context messageBytes =>
    finalState (handleMessage formats around context messageBytes) service
  | .submitCircuitChange around payload =>
    finalState (submitCircuitChange formats around payload) service
  | .onAuthorizationChange peerId state =>
    { service with shared := service.shared.onAuthorizationChange peerId state }

end AdminService

end Splinter.Admin
