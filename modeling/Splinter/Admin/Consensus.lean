import Splinter.Admin.Proposing
import Splinter.Service.Channels

/-!
# The admin service and consensus

`AdminProposalManager` and `AdminConsensusNetworkSender`: what the admin
service answers when its two-phase engine calls it.  The channels to the engine
are open as long as it runs, so sending on them does not fail.
-/

namespace Splinter.Admin

open Library Consensus
open Service (Channels ErrorText ServiceError ServiceMessageContext answer)
open Protos (CircuitManagementPayload CircuitProposal)

abbrev AdminConsensusManager := Channels

structure AdminService where
  serviceId : String
  shared : AdminServiceShared
  consensus : Option AdminConsensusManager
  deriving DecidableEq

namespace AdminService

def new (nodeId : String) (openProposals : OpenProposals)
    (splinterState : Circuits.SplinterState) : AdminService where
  serviceId := adminServiceId nodeId
  shared := .new nodeId openProposals splinterState
  consensus := none

/-- The service after it has been connected and its engine been started. -/
def start (service : AdminService) : AdminService :=
  { service with
    shared := { service.shared with networkSender := true }
    consensus := some ⟨[], []⟩ }

def onShared {Failure Other Result : Type} (change : Failure → Other)
    (program : EStateM Failure AdminServiceShared Result) :
    EStateM Other AdminService Result :=
  zoom shared (fun service shared => { service with shared := shared }) (mapError change program)

def sendUpdate {Failure : Type} (update : ProposalUpdate) : EStateM Failure AdminService Unit :=
  modify fun service =>
    { service with consensus := service.consensus.map (·.sendUpdate update) }

/-- Why a method of the proposal manager does not return normally. -/
inductive Interruption where
  | error (error : ProposalManagerError)
  | panicked
  deriving DecidableEq

variable (formats : Formats) (around : Surroundings)

def addPendingConsensusProposal {Failure : Type} (id : ProposalId)
    (proposal : Proposal × CircuitManagementPayload) :
    EStateM Failure AdminService Unit :=
  modify fun service =>
    { service with
      shared := { service.shared with
        pendingConsensusProposals := service.shared.pendingConsensusProposals.insert id proposal } }

/-- The envelope that tells the other members about a proposal. -/
def proposedCircuitMessage (payload : CircuitManagementPayload)
    (proposal : Proposal) : Protos.AdminMessage :=
  { Protos.AdminMessage.new with
    messageType := .proposedCircuit
    proposedCircuit := some {
      circuitPayload := some payload
      expectedHash := proposal.summary
      requiredVerifiers := proposal.consensusData } }

/-- The proposal consensus is asked to decide for a payload. -/
def consensusProposal (hash expectedHash : String) (circuit : Protos.Circuit) : Proposal :=
  { Proposal.default with
    id := ⟨asBytes hash⟩
    summary := asBytes expectedHash
    consensusData := formats.twoPhase.requiredVerifiers.write
      ⟨(memberVerifiers circuit).map asBytes⟩ }

/-- Send to every other member; the source unwraps the result. -/
def sendToMembers (circuit : Protos.Circuit) (envelope : Bytes) :
    EStateM Interruption AdminService Unit := do
  let service ← get
  forM circuit.members fun member =>
    if member.nodeId ≠ service.shared.nodeId then
      onShared (fun _ => Interruption.panicked)
        (AdminServiceShared.send around (adminServiceId member.nodeId) envelope)
    else
      pure ()

/-- Propose a payload that has been taken from the queue. -/
def createFrom (payload : CircuitManagementPayload) :
    EStateM Interruption AdminService Unit := do
  let proposed ← onShared
    (fun error : AdminSharedError =>
      Interruption.error (.internal error.display))
    (AdminServiceShared.proposeChange formats around payload)
  let circuit := proposed.2.getCircuitProposal
  let hash ← fromExcept
    ((hashPayload formats payload).mapError fun error =>
      Interruption.error (.internal error.display))
  let proposal := consensusProposal formats hash proposed.1 circuit
  addPendingConsensusProposal proposal.id (proposal, payload)
  sendToMembers around circuit
    (formats.protos.adminMessage.write (proposedCircuitMessage payload proposal))
  sendUpdate (.proposalCreated (some proposal))

def createProposal : EStateM Interruption AdminService Unit := do
  let service ← get
  if service.shared.networkSender = false then
    throw (.error (.internal ServiceError.notStarted.display))
  match service.shared.pendingCircuitPayloads with
  | payload :: rest =>
    set { service with shared := { service.shared with pendingCircuitPayloads := rest } }
    createFrom formats around payload
  | [] => sendUpdate (.proposalCreated none)

def pendingConsensusProposal (id : ProposalId) (service : AdminService) :
    Option (Proposal × CircuitManagementPayload) :=
  service.shared.pendingConsensusProposals.lookup id

def removePendingConsensusProposal {Failure : Type} (id : ProposalId) :
    EStateM Failure AdminService Unit :=
  modify fun service =>
    { service with
      shared := { service.shared with
        pendingConsensusProposals := service.shared.pendingConsensusProposals.erase id } }

def checkProposal (id : ProposalId) :
    EStateM ProposalManagerError AdminService Unit := do
  let service ← get
  match service.pendingConsensusProposal id with
  | none => throw (.unknownProposal id)
  | some (proposal, payload) =>
    let proposed ← onShared
      (fun error : AdminSharedError =>
        ProposalManagerError.internal error.display)
      (AdminServiceShared.proposeChange formats around payload)
    if asBytes proposed.1 ≠ proposal.summary then
      sendUpdate (.proposalInvalid id)
    else
      sendUpdate (.proposalValid id)

/-- A commit that fails is reported to consensus and not returned. -/
def acceptProposal (id : ProposalId) :
    EStateM ProposalManagerError AdminService Unit := do
  let service ← get
  match service.pendingConsensusProposal id with
  | some (proposal, _) =>
    if proposal.id = id then
      match (AdminServiceShared.commit formats around).run service.shared with
      | .ok _ shared =>
        set { service with shared := shared }
        removePendingConsensusProposal id
      | .error error shared =>
        set { service with shared := shared }
        sendUpdate (.proposalAcceptFailed id ("failed to commit proposal: " ++ error.display))
    else
      sendUpdate (.proposalAcceptFailed id "not pending proposal")
  | none => sendUpdate (.proposalAcceptFailed id "not pending proposal")

def rejectProposal (id : ProposalId) :
    EStateM ProposalManagerError AdminService Unit := do
  let service ← get
  match service.pendingConsensusProposal id with
  | none => throw (.unknownProposal id)
  | some _ =>
    removePendingConsensusProposal id
    onShared
      (fun error : AdminSharedError =>
        ProposalManagerError.internal error.display)
      AdminServiceShared.rollback

def consensusEnvelope (service : AdminService) (message : Bytes) : Bytes :=
  formats.protos.adminMessage.write
    { Protos.AdminMessage.new with
      messageType := .consensusMessage
      consensusMessage := formats.consensus.consensusMessage.write
        ⟨message, ⟨asBytes service.serviceId⟩⟩ }

def sendConsensus (recipient : String) (envelope : Bytes) :
    EStateM ConsensusSendError AdminService Unit := do
  match around.send recipient envelope with
  | .error error => throw (.internal error.display)
  | .ok () =>
    modify fun service =>
      { service with
        shared := { service.shared with
          sentMessages := service.shared.sentMessages ++ [(recipient, envelope)] } }

def sendTo (peerId : PeerId) (message : Bytes) :
    EStateM ConsensusSendError AdminService Unit := do
  let service ← get
  match fromUtf8 peerId.bytes with
  | none => throw (.internal "invalid utf-8 sequence")
  | some recipient =>
    if service.shared.networkSender = false then
      throw .notReady
    sendConsensus around recipient (service.consensusEnvelope formats message)

def broadcast (message : Bytes) :
    EStateM ConsensusSendError AdminService Unit := do
  let service ← get
  if service.shared.networkSender = false then
    throw .notReady
  forM service.shared.currentConsensusVerifiers fun verifier =>
    if verifier ≠ adminServiceId service.shared.nodeId then
      sendConsensus around verifier (service.consensusEnvelope formats message)
    else
      pure ()

/-- What the service answers to a call of its engine.  There is no answer when
`create_proposal` panics, which ends the thread of the engine. -/
def respond (call : Call) (service : AdminService) : Option (Answer × AdminService) :=
  match call with
  | .createProposal _ _ =>
    match (createProposal formats around).run service with
    | .ok _ after => some (.ok (), after)
    | .error (.error error) after => some (.error (.proposalManager error), after)
    | .error .panicked _ => none
  | .checkProposal id => some (answer .proposalManager (checkProposal formats around id) service)
  | .acceptProposal id _ =>
    some (answer .proposalManager (acceptProposal formats around id) service)
  | .rejectProposal id => some (answer .proposalManager (rejectProposal id) service)
  | .sendTo peerId message => some (answer .send (sendTo formats around peerId message) service)
  | .broadcast message => some (answer .send (broadcast formats around message) service)

end AdminService

end Splinter.Admin
