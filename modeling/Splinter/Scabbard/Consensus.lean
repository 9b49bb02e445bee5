import Splinter.Consensus.Wire
import Splinter.Scabbard.State
import Splinter.Service.Channels

/-!
# A scabbard service and consensus

`ScabbardShared`, and `ScabbardProposalManager` and
`ScabbardConsensusNetworkSender`: what a scabbard service answers when its
two-phase engine calls it.
-/

namespace Splinter.ScabbardService

open Library
open Library.Protobuf (Schema)
open Service (Channels ErrorText ServiceError ServiceMessageContext answer)
open Consensus

inductive ScabbardMessage.MessageType where
  | unset
  | consensusMessage
  | proposedBatch
  deriving DecidableEq

structure ProposedBatch where
  proposal : Bytes
  batch : Bytes
  serviceId : String
  deriving DecidableEq

def ProposedBatch.new : ProposedBatch where
  proposal := []
  batch := []
  serviceId := ""

structure ScabbardMessage where
  messageType : ScabbardMessage.MessageType
  consensusMessage : Bytes
  proposedBatch : Option ProposedBatch
  deriving DecidableEq

namespace ScabbardMessage

def new : ScabbardMessage where
  messageType := .unset
  consensusMessage := []
  proposedBatch := none

def getProposedBatch (message : ScabbardMessage) : ScabbardService.ProposedBatch :=
  message.proposedBatch.getD .new

def MessageType.value : MessageType → Nat
  | .unset => 0
  | .consensusMessage => 1
  | .proposedBatch => 2

def MessageType.ofValue : Nat → MessageType
  | 1 => .consensusMessage
  | 2 => .proposedBatch
  | _ => .unset

end ScabbardMessage

def ProposedBatch.codec : Codec ProtobufError ProposedBatch :=
  (((Schema.bytes 1).and ((Schema.bytes 2).and (Schema.string 3) (by decide)) (by decide)).record
    (fun fields => ⟨fields.1, fields.2.1, fields.2.2⟩)
    (fun proposed => (proposed.proposal, proposed.batch, proposed.serviceId))
    fun _ => rfl).codec malformed

def ScabbardMessage.codec : Codec ProtobufError ScabbardMessage :=
  (((Schema.enumeration 1 MessageType.value .ofValue (by intro value; cases value <;> rfl)).and
    ((Schema.bytes 2).and (Schema.message 3 ProposedBatch.codec) (by decide))
    (by decide)).record
    (fun fields => ⟨fields.1, fields.2.1, fields.2.2⟩)
    (fun message =>
      (message.messageType, message.consensusMessage, message.proposedBatch))
    fun _ => rfl).codec malformed

/-- The serialisations, and what the transaction library reads and writes. -/
structure Formats where
  scabbardMessage : Codec ProtobufError ScabbardMessage
  consensus : Consensus.Codecs
  readBatch : Bytes → Except ErrorText BatchPair
  writeBatch : BatchPair → Bytes
  transactionHeader : Bytes → Except ErrorText TransactionHeader
  sha512 : Bytes → Except ErrorText Bytes
  machine : Machine

structure ScabbardShared where
  batchQueue : List BatchPair
  networkSender : Bool
  peerServices : List String
  proposedBatches : Finmap fun _ : ProposalId => BatchPair
  state : ScabbardState
  sentMessages : List (String × Bytes)
  deriving DecidableEq

abbrev ScabbardConsensusManager := Channels

structure Scabbard where
  circuitId : String
  serviceId : String
  shared : ScabbardShared
  consensus : Option ScabbardConsensusManager
  deriving DecidableEq

namespace Scabbard

def new (serviceId circuitId : String) (peerServices : List String)
    (stateRoot : String) : Scabbard where
  circuitId := circuitId
  serviceId := serviceId
  shared := {
    batchQueue := []
    networkSender := false
    peerServices := peerServices
    proposedBatches := ∅
    state := .new stateRoot
    sentMessages := [] }
  consensus := none

/-- The service after it has been connected and its engine been started. -/
def start (service : Scabbard) : Scabbard :=
  { service with
    shared := { service.shared with networkSender := true }
    consensus := some ⟨[], []⟩ }

def onState {Failure Result : Type} (change : ScabbardStateError → Failure)
    (program : EStateM ScabbardStateError ScabbardState Result) :
    EStateM Failure Scabbard Result :=
  zoom (fun service => service.shared.state)
    (fun service state =>
      { service with shared := { service.shared with state := state } })
    (mapError change program)

def sendUpdate {Failure : Type} (update : ProposalUpdate) : EStateM Failure Scabbard Unit :=
  modify fun service =>
    { service with consensus := service.consensus.map (·.sendUpdate update) }

def addProposedBatch {Failure : Type} (proposalId : ProposalId)
    (batch : BatchPair) : EStateM Failure Scabbard Unit :=
  modify fun service =>
    { service with
      shared := { service.shared with
        proposedBatches := service.shared.proposedBatches.insert proposalId batch } }

def getProposedBatch (service : Scabbard) (proposalId : ProposalId) : Option BatchPair :=
  service.shared.proposedBatches.lookup proposalId

def removeProposedBatch (proposalId : ProposalId) :
    EStateM ProposalManagerError Scabbard Unit := do
  let service ← get
  match service.getProposedBatch proposalId with
  | none => throw (.unknownProposal proposalId)
  | some _ =>
    set
      { service with
        shared := { service.shared with
          proposedBatches := service.shared.proposedBatches.erase proposalId } }

variable (formats : Formats) (around : Surroundings)

def send {Failure : Type} (change : ErrorText → Failure) (recipient : String)
    (message : Bytes) : EStateM Failure Scabbard Unit :=
  match around.send recipient message with
  | .error error => throw (change error.display)
  | .ok () =>
    modify fun service =>
      { service with
        shared := { service.shared with
          sentMessages := service.shared.sentMessages ++ [(recipient, message)] } }

/-- The proposal consensus is asked to decide for a batch. -/
def consensusProposal (expectedHash : String) : Proposal :=
  { Proposal.default with
    id := ⟨asBytes expectedHash⟩
    summary := asBytes expectedHash }

/-- The envelope that tells the other services about a batch. -/
def proposedBatchMessage (service : Scabbard) (proposal : Proposal)
    (batch : BatchPair) : ScabbardMessage :=
  { ScabbardMessage.new with
    messageType := .proposedBatch
    proposedBatch := some {
      proposal := formats.consensus.proposal.write proposal
      batch := formats.writeBatch batch
      serviceId := service.serviceId } }

/-- Propose a batch that has been taken from the queue. -/
def createFrom (batch : BatchPair) :
    EStateM ProposalManagerError Scabbard Unit := do
  let expectedHash ← onState (fun error => ProposalManagerError.internal error.display)
    (ScabbardState.prepareChange formats.machine around batch)
  let proposal := consensusProposal expectedHash
  addProposedBatch proposal.id batch
  let service ← get
  if service.shared.networkSender = false then
    throw .notReady
  forM service.shared.peerServices fun peer =>
    send around ProposalManagerError.internal peer
      (formats.scabbardMessage.write (service.proposedBatchMessage formats proposal batch))
  sendUpdate (.proposalCreated (some proposal))

def createProposal : EStateM ProposalManagerError Scabbard Unit := do
  let service ← get
  match service.shared.batchQueue with
  | batch :: rest =>
    set { service with shared := { service.shared with batchQueue := rest } }
    createFrom formats around batch
  | [] => sendUpdate (.proposalCreated none)

def checkProposal (id : ProposalId) :
    EStateM ProposalManagerError Scabbard Unit := do
  let service ← get
  match service.getProposedBatch id with
  | none => throw (.unknownProposal id)
  | some batch =>
    let hash ← onState (fun error => ProposalManagerError.internal error.display)
      (ScabbardState.prepareChange formats.machine around batch)
    if asBytes hash ≠ id.bytes then
      sendUpdate (.proposalInvalid id)
    else
      sendUpdate (.proposalValid id)

def acceptProposal (id : ProposalId) :
    EStateM ProposalManagerError Scabbard Unit := do
  removeProposedBatch id
  onState (fun error => ProposalManagerError.internal error.display) (ScabbardState.commit around)
  sendUpdate (.proposalAccepted id)

def rejectProposal (id : ProposalId) :
    EStateM ProposalManagerError Scabbard Unit := do
  removeProposedBatch id
  onState (fun error => ProposalManagerError.internal error.display) ScabbardState.rollback

def consensusEnvelope (service : Scabbard) (message : Bytes) : Bytes :=
  formats.scabbardMessage.write
    { ScabbardMessage.new with
      messageType := .consensusMessage
      consensusMessage := formats.consensus.consensusMessage.write
        ⟨message, ⟨asBytes service.serviceId⟩⟩ }

def sendTo (peerId : PeerId) (message : Bytes) :
    EStateM ConsensusSendError Scabbard Unit := do
  let service ← get
  match fromUtf8 peerId.bytes with
  | none => throw (.internal "invalid utf-8 sequence")
  | some recipient =>
    if recipient ∉ service.shared.peerServices then
      throw (.unknownPeer peerId)
    if service.shared.networkSender = false then
      throw .notReady
    send around ConsensusSendError.internal recipient (service.consensusEnvelope formats message)

def broadcast (message : Bytes) :
    EStateM ConsensusSendError Scabbard Unit := do
  let service ← get
  if service.shared.networkSender = false then
    throw .notReady
  forM service.shared.peerServices fun peer =>
    send around ConsensusSendError.internal peer (service.consensusEnvelope formats message)

def respond (call : Call) (service : Scabbard) : Answer × Scabbard :=
  match call with
  | .createProposal _ _ => answer .proposalManager (createProposal formats around) service
  | .checkProposal id => answer .proposalManager (checkProposal formats around id) service
  | .acceptProposal id _ => answer .proposalManager (acceptProposal around id) service
  | .rejectProposal id => answer .proposalManager (rejectProposal id) service
  | .sendTo peerId message => answer .send (sendTo formats around peerId message) service
  | .broadcast message => answer .send (broadcast formats around message) service

end Scabbard

end Splinter.ScabbardService
