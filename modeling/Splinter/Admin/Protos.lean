import Splinter.Consensus.Wire

/-!
# Messages of `admin.proto`

The messages as the generated code has them: an enumeration has its unset value as
a constructor, and the getter of an unset message field returns the message with
all fields unset.  Requests that the service never reads are left out.
-/

namespace Splinter.Admin.Protos

open Library Library.Protobuf
open Consensus (ProtobufError malformed)

structure SplinterNode where
  nodeId : String
  endpoint : String
  deriving DecidableEq

structure SplinterService.Argument where
  key : String
  value : String
  deriving DecidableEq

structure SplinterService where
  serviceId : String
  serviceType : String
  allowedNodes : List String
  arguments : List SplinterService.Argument
  deriving DecidableEq

inductive Circuit.AuthorizationType where
  | unsetAuthorizationType
  | trustAuthorization
  deriving DecidableEq

inductive Circuit.PersistenceType where
  | unsetPersistenceType
  | anyPersistence
  deriving DecidableEq

inductive Circuit.DurabilityType where
  | unsetDurabilityType
  | noDurability
  deriving DecidableEq

inductive Circuit.RouteType where
  | unsetRouteType
  | anyRoute
  deriving DecidableEq

structure Circuit where
  circuitId : String
  roster : List SplinterService
  members : List SplinterNode
  authorizationType : Circuit.AuthorizationType
  persistence : Circuit.PersistenceType
  durability : Circuit.DurabilityType
  routes : Circuit.RouteType
  circuitManagementType : String
  applicationMetadata : Bytes
  deriving DecidableEq

/-- `Circuit::new()`: every field unset. -/
def Circuit.new : Circuit where
  circuitId := ""
  roster := []
  members := []
  authorizationType := .unsetAuthorizationType
  persistence := .unsetPersistenceType
  durability := .unsetDurabilityType
  routes := .unsetRouteType
  circuitManagementType := ""
  applicationMetadata := []

inductive CircuitProposalVote.Vote where
  | unsetVote
  | accept
  | reject
  deriving DecidableEq

structure CircuitProposalVote where
  circuitId : String
  circuitHash : String
  vote : CircuitProposalVote.Vote
  deriving DecidableEq

def CircuitProposalVote.new : CircuitProposalVote where
  circuitId := ""
  circuitHash := ""
  vote := .unsetVote

inductive CircuitProposal.ProposalType where
  | unsetProposalType
  | create
  | updateRoster
  | addNode
  | removeNode
  | destroy
  deriving DecidableEq

structure CircuitProposal.VoteRecord where
  publicKey : Bytes
  vote : CircuitProposalVote.Vote
  voterNodeId : String
  deriving DecidableEq

structure CircuitProposal where
  proposalType : CircuitProposal.ProposalType
  circuitId : String
  circuitHash : String
  circuitProposal : Option Circuit
  votes : List CircuitProposal.VoteRecord
  requester : Bytes
  requesterNodeId : String
  deriving DecidableEq

def CircuitProposal.getCircuitProposal (proposal : CircuitProposal) : Circuit :=
  proposal.circuitProposal.getD .new

structure CircuitCreateRequest where
  circuit : Option Circuit
  deriving DecidableEq

def CircuitCreateRequest.new : CircuitCreateRequest where
  circuit := none

def CircuitCreateRequest.getCircuit (request : CircuitCreateRequest) : Circuit :=
  request.circuit.getD .new

inductive CircuitManagementPayload.Action where
  | actionUnset
  | circuitProposalVote
  | circuitCreateRequest
  | circuitUpdateRosterRequest
  | circuitUpdateAddNode
  | circuitUpdateRemoveNode
  | circuitUpdateApplicationMetadataRequest
  | circuitJoinRequest
  | circuitDestroyRequest
  | circuitAbandon
  deriving DecidableEq

structure CircuitManagementPayload.Header where
  action : CircuitManagementPayload.Action
  requester : Bytes
  payloadSha512 : Bytes
  requesterNodeId : String
  deriving DecidableEq

structure CircuitManagementPayload where
  header : Bytes
  signature : Bytes
  circuitProposalVote : Option CircuitProposalVote
  circuitCreateRequest : Option CircuitCreateRequest
  deriving DecidableEq

namespace CircuitManagementPayload

def new : CircuitManagementPayload where
  header := []
  signature := []
  circuitProposalVote := none
  circuitCreateRequest := none

def getCircuitProposalVote (payload : CircuitManagementPayload) : Protos.CircuitProposalVote :=
  payload.circuitProposalVote.getD .new

def getCircuitCreateRequest (payload : CircuitManagementPayload) : Protos.CircuitCreateRequest :=
  payload.circuitCreateRequest.getD .new

end CircuitManagementPayload

structure ProposedCircuit where
  circuitPayload : Option CircuitManagementPayload
  expectedHash : Bytes
  requiredVerifiers : Bytes
  deriving DecidableEq

def ProposedCircuit.new : ProposedCircuit where
  circuitPayload := none
  expectedHash := []
  requiredVerifiers := []

def ProposedCircuit.getCircuitPayload (proposed : ProposedCircuit) : CircuitManagementPayload :=
  proposed.circuitPayload.getD .new

structure MemberReady where
  circuitId : String
  memberNodeId : String
  deriving DecidableEq

def MemberReady.new : MemberReady where
  circuitId := ""
  memberNodeId := ""

inductive AdminMessage.MessageType where
  | unset
  | consensusMessage
  | proposedCircuit
  | memberReady
  deriving DecidableEq

structure AdminMessage where
  messageType : AdminMessage.MessageType
  consensusMessage : Bytes
  proposedCircuit : Option ProposedCircuit
  memberReady : Option MemberReady
  deriving DecidableEq

namespace AdminMessage

def new : AdminMessage where
  messageType := .unset
  consensusMessage := []
  proposedCircuit := none
  memberReady := none

def getProposedCircuit (message : AdminMessage) : Protos.ProposedCircuit :=
  message.proposedCircuit.getD .new

def getMemberReady (message : AdminMessage) : Protos.MemberReady := message.memberReady.getD .new

end AdminMessage

/-- The protobuf serialisations of the messages that are hashed, sent or
received. -/
structure Codecs where
  circuit : Codec ProtobufError Circuit
  circuitProposal : Codec ProtobufError CircuitProposal
  circuitProposalVote : Codec ProtobufError CircuitProposalVote
  circuitCreateRequest : Codec ProtobufError CircuitCreateRequest
  header : Codec ProtobufError CircuitManagementPayload.Header
  circuitManagementPayload : Codec ProtobufError CircuitManagementPayload
  adminMessage : Codec ProtobufError AdminMessage

/-! ## The serialisations -/

namespace Circuit

def AuthorizationType.value : AuthorizationType → Nat
  | .unsetAuthorizationType => 0
  | .trustAuthorization => 1

def AuthorizationType.ofValue : Nat → AuthorizationType
  | 1 => .trustAuthorization
  | _ => .unsetAuthorizationType

def PersistenceType.value : PersistenceType → Nat
  | .unsetPersistenceType => 0
  | .anyPersistence => 1

def PersistenceType.ofValue : Nat → PersistenceType
  | 1 => .anyPersistence
  | _ => .unsetPersistenceType

def DurabilityType.value : DurabilityType → Nat
  | .unsetDurabilityType => 0
  | .noDurability => 1

def DurabilityType.ofValue : Nat → DurabilityType
  | 1 => .noDurability
  | _ => .unsetDurabilityType

def RouteType.value : RouteType → Nat
  | .unsetRouteType => 0
  | .anyRoute => 1

def RouteType.ofValue : Nat → RouteType
  | 1 => .anyRoute
  | _ => .unsetRouteType

end Circuit

def CircuitProposalVote.Vote.value : CircuitProposalVote.Vote → Nat
  | .unsetVote => 0
  | .accept => 1
  | .reject => 2

def CircuitProposalVote.Vote.ofValue : Nat → CircuitProposalVote.Vote
  | 1 => .accept
  | 2 => .reject
  | _ => .unsetVote

def CircuitProposal.ProposalType.value : CircuitProposal.ProposalType → Nat
  | .unsetProposalType => 0
  | .create => 1
  | .updateRoster => 2
  | .addNode => 3
  | .removeNode => 4
  | .destroy => 5

def CircuitProposal.ProposalType.ofValue : Nat → CircuitProposal.ProposalType
  | 1 => .create
  | 2 => .updateRoster
  | 3 => .addNode
  | 4 => .removeNode
  | 5 => .destroy
  | _ => .unsetProposalType

namespace CircuitManagementPayload

def Action.value : Action → Nat
  | .actionUnset => 0
  | .circuitProposalVote => 1
  | .circuitCreateRequest => 2
  | .circuitUpdateRosterRequest => 3
  | .circuitUpdateAddNode => 4
  | .circuitUpdateRemoveNode => 5
  | .circuitUpdateApplicationMetadataRequest => 6
  | .circuitJoinRequest => 7
  | .circuitDestroyRequest => 8
  | .circuitAbandon => 9

def Action.ofValue : Nat → Action
  | 1 => .circuitProposalVote
  | 2 => .circuitCreateRequest
  | 3 => .circuitUpdateRosterRequest
  | 4 => .circuitUpdateAddNode
  | 5 => .circuitUpdateRemoveNode
  | 6 => .circuitUpdateApplicationMetadataRequest
  | 7 => .circuitJoinRequest
  | 8 => .circuitDestroyRequest
  | 9 => .circuitAbandon
  | _ => .actionUnset

end CircuitManagementPayload

def AdminMessage.MessageType.value : AdminMessage.MessageType → Nat
  | .unset => 0
  | .consensusMessage => 1
  | .proposedCircuit => 2
  | .memberReady => 3

def AdminMessage.MessageType.ofValue : Nat → AdminMessage.MessageType
  | 1 => .consensusMessage
  | 2 => .proposedCircuit
  | 3 => .memberReady
  | _ => .unset

def SplinterNode.codec : Codec ProtobufError SplinterNode :=
  (((Schema.string 1).and (Schema.string 2) (by decide)).record (fun fields => ⟨fields.1, fields.2⟩)
    (fun node => (node.nodeId, node.endpoint))
    fun _ => rfl).codec malformed

def SplinterService.Argument.codec : Codec ProtobufError SplinterService.Argument :=
  (((Schema.string 1).and (Schema.string 2) (by decide)).record (fun fields => ⟨fields.1, fields.2⟩)
    (fun argument => (argument.key, argument.value))
    fun _ => rfl).codec malformed

def SplinterService.codec : Codec ProtobufError SplinterService :=
  (((Schema.string 1).and
    ((Schema.string 2).and
      ((Schema.strings 3).and (Schema.messages 4 SplinterService.Argument.codec) (by decide))
      (by decide))
    (by decide)).record
    (fun fields => ⟨fields.1, fields.2.1, fields.2.2.1, fields.2.2.2⟩)
    (fun service =>
      (service.serviceId, service.serviceType, service.allowedNodes, service.arguments))
    fun _ => rfl).codec malformed

def Circuit.codec : Codec ProtobufError Circuit :=
  (((Schema.string 1).and
    ((Schema.messages 2 SplinterService.codec).and
      ((Schema.messages 3 SplinterNode.codec).and
        ((Schema.enumeration 4 AuthorizationType.value .ofValue
          (by intro value; cases value <;> rfl)).and
          ((Schema.enumeration 5 PersistenceType.value .ofValue
            (by intro value; cases value <;> rfl)).and
            ((Schema.enumeration 6 DurabilityType.value .ofValue
              (by intro value; cases value <;> rfl)).and
              ((Schema.enumeration 7 RouteType.value .ofValue
                (by intro value; cases value <;> rfl)).and
                ((Schema.string 8).and (Schema.bytes 9) (by decide))
                (by decide))
              (by decide))
            (by decide))
          (by decide))
        (by decide))
      (by decide))
    (by decide)).record
    (fun fields =>
      ⟨fields.1, fields.2.1, fields.2.2.1, fields.2.2.2.1, fields.2.2.2.2.1,
        fields.2.2.2.2.2.1, fields.2.2.2.2.2.2.1, fields.2.2.2.2.2.2.2.1,
        fields.2.2.2.2.2.2.2.2⟩)
    (fun circuit =>
      (circuit.circuitId, circuit.roster, circuit.members,
        circuit.authorizationType, circuit.persistence, circuit.durability,
        circuit.routes, circuit.circuitManagementType,
        circuit.applicationMetadata))
    fun _ => rfl).codec malformed

def CircuitProposalVote.codec : Codec ProtobufError CircuitProposalVote :=
  (((Schema.string 1).and
    ((Schema.string 2).and
      (Schema.enumeration 3 Vote.value .ofValue (by intro value; cases value <;> rfl))
      (by decide))
    (by decide)).record
    (fun fields => ⟨fields.1, fields.2.1, fields.2.2⟩)
    (fun vote => (vote.circuitId, vote.circuitHash, vote.vote))
    fun _ => rfl).codec malformed

def CircuitProposal.VoteRecord.codec : Codec ProtobufError CircuitProposal.VoteRecord :=
  (((Schema.bytes 1).and
    ((Schema.enumeration 2 CircuitProposalVote.Vote.value .ofValue
      (by intro value; cases value <;> rfl)).and
      (Schema.string 3)
      (by decide))
    (by decide)).record
    (fun fields => ⟨fields.1, fields.2.1, fields.2.2⟩)
    (fun voteRecord =>
      (voteRecord.publicKey, voteRecord.vote, voteRecord.voterNodeId))
    fun _ => rfl).codec malformed

def CircuitProposal.codec : Codec ProtobufError CircuitProposal :=
  (((Schema.enumeration 1 ProposalType.value .ofValue (by intro value; cases value <;> rfl)).and
    ((Schema.string 2).and
      ((Schema.string 3).and
        ((Schema.message 4 Circuit.codec).and
          ((Schema.messages 5 VoteRecord.codec).and
            ((Schema.bytes 6).and (Schema.string 7) (by decide))
            (by decide))
          (by decide))
        (by decide))
      (by decide))
    (by decide)).record
    (fun fields =>
      ⟨fields.1, fields.2.1, fields.2.2.1, fields.2.2.2.1, fields.2.2.2.2.1,
        fields.2.2.2.2.2.1, fields.2.2.2.2.2.2⟩)
    (fun proposal =>
      (proposal.proposalType, proposal.circuitId, proposal.circuitHash,
        proposal.circuitProposal, proposal.votes, proposal.requester,
        proposal.requesterNodeId))
    fun _ => rfl).codec malformed

def CircuitCreateRequest.codec : Codec ProtobufError CircuitCreateRequest :=
  ((Schema.message 1 Circuit.codec).record CircuitCreateRequest.mk
    CircuitCreateRequest.circuit fun _ => rfl).codec malformed

def CircuitManagementPayload.Header.codec : Codec ProtobufError CircuitManagementPayload.Header :=
  (((Schema.enumeration 1 Action.value .ofValue (by intro value; cases value <;> rfl)).and
    ((Schema.bytes 2).and ((Schema.bytes 3).and (Schema.string 4) (by decide)) (by decide))
    (by decide)).record
    (fun fields => ⟨fields.1, fields.2.1, fields.2.2.1, fields.2.2.2⟩)
    (fun header =>
      (header.action, header.requester, header.payloadSha512, header.requesterNodeId))
    fun _ => rfl).codec malformed

def CircuitManagementPayload.codec : Codec ProtobufError CircuitManagementPayload :=
  (((Schema.bytes 1).and
    ((Schema.bytes 2).and
      ((Schema.message 3 CircuitProposalVote.codec).and
        (Schema.message 4 CircuitCreateRequest.codec)
        (by decide))
      (by decide))
    (by decide)).record
    (fun fields => ⟨fields.1, fields.2.1, fields.2.2.1, fields.2.2.2⟩)
    (fun payload =>
      (payload.header, payload.signature, payload.circuitProposalVote,
        payload.circuitCreateRequest))
    fun _ => rfl).codec malformed

def ProposedCircuit.codec : Codec ProtobufError ProposedCircuit :=
  (((Schema.message 1 CircuitManagementPayload.codec).and
    ((Schema.bytes 2).and (Schema.bytes 3) (by decide))
    (by decide)).record
    (fun fields => ⟨fields.1, fields.2.1, fields.2.2⟩)
    (fun proposed =>
      (proposed.circuitPayload, proposed.expectedHash, proposed.requiredVerifiers))
    fun _ => rfl).codec malformed

def MemberReady.codec : Codec ProtobufError MemberReady :=
  (((Schema.string 1).and (Schema.string 2) (by decide)).record (fun fields => ⟨fields.1, fields.2⟩)
    (fun ready => (ready.circuitId, ready.memberNodeId))
    fun _ => rfl).codec malformed

def AdminMessage.codec : Codec ProtobufError AdminMessage :=
  (((Schema.enumeration 1 MessageType.value .ofValue (by intro value; cases value <;> rfl)).and
    ((Schema.bytes 2).and
      ((Schema.message 3 ProposedCircuit.codec).and (Schema.message 4 MemberReady.codec)
        (by decide))
      (by decide))
    (by decide)).record
    (fun fields => ⟨fields.1, fields.2.1, fields.2.2.1, fields.2.2.2⟩)
    (fun message =>
      (message.messageType, message.consensusMessage, message.proposedCircuit, message.memberReady))
    fun _ => rfl).codec malformed

def Codecs.protobuf : Codecs where
  circuit := Circuit.codec
  circuitProposal := CircuitProposal.codec
  circuitProposalVote := CircuitProposalVote.codec
  circuitCreateRequest := CircuitCreateRequest.codec
  header := CircuitManagementPayload.Header.codec
  circuitManagementPayload := CircuitManagementPayload.codec
  adminMessage := AdminMessage.codec

end Splinter.Admin.Protos
