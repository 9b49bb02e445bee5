import Splinter.Admin.Protos
import Splinter.Library.Effect
import Splinter.Service.Types

/-!
# Messages of the admin service

The messages the admin service stores and reports, and their conversion from
and to the protobuf messages.  A conversion from protobuf fails on an unset
enumeration, and nothing is lost by a conversion that succeeds.
-/

namespace Splinter.Admin

open Library
open Consensus (ProtobufError)
open Service (ErrorText)

inductive MarshallingError where
  | unsetField (reason : String)
  | protobufError (source : ProtobufError)
  deriving DecidableEq

def MarshallingError.display : MarshallingError → ErrorText
  | .unsetField _ => "Invalid enumerated type"
  | .protobufError source => "Protobuf Error: " ++ source.description

namespace Messages

inductive AuthorizationType where
  | trust
  deriving DecidableEq

inductive PersistenceType where
  | any
  deriving DecidableEq

inductive DurabilityType where
  | noDurability
  deriving DecidableEq

inductive RouteType where
  | any
  deriving DecidableEq

structure SplinterNode where
  nodeId : String
  endpoint : String
  deriving DecidableEq

structure SplinterService where
  serviceId : String
  serviceType : String
  allowedNodes : List String
  arguments : List (String × String)
  deriving DecidableEq

structure CreateCircuit where
  circuitId : String
  roster : List SplinterService
  members : List SplinterNode
  authorizationType : AuthorizationType
  persistence : PersistenceType
  durability : DurabilityType
  routes : RouteType
  circuitManagementType : String
  applicationMetadata : Bytes
  deriving DecidableEq

inductive ProposalType where
  | create
  | updateRoster
  | addNode
  | removeNode
  | destroy
  deriving DecidableEq

inductive Vote where
  | accept
  | reject
  deriving DecidableEq

structure VoteRecord where
  publicKey : Bytes
  vote : Vote
  voterNodeId : String
  deriving DecidableEq

structure CircuitProposal where
  proposalType : ProposalType
  circuitId : String
  circuitHash : String
  circuit : CreateCircuit
  votes : List VoteRecord
  requester : Bytes
  requesterNodeId : String
  deriving DecidableEq

inductive AdminServiceEvent where
  | proposalSubmitted (proposal : CircuitProposal)
  | proposalVote (proposal : CircuitProposal) (signerPublicKey : Bytes)
  | proposalAccepted (proposal : CircuitProposal) (signerPublicKey : Bytes)
  | proposalRejected (proposal : CircuitProposal) (signerPublicKey : Bytes)
  | circuitReady (proposal : CircuitProposal)
  deriving DecidableEq

/-! ## Conversions -/

def SplinterNode.fromProto (proto : Protos.SplinterNode) : SplinterNode where
  nodeId := proto.nodeId
  endpoint := proto.endpoint

def SplinterNode.intoProto (node : SplinterNode) : Protos.SplinterNode where
  nodeId := node.nodeId
  endpoint := node.endpoint

def SplinterService.fromProto (proto : Protos.SplinterService) : SplinterService where
  serviceId := proto.serviceId
  serviceType := proto.serviceType
  allowedNodes := proto.allowedNodes
  arguments := proto.arguments.map fun argument => (argument.key, argument.value)

def SplinterService.intoProto (service : SplinterService) : Protos.SplinterService where
  serviceId := service.serviceId
  serviceType := service.serviceType
  allowedNodes := service.allowedNodes
  arguments := service.arguments.map fun argument => ⟨argument.1, argument.2⟩

def AuthorizationType.fromProto :
    Protos.Circuit.AuthorizationType → Except MarshallingError AuthorizationType
  | .trustAuthorization => .ok .trust
  | .unsetAuthorizationType => .error (.unsetField "Unset authorization type")

def AuthorizationType.intoProto : AuthorizationType → Protos.Circuit.AuthorizationType
  | .trust => .trustAuthorization

def PersistenceType.fromProto :
    Protos.Circuit.PersistenceType → Except MarshallingError PersistenceType
  | .anyPersistence => .ok .any
  | .unsetPersistenceType => .error (.unsetField "Unset persistence type")

def PersistenceType.intoProto : PersistenceType → Protos.Circuit.PersistenceType
  | .any => .anyPersistence

def DurabilityType.fromProto :
    Protos.Circuit.DurabilityType → Except MarshallingError DurabilityType
  | .noDurability => .ok .noDurability
  | .unsetDurabilityType => .error (.unsetField "Unset durability type")

def DurabilityType.intoProto : DurabilityType → Protos.Circuit.DurabilityType
  | .noDurability => .noDurability

def RouteType.fromProto : Protos.Circuit.RouteType → Except MarshallingError RouteType
  | .anyRoute => .ok .any
  | .unsetRouteType => .error (.unsetField "Unset route type")

def RouteType.intoProto : RouteType → Protos.Circuit.RouteType
  | .any => .anyRoute

def ProposalType.fromProto :
    Protos.CircuitProposal.ProposalType → Except MarshallingError ProposalType
  | .create => .ok .create
  | .updateRoster => .ok .updateRoster
  | .addNode => .ok .addNode
  | .removeNode => .ok .removeNode
  | .destroy => .ok .destroy
  | .unsetProposalType => .error (.unsetField "Unset proposal type")

def ProposalType.intoProto : ProposalType → Protos.CircuitProposal.ProposalType
  | .create => .create
  | .updateRoster => .updateRoster
  | .addNode => .addNode
  | .removeNode => .removeNode
  | .destroy => .destroy

def Vote.fromProto : Protos.CircuitProposalVote.Vote → Except MarshallingError Vote
  | .accept => .ok .accept
  | .reject => .ok .reject
  | .unsetVote => .error (.unsetField "Unset vote")

def Vote.intoProto : Vote → Protos.CircuitProposalVote.Vote
  | .accept => .accept
  | .reject => .reject

namespace CreateCircuit

def fromProto (proto : Protos.Circuit) :
    Except MarshallingError CreateCircuit := do
  let authorizationType ← AuthorizationType.fromProto proto.authorizationType
  let persistence ← PersistenceType.fromProto proto.persistence
  let durability ← DurabilityType.fromProto proto.durability
  let routes ← RouteType.fromProto proto.routes
  return {
    circuitId := proto.circuitId
    roster := proto.roster.map SplinterService.fromProto
    members := proto.members.map SplinterNode.fromProto
    authorizationType := authorizationType
    persistence := persistence
    durability := durability
    routes := routes
    circuitManagementType := proto.circuitManagementType
    applicationMetadata := proto.applicationMetadata }

def intoProto (circuit : CreateCircuit) : Except MarshallingError Protos.CircuitCreateRequest :=
  .ok {
    circuit := some {
      circuitId := circuit.circuitId
      roster := circuit.roster.map SplinterService.intoProto
      members := circuit.members.map SplinterNode.intoProto
      authorizationType := circuit.authorizationType.intoProto
      persistence := circuit.persistence.intoProto
      durability := circuit.durability.intoProto
      routes := circuit.routes.intoProto
      circuitManagementType := circuit.circuitManagementType
      applicationMetadata := circuit.applicationMetadata } }

end CreateCircuit

namespace VoteRecord

def fromProto (proto : Protos.CircuitProposal.VoteRecord) :
    Except MarshallingError VoteRecord := do
  let vote ← Vote.fromProto proto.vote
  return {
    publicKey := proto.publicKey
    vote := vote
    voterNodeId := proto.voterNodeId }

def intoProto (voteRecord : VoteRecord) : Protos.CircuitProposal.VoteRecord where
  publicKey := voteRecord.publicKey
  vote := voteRecord.vote.intoProto
  voterNodeId := voteRecord.voterNodeId

end VoteRecord

namespace CircuitProposal

def fromProto (proto : Protos.CircuitProposal) :
    Except MarshallingError CircuitProposal := do
  let proposalType ← ProposalType.fromProto proto.proposalType
  let votes ← proto.votes.mapM VoteRecord.fromProto
  let circuit ← CreateCircuit.fromProto proto.getCircuitProposal
  return {
    proposalType := proposalType
    circuitId := proto.circuitId
    circuitHash := proto.circuitHash
    circuit := circuit
    votes := votes
    requester := proto.requester
    requesterNodeId := proto.requesterNodeId }

def intoProto (proposal : CircuitProposal) :
    Except MarshallingError Protos.CircuitProposal := do
  let circuitRequest ← proposal.circuit.intoProto
  return {
    proposalType := proposal.proposalType.intoProto
    circuitId := proposal.circuitId
    circuitHash := proposal.circuitHash
    circuitProposal := circuitRequest.circuit
    votes := proposal.votes.map VoteRecord.intoProto
    requester := proposal.requester
    requesterNodeId := proposal.requesterNodeId }

end CircuitProposal

/-! ## What is converted, and that nothing is lost -/

structure Settled (proto : Protos.Circuit) : Prop where
  authorizationType : proto.authorizationType = .trustAuthorization
  persistence : proto.persistence = .anyPersistence
  durability : proto.durability = .noDurability
  routes : proto.routes = .anyRoute

theorem CreateCircuit.fromProto_isOk_iff (proto : Protos.Circuit) :
    (∃ circuit, fromProto proto = .ok circuit) ↔ Settled proto := by
  obtain ⟨circuitId, roster, members, auth, persistence, durability, routes,
    managementType, metadata⟩ := proto
  constructor
  · rintro ⟨circuit, converted⟩
    cases auth <;> cases persistence <;> cases durability <;> cases routes <;>
      first
        | exact ⟨rfl, rfl, rfl, rfl⟩
        | cases converted
  · rintro ⟨rfl, rfl, rfl, rfl⟩
    exact ⟨_, rfl⟩

variable {circuit : CreateCircuit}

theorem CreateCircuit.intoProto_of_fromProto {proto : Protos.Circuit}
    (converted : fromProto proto = .ok circuit) :
    circuit.intoProto = .ok ⟨some proto⟩ := by
  have settled := (fromProto_isOk_iff proto).mp ⟨circuit, converted⟩
  obtain ⟨circuitId, roster, members, auth, persistence, durability, routes,
    managementType, metadata⟩ := proto
  obtain ⟨rfl, rfl, rfl, rfl⟩ := settled
  cases converted
  simp [intoProto, SplinterService.fromProto, SplinterService.intoProto,
    SplinterNode.fromProto, SplinterNode.intoProto, Function.comp_def,
    AuthorizationType.intoProto, PersistenceType.intoProto,
    DurabilityType.intoProto, RouteType.intoProto]

theorem ProposalType.intoProto_of_fromProto
    {proto : Protos.CircuitProposal.ProposalType} {kind : ProposalType}
    (converted : fromProto proto = .ok kind) :
    kind.intoProto = proto := by
  cases proto <;> cases converted <;> rfl

theorem VoteRecord.intoProto_of_fromProto
    {proto : Protos.CircuitProposal.VoteRecord} {voteRecord : VoteRecord}
    (converted : fromProto proto = .ok voteRecord) :
    voteRecord.intoProto = proto := by
  obtain ⟨publicKey, vote, voterNodeId⟩ := proto
  cases vote <;> cases converted <;> rfl

theorem VoteRecord.map_intoProto_of_mapM_fromProto {protos : List Protos.CircuitProposal.VoteRecord}
    {voteRecords : List VoteRecord} (converted : protos.mapM fromProto = .ok voteRecords) :
    voteRecords.map intoProto = protos := by
  induction protos generalizing voteRecords with
  | nil =>
    cases converted
    rfl
  | cons proto protos ih =>
    rw [List.mapM_cons, bind_eq_ok_iff] at converted
    obtain ⟨first, firstConverted, continued⟩ := converted
    rw [bind_eq_ok_iff] at continued
    obtain ⟨rest, restConverted, same⟩ := continued
    cases same
    rw [List.map_cons, ih restConverted, intoProto_of_fromProto firstConverted]

/-! Conversions of what has been converted. -/

theorem SplinterService.fromProto_intoProto (service : SplinterService) :
    fromProto service.intoProto = service := by
  simp [fromProto, intoProto, Function.comp_def]

theorem SplinterNode.fromProto_intoProto (node : SplinterNode) : fromProto node.intoProto = node :=
  rfl

theorem CreateCircuit.fromProto_of_intoProto {request : Protos.CircuitCreateRequest}
    (converted : circuit.intoProto = .ok request) :
    fromProto request.getCircuit = .ok circuit := by
  cases converted
  obtain ⟨circuitId, roster, members, auth, persistence, durability, routes,
    managementType, metadata⟩ := circuit
  have services : (roster.map SplinterService.intoProto).map SplinterService.fromProto =
      roster := by
    simp [Function.comp_def, SplinterService.fromProto_intoProto]
  have nodes : (members.map SplinterNode.intoProto).map SplinterNode.fromProto = members := by
    simp [Function.comp_def, SplinterNode.fromProto_intoProto]
  cases auth
  cases persistence
  cases durability
  cases routes
  have read : fromProto
      { circuitId := circuitId
        roster := roster.map SplinterService.intoProto
        members := members.map SplinterNode.intoProto
        authorizationType := .trustAuthorization
        persistence := .anyPersistence
        durability := .noDurability
        routes := .anyRoute
        circuitManagementType := managementType
        applicationMetadata := metadata } =
    .ok
      { circuitId := circuitId
        roster := (roster.map SplinterService.intoProto).map SplinterService.fromProto
        members := (members.map SplinterNode.intoProto).map SplinterNode.fromProto
        authorizationType := .trust
        persistence := .any
        durability := .noDurability
        routes := .any
        circuitManagementType := managementType
        applicationMetadata := metadata } := rfl
  rw [services, nodes] at read
  exact read

theorem ProposalType.fromProto_intoProto (kind : ProposalType) :
    fromProto kind.intoProto = .ok kind := by
  cases kind <;> rfl

theorem VoteRecord.fromProto_intoProto (voteRecord : VoteRecord) :
    fromProto voteRecord.intoProto = .ok voteRecord := by
  obtain ⟨publicKey, vote, voterNodeId⟩ := voteRecord
  cases vote <;> rfl

theorem VoteRecord.mapM_fromProto_map_intoProto (voteRecords : List VoteRecord) :
    (voteRecords.map intoProto).mapM fromProto = .ok voteRecords := by
  induction voteRecords with
  | nil => rfl
  | cons voteRecord voteRecords ih =>
    rw [List.map_cons, List.mapM_cons, fromProto_intoProto, ih]
    rfl

namespace CircuitProposal

variable {proto : Protos.CircuitProposal} {proposal : CircuitProposal}

theorem parts_of_fromProto (converted : fromProto proto = .ok proposal) :
    ProposalType.fromProto proto.proposalType = .ok proposal.proposalType ∧
      proto.votes.mapM VoteRecord.fromProto = .ok proposal.votes ∧
      CreateCircuit.fromProto proto.getCircuitProposal = .ok proposal.circuit ∧
      proposal.circuitId = proto.circuitId ∧
      proposal.circuitHash = proto.circuitHash ∧
      proposal.requester = proto.requester ∧
      proposal.requesterNodeId = proto.requesterNodeId := by
  simp only [fromProto, bind_eq_ok_iff] at converted
  obtain ⟨kind, kindConverted, votes, votesConverted, circuit, circuitConverted, same⟩ := converted
  cases same
  exact ⟨kindConverted, votesConverted, circuitConverted, rfl, rfl, rfl, rfl⟩

theorem intoProto_of_fromProto (converted : fromProto proto = .ok proposal) :
    proposal.intoProto = .ok proto := by
  obtain ⟨kindConverted, votesConverted, circuitConverted, same, sameHash,
    sameRequester, sameNode⟩ := parts_of_fromProto converted
  have settled := (CreateCircuit.fromProto_isOk_iff _).mp ⟨_, circuitConverted⟩
  have present : proto.circuitProposal = some proto.getCircuitProposal := by
    cases shape : proto.circuitProposal with
    | some circuit => simp [Protos.CircuitProposal.getCircuitProposal, shape]
    | none =>
      have unset := settled.routes
      simp [Protos.CircuitProposal.getCircuitProposal, shape, Protos.Circuit.new] at unset
  have kind := ProposalType.intoProto_of_fromProto kindConverted
  have votes := VoteRecord.map_intoProto_of_mapM_fromProto votesConverted
  rw [intoProto, CreateCircuit.intoProto_of_fromProto circuitConverted, kind,
    votes, same, sameHash, sameRequester, sameNode, ← present]
  rfl

theorem fromProto_of_intoProto (converted : proposal.intoProto = .ok proto) :
    fromProto proto = .ok proposal := by
  simp only [intoProto, bind_eq_ok_iff] at converted
  obtain ⟨request, requested, same⟩ := converted
  cases same
  simp only [fromProto, bind_eq_ok_iff]
  exact
    ⟨_, ProposalType.fromProto_intoProto proposal.proposalType, _,
      VoteRecord.mapM_fromProto_map_intoProto proposal.votes, _,
      CreateCircuit.fromProto_of_intoProto requested, rfl⟩

theorem intoProto_isOk (proposal : CircuitProposal) : ∃ proto, proposal.intoProto = .ok proto :=
  ⟨_, rfl⟩

end CircuitProposal

end Messages

end Splinter.Admin
