import Splinter.Admin.PendingChange
import Splinter.Admin.Requests

/-!
# The recipients of a broadcast

`AdminConsensusNetworkSender::broadcast` sends to the verifiers that the last
successful `propose_change` has left behind.  A service is addressed to a proposal
if these are the members of the circuit the proposal is about.
-/

namespace Splinter.Admin

open Library Service Consensus AdminServiceShared
open Protos (CircuitManagementPayload)

def otherMembers (nodeId : String) (circuit : Protos.Circuit) : List String :=
  ((circuit.members.map Protos.SplinterNode.nodeId).filter (· ≠ nodeId)).map adminServiceId

theorem filter_memberVerifiers (nodeId : String) (circuit : Protos.Circuit) :
    (memberVerifiers circuit).filter (· ≠ adminServiceId nodeId) = otherMembers nodeId circuit := by
  simp only [memberVerifiers, otherMembers, List.filter_map, List.map_map]
  simp [Function.comp_def, adminServiceId]

namespace AdminServiceShared

variable (formats : Formats)

/-- The circuit a payload is about: the one a request asks for, or the one a
vote is about. -/
def circuitFor (shared : AdminServiceShared)
    (payload : CircuitManagementPayload) : Option Protos.Circuit :=
  match formats.protos.header.parse payload.header with
  | .error _ => none
  | .ok header =>
    match header.action with
    | .circuitCreateRequest => some payload.getCircuitCreateRequest.getCircuit
    | .circuitProposalVote =>
      match shared.votedProposal payload.getCircuitProposalVote.circuitId with
      | .ok openProposal => some openProposal.getCircuitProposal
      | .error _ => none
    | _ => none

/-- What the recipients of broadcasts are computed from. -/
def address (shared : AdminServiceShared) : String × OpenProposals × List String :=
  (shared.nodeId, shared.openProposals, shared.currentConsensusVerifiers)

variable {formats} {around : Surroundings} {shared : AdminServiceShared}
  {payload : CircuitManagementPayload} {change : Change}

theorem circuitFor_of_proposedChange
    (computed : shared.proposedChange formats around payload = .ok change) :
    ∃ circuit, shared.circuitFor formats payload = some circuit ∧
      change.verifiers = memberVerifiers circuit := by
  obtain ⟨header, checked, taken⟩ := (proposedChange_eq_ok_iff change).mp computed
  rcases taken with ⟨action, created⟩ | ⟨action, voted⟩
  · obtain ⟨_, _, _, _, _, rfl⟩ := (createdChange_eq_ok_iff header change).mp created
    refine ⟨payload.getCircuitCreateRequest.getCircuit, ?_, rfl⟩
    simp only [circuitFor, checked.parsed, action]
  · obtain ⟨openProposal, found, _, _, _, rfl⟩ := (votedChange_eq_ok_iff header change).mp voted
    refine ⟨openProposal.getCircuitProposal, ?_, rfl⟩
    simp only [circuitFor, checked.parsed, action, found]

end AdminServiceShared

namespace AdminService

open AdminServiceShared (address)

variable (formats : Formats)

variable (service : AdminService)

def recipients : List String :=
  service.shared.currentConsensusVerifiers.filter (· ≠ adminServiceId service.shared.nodeId)

def registeredPayload (id : ProposalId) : Option CircuitManagementPayload :=
  (service.pendingConsensusProposal id).map Prod.snd

def proposedCircuit (id : ProposalId) : Option Protos.Circuit :=
  (service.registeredPayload id).bind (service.shared.circuitFor formats)

/-- A broadcast is sent to exactly the other members of the circuit of a
proposal. -/
def Addressed (id : ProposalId) : Prop :=
  (service.proposedCircuit formats id).map (otherMembers service.shared.nodeId) =
    some service.recipients

instance (service : AdminService) (id : ProposalId) : Decidable (service.Addressed formats id) :=
  inferInstanceAs (Decidable (_ = _))

variable {formats} {around : Surroundings} {service after : AdminService} {id : ProposalId}

theorem proposedCircuit_congr (sameAddress : after.shared.address = service.shared.address)
    (samePayload : after.registeredPayload id = service.registeredPayload id) :
    after.proposedCircuit formats id = service.proposedCircuit formats id := by
  have sameProposals : after.shared.openProposals = service.shared.openProposals :=
    congrArg (fun address => address.2.1) sameAddress
  have sameCircuits : after.shared.circuitFor formats = service.shared.circuitFor formats := by
    funext payload
    unfold circuitFor votedProposal getProposal
    rw [sameProposals]
  unfold proposedCircuit
  rw [samePayload, sameCircuits]

theorem Addressed.congr (sameAddress : after.shared.address = service.shared.address)
    (samePayload : after.registeredPayload id = service.registeredPayload id)
    (addressed : service.Addressed formats id) :
    after.Addressed formats id := by
  have sameNode : after.shared.nodeId = service.shared.nodeId := congrArg Prod.fst sameAddress
  have sameVerifiers : after.shared.currentConsensusVerifiers =
      service.shared.currentConsensusVerifiers :=
    congrArg (fun address => address.2.2) sameAddress
  unfold Addressed recipients at addressed ⊢
  rw [proposedCircuit_congr sameAddress samePayload, sameNode, sameVerifiers]
  exact addressed

/-! ## What changes the recipients -/

theorem checkProposal_addresses (service : AdminService) (id : ProposalId) :
    Ends (checkProposal formats around id) service (fun _ after => after.Addressed formats id)
      fun _ after => after = service := by
  unfold checkProposal
  rw [ends_bind, ends_get]
  split
  · rfl
  · rename_i proposal payload found
    rw [ends_bind]
    unfold onShared
    rw [ends_zoom, ends_mapError]
    refine
      (proposeChange_ends formats around payload
        service.shared).mono (fun proposed shared proposing => ?_)
        fun _ shared unchanged => ?_
    · obtain ⟨change, computed, _, rfl⟩ := proposing
      obtain ⟨circuit, about, members⟩ := circuitFor_of_proposedChange computed
      have addressed : Addressed formats
          { service with
            shared := { service.shared with
              pendingChanges := some change.context
              currentConsensusVerifiers := change.verifiers } }
        id := by
        have registered : service.registeredPayload id = some payload := by
          unfold registeredPayload
          rw [found]
          rfl
        have proposed : service.proposedCircuit formats id = some circuit := by
          unfold proposedCircuit
          rw [registered]
          exact about
        have others := filter_memberVerifiers service.shared.nodeId circuit
        rw [← members] at others
        have shown : (service.proposedCircuit formats id).map (otherMembers service.shared.nodeId) =
            some (change.verifiers.filter (· ≠ adminServiceId service.shared.nodeId)) := by
          rw [proposed, others]
          rfl
        exact shown
      split
      · exact addressed.congr rfl rfl
      · exact addressed.congr rfl rfl
    · rw [unchanged]

theorem acceptProposal_keeps_recipients (id : ProposalId) :
    Keeps recipients (acceptProposal formats around id) := by
  intro service
  refine (acceptProposal_ends formats around service id).mono
    (fun _ after decided => ?_) fun _ _ impossible => impossible.elim
  obtain ⟨registry, pending, _, same⟩ := decided
  have sameRecipients := congrArg
    (fun frame : AdminServiceShared =>
      frame.currentConsensusVerifiers.filter (· ≠ adminServiceId frame.nodeId))
    same
  exact sameRecipients

theorem recipients_congr (same : after.shared.address = service.shared.address) :
    after.recipients = service.recipients := by
  have sameRecipients := congrArg
    (fun address =>
      address.2.2.filter (· ≠ adminServiceId address.1))
    same
  exact sameRecipients

theorem rejectProposal_keeps_others (service : AdminService) (id : ProposalId) :
    Ends (rejectProposal id) service
      (fun _ after =>
        after.shared.address = service.shared.address ∧ ∀ other, other ≠ id →
          after.registeredPayload other = service.registeredPayload other)
      fun _ after => after = service := by
  unfold rejectProposal
  rw [ends_bind, ends_get]
  split
  · rfl
  · refine ⟨rfl, fun other different => ?_⟩
    exact congrArg (Option.map Prod.snd) (Finmap.lookup_erase_ne different)

theorem operate_keeps_address (operation : Operation) (service : AdminService) :
    (operate formats operation service).shared.address = service.shared.address := by
  have kept := congrArg address (kept_operate formats operation service)
  exact kept

theorem respond_keeps_address {call : Call} {answer : Answer}
    (network : TwoPhase.isNetworkCall call = true)
    (responded : respond formats around call service = some (answer, after)) :
    after.shared.address = service.shared.address ∧
      after.registeredPayload id = service.registeredPayload id := by
  have same := unmailed_of_network network responded
  exact ⟨congrArg (fun kept => kept.shared.address) same,
    congrArg (fun kept => kept.registeredPayload id) same⟩

/-! ## What a broadcast sends -/

theorem sendConsensus_ends (recipient : String) (envelope : Bytes) (service : AdminService) :
    Ends (sendConsensus around recipient envelope) service
      (fun _ after =>
        after.shared.sentMessages = service.shared.sentMessages ++ [(recipient, envelope)])
      fun _ after => after = service := by
  unfold sendConsensus
  split
  · rfl
  · rfl

theorem sendToOthers_ends (own : String) (envelope : Bytes)
    (verifiers : List String) (service : AdminService) :
    Ends
      (forM verifiers fun verifier =>
        if verifier ≠ own then sendConsensus around verifier envelope
        else pure ())
      service
      (fun _ after =>
        after.shared.sentMessages = service.shared.sentMessages ++
          (verifiers.filter (· ≠ own)).map fun verifier =>
            (verifier, envelope))
      fun _ after =>
        ∃ sent,
          (sent <+: (verifiers.filter (· ≠ own)).map fun verifier =>
            (verifier, envelope)) ∧
            after.shared.sentMessages = service.shared.sentMessages ++ sent := by
  induction verifiers generalizing service with
  | nil => simp
  | cons verifier verifiers ih =>
    rw [List.forM_cons, ends_bind]
    by_cases other : verifier ≠ own
    · rw [if_pos other, List.filter_cons_of_pos (by simpa using other)]
      refine (sendConsensus_ends verifier envelope service).mono
        (fun _ between sent => ?_) fun _ between unchanged => ?_
      · refine (ih between).mono (fun _ after rest => ?_) fun _ after rest => ?_
        · rw [rest, sent]
          simp
        · obtain ⟨reached, first, same⟩ := rest
          refine ⟨(verifier, envelope) :: reached, ?_, ?_⟩
          · rw [List.map_cons]
            exact List.cons_prefix_cons.mpr ⟨rfl, first⟩
          · rw [same, sent]
            simp
      · refine ⟨[], List.nil_prefix, ?_⟩
        rw [unchanged, List.append_nil]
    · rw [if_neg other, List.filter_cons_of_neg (by simpa using other)]
      exact ih service

/-- What an answered broadcast has sent to its recipients: the envelope went to
each of them, in their order, or a first part of them has got it before the
broadcast failed. -/
def SentTo (formats : Formats) (message : Bytes) (recipients : List String)
    (asked : AdminService) (answer : Answer) (answered : AdminService) :
    Prop :=
  let envelopes := recipients.map fun recipient =>
    (recipient, asked.consensusEnvelope formats message)
  match answer with
  | .ok _ => answered.shared.sentMessages = asked.shared.sentMessages ++ envelopes
  | .error _ =>
    ∃ sent, sent <+: envelopes ∧ answered.shared.sentMessages = asked.shared.sentMessages ++ sent

theorem sentTo_of_respond {asked answered : AdminService} {message : Bytes} {answer : Answer}
    (responded : respond formats around (.broadcast message) asked = some (answer, answered)) :
    SentTo formats message asked.recipients asked answer answered := by
  have sends : Ends (broadcast formats around message) asked
      (fun _ after =>
        SentTo formats message asked.recipients asked (.ok ()) after)
      fun failure after =>
        SentTo formats message asked.recipients asked (.error (.send failure)) after := by
    unfold broadcast
    rw [ends_bind, ends_get]
    split
    · exact ⟨[], List.nil_prefix, (List.append_nil _).symm⟩
    · exact sendToOthers_ends _ _ _ asked
  cases answer with
  | ok _ => exact returned_of_answer sends (Option.some.inj responded)
  | error error =>
    obtain ⟨_, sent⟩ := failed_of_answer sends (Option.some.inj responded)
    exact sent

end AdminService

end Splinter.Admin
