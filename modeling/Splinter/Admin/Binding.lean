import Splinter.Admin.Requests

/-!
# What a signature binds

The header of a payload is signed, and it has the hash of the body.  The hash
is never compared with the body, so a signature binds nothing: as soon as some
payload is accepted under a header and a signature, another body is accepted
under them too.
-/

namespace Splinter.Admin

open Library AdminServiceShared
open Protos (CircuitManagementPayload CircuitProposal)

/-- The serialised part of a payload that the action of its header is about;
this is what clients hash. -/
def bodyOf (formats : Formats) (action : CircuitManagementPayload.Action)
    (payload : CircuitManagementPayload) : Option Bytes :=
  match action with
  | .circuitCreateRequest =>
    some (formats.protos.circuitCreateRequest.write payload.getCircuitCreateRequest)
  | .circuitProposalVote =>
    some (formats.protos.circuitProposalVote.write payload.getCircuitProposalVote)
  | _ => none

inductive Entry where
  | submit
  | proposeChange

/-- A method returns `Ok` for a payload. -/
def Entry.Accepts (formats : Formats) (around : Surroundings)
    (shared : AdminServiceShared) (payload : CircuitManagementPayload) :
    Entry → Prop
  | .submit =>
    Ends (AdminServiceShared.submit formats around payload) shared
      (fun _ _ => True) fun _ _ => False
  | .proposeChange =>
    Ends (AdminServiceShared.proposeChange formats around payload) shared
      (fun _ _ => True) fun _ _ => False

def HashMatches (formats : Formats) (sha512 : Bytes → Bytes)
    (payload : CircuitManagementPayload) : Prop :=
  ∃ header body, formats.protos.header.parse payload.header = .ok header ∧
    bodyOf formats header.action payload = some body ∧
    sha512 body = header.payloadSha512

def SameBody (formats : Formats) (left right : CircuitManagementPayload) : Prop :=
  ∀ header, formats.protos.header.parse left.header = .ok header →
    bodyOf formats header.action left = bodyOf formats header.action right

/-- Under a header and a signature only one body is accepted, and it is the
one with the hash of the header. -/
structure Binds (formats : Formats) (sha512 : Bytes → Bytes) (entry : Entry)
    (around : Surroundings) (shared : AdminServiceShared) (header signature : Bytes) : Prop where
  hashed : ∀ payload : CircuitManagementPayload,
    payload.header = header → payload.signature = signature →
    entry.Accepts formats around shared payload →
    HashMatches formats sha512 payload
  unique : ∀ left right : CircuitManagementPayload,
    left.header = header → left.signature = signature →
    right.header = header → right.signature = signature →
    entry.Accepts formats around shared left →
    entry.Accepts formats around shared right →
    SameBody formats left right

/-! ## Acceptance -/

section Acceptance

variable {formats : Formats} {around : Surroundings}
  {shared : AdminServiceShared} {payload : CircuitManagementPayload}

theorem accepts_proposeChange_iff : Entry.proposeChange.Accepts formats around shared payload ↔
    ∃ change, shared.proposedChange formats around payload = .ok change := by
  unfold Entry.Accepts proposeChange
  simp only [ends_bind, ends_get, ends_fromExcept, ends_set, ends_pure, implies_true, true_and]
  cases shared.proposedChange formats around payload <;> simp

theorem accepts_proposeCircuit_iff : Ends (AdminServiceShared.proposeCircuit around payload) shared
    (fun _ _ => True) (fun _ _ => False) ↔
    ∃ peers, AdminServiceShared.unauthorizedPeers around shared.nodeId
      payload.getCircuitCreateRequest.getCircuit.members = .ok peers := by
  unfold proposeCircuit
  simp only [ends_bind, ends_get, ends_fromExcept]
  cases unauthorizedPeers around shared.nodeId
    payload.getCircuitCreateRequest.getCircuit.members with
  | error error => simp
  | ok peers =>
    simp only [Except.ok.injEq, forall_eq', reduceCtorEq, false_implies,
      implies_true, and_true, exists_eq', iff_true]
    split <;> trivial

theorem accepts_submit_iff : Entry.submit.Accepts formats around shared payload ↔
    ∃ header, Checked formats around payload header ∧
      ((header.action = .circuitCreateRequest ∧ ∃ peers,
        AdminServiceShared.unauthorizedPeers around shared.nodeId
          payload.getCircuitCreateRequest.getCircuit.members = .ok peers) ∨
        header.action = .circuitProposalVote) := by
  unfold Entry.Accepts submit
  simp only [ends_bind, ends_fromExcept, ← submittedHeader_eq_ok_iff, ← accepts_proposeCircuit_iff]
  cases submittedHeader formats around payload with
  | error error => simp
  | ok header =>
    simp only [Except.ok.injEq, forall_eq', reduceCtorEq, false_implies,
      implies_true, and_true, exists_eq_left']
    cases header.action <;> simp [proposeVote]

end Acceptance

/-! ## Exchanging the body -/

variable (payload : CircuitManagementPayload)

def withCircuit (circuit : Protos.Circuit) : CircuitManagementPayload :=
  { payload with circuitCreateRequest := some { circuit := some circuit } }

def exchangeCircuit : CircuitManagementPayload :=
  let circuit := payload.getCircuitCreateRequest.getCircuit
  withCircuit payload { circuit with applicationMetadata := 0 :: circuit.applicationMetadata }

def exchangeVote : CircuitManagementPayload :=
  let proposalVote := payload.getCircuitProposalVote
  { payload with
    circuitProposalVote :=
      some { proposalVote with vote := if proposalVote.vote = .accept then .reject else .accept } }

theorem exchangeCircuit_changes (formats : Formats) (payload : CircuitManagementPayload) :
    bodyOf formats .circuitCreateRequest (exchangeCircuit payload) ≠
      bodyOf formats .circuitCreateRequest payload := by
  intro same
  have sameRequest : (exchangeCircuit payload).getCircuitCreateRequest =
      payload.getCircuitCreateRequest :=
    formats.protos.circuitCreateRequest.write_injective (Option.some.inj same)
  have sameMetadata := congrArg (fun request => request.getCircuit.applicationMetadata) sameRequest
  exact List.cons_ne_self _ _ sameMetadata

theorem exchangeVote_changes (formats : Formats) (payload : CircuitManagementPayload) :
    bodyOf formats .circuitProposalVote (exchangeVote payload) ≠
      bodyOf formats .circuitProposalVote payload := by
  intro same
  have sameProposalVote : (exchangeVote payload).getCircuitProposalVote =
      payload.getCircuitProposalVote :=
    formats.protos.circuitProposalVote.write_injective (Option.some.inj same)
  have sameVote :
      (if payload.getCircuitProposalVote.vote = .accept then
        Protos.CircuitProposalVote.Vote.reject
        else .accept) =
        payload.getCircuitProposalVote.vote :=
    congrArg Protos.CircuitProposalVote.vote sameProposalVote
  split at sameVote
  · rename_i accepted
    rw [accepted] at sameVote
    cases sameVote
  · rename_i notAccepted
    exact notAccepted sameVote.symm

section Exchange

variable {formats : Formats} {around : Surroundings}
  {shared : AdminServiceShared} {payload : CircuitManagementPayload}
  {header : CircuitManagementPayload.Header}

theorem Checked.of_same {other : CircuitManagementPayload}
    (checked : Checked formats around payload header) (sameHeader : other.header = payload.header)
    (sameSignature : other.signature = payload.signature) :
    Checked formats around other header := by
  obtain ⟨parsed, validated, answered⟩ := checked
  rw [← sameHeader] at parsed
  rw [← sameHeader, ← sameSignature] at answered
  refine ⟨parsed, ?_, answered⟩
  unfold validateCircuitManagementPayload at validated ⊢
  rwa [sameHeader, sameSignature]

theorem exchangeCircuit_differs (parsed : formats.protos.header.parse payload.header = .ok header)
    (action : header.action = .circuitCreateRequest) :
    ¬ SameBody formats (exchangeCircuit payload) payload := by
  intro same
  have sameBytes := same header parsed
  rw [action] at sameBytes
  exact exchangeCircuit_changes formats payload sameBytes

theorem exchangeVote_differs (parsed : formats.protos.header.parse payload.header = .ok header)
    (action : header.action = .circuitProposalVote) :
    ¬ SameBody formats (exchangeVote payload) payload := by
  intro same
  have sameBytes := same header parsed
  rw [action] at sameBytes
  exact exchangeVote_changes formats payload sameBytes

section

variable (hashes : ∀ message, ∃ digest, formats.digest message = .ok digest)
include hashes

theorem exists_sha256 (message : Bytes) : ∃ hash, sha256 formats message = .ok hash := by
  obtain ⟨digest, hashed⟩ := hashes message
  exact ⟨toHex digest, by rw [sha256, hashed]⟩

theorem createdChange_exchangeCircuit {change : Change}
    (created : shared.createdChange formats around payload header = .ok change) :
    ∃ other, shared.createdChange formats around (exchangeCircuit payload) header = .ok other := by
  obtain ⟨validated, _⟩ := (createdChange_eq_ok_iff header change).mp created
  obtain ⟨circuitHash, hashed⟩ := exists_sha256 hashes
    (formats.protos.circuit.write (exchangeCircuit payload).getCircuitCreateRequest.getCircuit)
  obtain ⟨expectedHash, expected⟩ := exists_sha256 hashes
    (formats.protos.circuitProposal.write
      (createdProposal (exchangeCircuit payload).getCircuitCreateRequest.getCircuit
        circuitHash header))
  exact
    ⟨_, (createdChange_eq_ok_iff header _).mpr
      ⟨validated, circuitHash, hashed, expectedHash, expected, rfl⟩⟩

theorem votedChange_exchangeVote {change : Change}
    (voted : shared.votedChange formats around payload header = .ok change) :
    ∃ other, shared.votedChange formats around (exchangeVote payload) header = .ok other := by
  obtain ⟨openProposal, found, validated, _⟩ := (votedChange_eq_ok_iff header change).mp voted
  obtain ⟨expectedHash, expected⟩ := exists_sha256 hashes
    (formats.protos.circuitProposal.write
      { openProposal with
        votes := openProposal.votes ++
          [castVote (exchangeVote payload).getCircuitProposalVote header] })
  exact
    ⟨_, (votedChange_eq_ok_iff header _).mpr
      ⟨openProposal, found, validated, expectedHash, expected, rfl⟩⟩

/-- Next to an accepted payload there is an accepted payload with the same
header and signature and another body. -/
theorem exists_exchanged (entry : Entry) (accepted : entry.Accepts formats around shared payload) :
    ∃ other, other.header = payload.header ∧ other.signature = payload.signature ∧
      entry.Accepts formats around shared other ∧
      ¬ SameBody formats other payload := by
  cases entry with
  | submit =>
    obtain ⟨header, checked, ⟨action, peers⟩ | action⟩ := accepts_submit_iff.mp accepted
    · refine ⟨exchangeCircuit payload, rfl, rfl, ?_, ?_⟩
      · exact accepts_submit_iff.mpr ⟨header, checked.of_same rfl rfl, Or.inl ⟨action, peers⟩⟩
      · exact exchangeCircuit_differs checked.parsed action
    · refine ⟨exchangeVote payload, rfl, rfl, ?_, ?_⟩
      · exact accepts_submit_iff.mpr ⟨header, checked.of_same rfl rfl, Or.inr action⟩
      · exact exchangeVote_differs checked.parsed action
  | proposeChange =>
    obtain ⟨change, computed⟩ := accepts_proposeChange_iff.mp accepted
    obtain ⟨header, checked, ⟨action, created⟩ | ⟨action, voted⟩⟩ :=
      (proposedChange_eq_ok_iff change).mp computed
    · obtain ⟨other, exchanged⟩ := createdChange_exchangeCircuit hashes created
      refine ⟨exchangeCircuit payload, rfl, rfl, ?_, ?_⟩
      · exact accepts_proposeChange_iff.mpr
          ⟨other, (proposedChange_eq_ok_iff other).mpr
            ⟨header, checked.of_same rfl rfl, Or.inl ⟨action, exchanged⟩⟩⟩
      · exact exchangeCircuit_differs checked.parsed action
    · obtain ⟨other, exchanged⟩ := votedChange_exchangeVote hashes voted
      refine ⟨exchangeVote payload, rfl, rfl, ?_, ?_⟩
      · exact accepts_proposeChange_iff.mpr
          ⟨other, (proposedChange_eq_ok_iff other).mpr
            ⟨header, checked.of_same rfl rfl, Or.inr ⟨action, exchanged⟩⟩⟩
      · exact exchangeVote_differs checked.parsed action

end

end Exchange

/-- A signature binds the requested action exactly if nothing is accepted
under it. -/
theorem binds_iff_nothing_accepted (formats : Formats) (sha512 : Bytes → Bytes) (entry : Entry)
    (around : Surroundings) (shared : AdminServiceShared) (header signature : Bytes)
    (hashes : ∀ message, ∃ digest, formats.digest message = .ok digest) :
    Binds formats sha512 entry around shared header signature ↔
      ∀ payload : CircuitManagementPayload,
        payload.header = header → payload.signature = signature →
        ¬ entry.Accepts formats around shared payload := by
  constructor
  · intro binds payload sameHeader sameSignature accepted
    obtain ⟨other, otherHeader, otherSignature, otherAccepted, differs⟩ :=
      exists_exchanged hashes entry accepted
    exact differs
        (binds.unique other payload (otherHeader.trans sameHeader)
          (otherSignature.trans sameSignature) sameHeader sameSignature
          otherAccepted accepted)
  · intro refused
    exact
      { hashed := fun payload sameHeader sameSignature accepted =>
          (refused payload sameHeader sameSignature accepted).elim
        unique := fun left _ sameHeader sameSignature _ _ accepted _ =>
          (refused left sameHeader sameSignature accepted).elim }

/-- Only the signature of the request of node `a` is valid. -/
def signedOnce : Surroundings :=
  { Surroundings.working with
    verify := fun header signature requester =>
      .ok
        (header = soleRequest.header && signature = soleRequest.signature &&
          requester = asBytes "a") }

/-- The request of node `a` with another circuit. -/
def exchangedRequest : CircuitManagementPayload := withCircuit soleRequest (simpleCircuit "d" ["a"])

theorem hashMatches_withCircuit_iff (circuit other : Protos.Circuit)
    (requester : Bytes) (requesterNodeId : String) (signature : Bytes) :
    HashMatches .standard Sha2.sha512.hash
      (withCircuit (createPayload circuit requester requesterNodeId signature) other) ↔
      Sha2.sha512.hash (Protos.Codecs.protobuf.circuitCreateRequest.write ⟨some other⟩) =
        Sha2.sha512.hash (Protos.Codecs.protobuf.circuitCreateRequest.write ⟨some circuit⟩) := by
  constructor
  · rintro ⟨header, body, parsed, isBody, hashed⟩
    have same := Except.ok.inj (parsed.symm.trans (Codec.parse_write _ _))
    subst same
    cases isBody
    exact hashed
  · intro same
    exact ⟨_, _, Codec.parse_write _ _, rfl, same⟩

theorem accepts_requests (entry : Entry) :
    entry.Accepts .standard signedOnce (emptyNode "a") soleRequest ∧
      entry.Accepts .standard signedOnce (emptyNode "a") exchangedRequest := by
  cases entry with
  | submit =>
    unfold Entry.Accepts
    decide +kernel
  | proposeChange =>
    unfold Entry.Accepts
    decide +kernel

/-- A client signs the request for circuit `c`, and a request for circuit `d`
is accepted under this signature. -/
theorem exchanged_circuit_accepted : exchangedRequest.header = soleRequest.header ∧
      exchangedRequest.signature = soleRequest.signature ∧
      HashMatches .standard Sha2.sha512.hash soleRequest ∧
      ¬ HashMatches .standard Sha2.sha512.hash exchangedRequest ∧
      ∀ entry : Entry, entry.Accepts .standard signedOnce (emptyNode "a") soleRequest ∧
          entry.Accepts .standard signedOnce (emptyNode "a") exchangedRequest ∧
          ¬ Binds .standard Sha2.sha512.hash entry signedOnce (emptyNode "a")
            soleRequest.header soleRequest.signature := by
  have unmatched : ¬ HashMatches .standard Sha2.sha512.hash exchangedRequest := by
    intro matched
    have sameHash := (hashMatches_withCircuit_iff _ _ _ _ _).mp matched
    exact absurd sameHash (by decide +kernel)
  refine ⟨rfl, rfl, ?_, unmatched, fun entry => ?_⟩
  · exact (hashMatches_withCircuit_iff (simpleCircuit "c" ["a"]) _ _ _ _).mpr rfl
  · obtain ⟨accepted, exchanged⟩ := accepts_requests entry
    refine ⟨accepted, exchanged, fun binds => ?_⟩
    exact unmatched (binds.hashed exchangedRequest rfl rfl exchanged)

/-- Nothing is bound by the signature of the request, and an empty signature
binds, because nothing is accepted with it. -/
theorem binds_iff_nothing_accepted_sole :
    (∀ entry : Entry, ¬ Binds .standard Sha2.sha512.hash entry signedOnce (emptyNode "a")
        soleRequest.header soleRequest.signature) ∧
      Binds .standard Sha2.sha512.hash .submit signedOnce (emptyNode "a")
        soleRequest.header [] := by
  have hashes : ∀ message, ∃ digest, Formats.standard.digest message = .ok digest :=
    fun _ => ⟨_, rfl⟩
  constructor
  · intro entry
    rw [binds_iff_nothing_accepted _ _ _ _ _ _ _ hashes]
    exact fun refused => refused soleRequest rfl rfl (accepts_requests entry).1
  · rw [binds_iff_nothing_accepted _ _ _ _ _ _ _ hashes]
    intro payload _ unsigned accepted
    obtain ⟨header, checked, _⟩ := accepts_submit_iff.mp accepted
    have validated := checked.validated
    simp [validateCircuitManagementPayload, bind_eq_ok_iff, unsigned] at validated

end Splinter.Admin
