import Splinter.Admin.Commit
import Splinter.Library.Run

/-!
# Sequences of calls

What the shared state goes through when payloads are submitted and proposed and
changes are committed and rolled back: the checks an accepted payload has passed,
and what each call does to the records and to the pending change.
-/

namespace Splinter.Admin

open Library AdminServiceShared
open Service (ServiceError)
open Protos (CircuitManagementPayload CircuitProposal)

/-! ## Accepted payloads -/

/-- The checks that `submit` and `propose_change` share.  The answer of the
verifier is not looked at. -/
structure Checked (formats : Formats) (around : Surroundings)
    (payload : CircuitManagementPayload) (header : CircuitManagementPayload.Header) : Prop where
  parsed : formats.protos.header.parse payload.header = .ok header
  validated : validateCircuitManagementPayload payload header = .ok ()
  answered : ∃ answer, around.verify payload.header payload.signature header.requester = .ok answer

theorem verifySignature_eq_ok_iff {formats : Formats} {around : Surroundings}
    {payload : CircuitManagementPayload} {header : CircuitManagementPayload.Header}
    (parsed : formats.protos.header.parse payload.header = .ok header) (answer : Bool) :
    verifySignature formats around payload = .ok answer ↔
      around.verify payload.header payload.signature header.requester = .ok answer := by
  simp only [verifySignature, parsed, mapError_eq_ok_iff]

namespace AdminServiceShared

variable {formats : Formats} {around : Surroundings}
  {shared : AdminServiceShared} {payload : CircuitManagementPayload}
  (header : CircuitManagementPayload.Header)

theorem submittedHeader_eq_ok_iff : submittedHeader formats around payload = .ok header ↔
    Checked formats around payload header := by
  simp only [submittedHeader, bind_eq_ok_iff, mapError_eq_ok_iff]
  constructor
  · rintro ⟨_, parsed, _, validated, answer, verified, same⟩
    cases same
    exact ⟨parsed, validated, answer, (verifySignature_eq_ok_iff parsed answer).mp verified⟩
  · rintro ⟨parsed, validated, answer, verified⟩
    exact
      ⟨header, parsed, (), validated, answer,
        (verifySignature_eq_ok_iff parsed answer).mpr verified, rfl⟩

variable (change : Change)

theorem proposedChange_eq_ok_iff : shared.proposedChange formats around payload = .ok change ↔
    ∃ header, Checked formats around payload header ∧
      ((header.action = .circuitCreateRequest ∧
        shared.createdChange formats around payload header = .ok change) ∨
        header.action = .circuitProposalVote ∧ shared.votedChange formats around payload header =
          .ok change) := by
  simp only [proposedChange, parseHeader, bind_eq_ok_iff, mapError_eq_ok_iff]
  constructor
  · rintro ⟨header, parsed, _, validated, answer, verified, continued⟩
    refine
      ⟨header,
        ⟨parsed, validated, answer, (verifySignature_eq_ok_iff parsed answer).mp verified⟩, ?_⟩
    split at continued
    · rename_i action
      exact Or.inl ⟨action, continued⟩
    · rename_i action
      exact Or.inr ⟨action, continued⟩
    · cases continued
    · cases continued
  · rintro ⟨header, ⟨parsed, validated, answer, verified⟩, continued⟩
    refine
      ⟨header, parsed, (), validated, answer,
        (verifySignature_eq_ok_iff parsed answer).mpr verified, ?_⟩
    rcases continued with ⟨action, created⟩ | ⟨action, voted⟩
    · simpa only [action] using created
    · simpa only [action] using voted

theorem createdChange_eq_ok_iff : shared.createdChange formats around payload header = .ok change ↔
      shared.validateCreateCircuit around
          payload.getCircuitCreateRequest.getCircuit header.requester
          header.requesterNodeId = .ok () ∧
        ∃ circuitHash, hashCircuit formats payload.getCircuitCreateRequest.getCircuit =
            .ok circuitHash ∧
          ∃ expectedHash, hashCircuitProposal formats
                (createdProposal payload.getCircuitCreateRequest.getCircuit
                  circuitHash header) = .ok expectedHash ∧
              change = {
                expectedHash := expectedHash
                context := {
                  circuitProposal := createdProposal
                    payload.getCircuitCreateRequest.getCircuit circuitHash header
                  action := .circuitCreateRequest
                  signerPublicKey := header.requester }
                verifiers := memberVerifiers payload.getCircuitCreateRequest.getCircuit } := by
  simp only [createdChange, bind_eq_ok_iff, mapError_eq_ok_iff]
  constructor
  · rintro ⟨_, validated, circuitHash, hashed, expectedHash, expected, same⟩
    cases same
    exact ⟨validated, circuitHash, hashed, expectedHash, expected, rfl⟩
  · rintro ⟨validated, circuitHash, hashed, expectedHash, expected, rfl⟩
    exact ⟨(), validated, circuitHash, hashed, expectedHash, expected, rfl⟩

theorem votedChange_eq_ok_iff :
    shared.votedChange formats around payload header = .ok change ↔ ∃ openProposal,
      shared.votedProposal payload.getCircuitProposalVote.circuitId = .ok openProposal ∧
      validateCircuitVote around payload.getCircuitProposalVote
        header.requester openProposal header.requesterNodeId = .ok () ∧
      ∃ expectedHash, hashCircuitProposal formats
        { openProposal with
          votes := openProposal.votes ++ [castVote payload.getCircuitProposalVote header] } =
            .ok expectedHash ∧
            change = {
              expectedHash := expectedHash
              context := {
                circuitProposal :=
                  { openProposal with
                    votes := openProposal.votes ++
                        [castVote payload.getCircuitProposalVote header] }
                action := .circuitProposalVote
                signerPublicKey := header.requester }
              verifiers := memberVerifiers openProposal.getCircuitProposal } := by
  simp only [votedChange, bind_eq_ok_iff, mapError_eq_ok_iff]
  constructor
  · rintro ⟨openProposal, found, _, validated, expectedHash, expected, same⟩
    cases same
    exact ⟨openProposal, found, validated, expectedHash, expected, rfl⟩
  · rintro ⟨openProposal, found, validated, expectedHash, expected, rfl⟩
    exact ⟨openProposal, found, (), validated, expectedHash, expected, rfl⟩

/-- What a valid request to create a circuit has passed. -/
structure Creatable (around : Surroundings) (shared : AdminServiceShared)
    (circuit : Protos.Circuit) (signerPublicKey : Bytes) : Prop where
  answered : ∃ answer, around.isPermitted signerPublicKey proposerRole = .ok answer
  notOpen : shared.hasProposal circuit.circuitId = false
  notCreated : shared.splinterState.hasCircuit circuit.circuitId = false
  valid : validateCircuit shared.nodeId circuit = .ok ()

variable {signerPublicKey : Bytes}

theorem creatable_of_validateCreateCircuit {circuit : Protos.Circuit} {requesterNodeId : String}
    (validated : shared.validateCreateCircuit around circuit signerPublicKey
      requesterNodeId = .ok ()) :
    Creatable around shared circuit signerPublicKey := by
  simp only [validateCreateCircuit, checkPermission, bind_eq_ok_iff,
    mapError_eq_ok_iff, require_eq_ok_iff] at validated
  obtain ⟨_, _, _, _, _, _, answer, answered, _, notOpen, _, notCreated, valid⟩ := validated
  exact ⟨⟨answer, answered⟩, notOpen, notCreated, valid⟩

structure Votable (around : Surroundings)
    (proposalVote : Protos.CircuitProposalVote) (signerPublicKey : Bytes)
    (circuitProposal : CircuitProposal) (nodeId : String) : Prop where
  notRequester : circuitProposal.requesterNodeId ≠ nodeId
  notVoted : nodeId ∉ circuitProposal.votes.map CircuitProposal.VoteRecord.voterNodeId
  answered : ∃ answer, around.isPermitted signerPublicKey voterRole = .ok answer
  sameHash : circuitProposal.circuitHash = proposalVote.circuitHash

theorem votable_of_validateCircuitVote {proposalVote : Protos.CircuitProposalVote}
    {circuitProposal : CircuitProposal} {nodeId : String}
    (validated : validateCircuitVote around proposalVote signerPublicKey circuitProposal
      nodeId = .ok ()) :
    Votable around proposalVote signerPublicKey circuitProposal nodeId := by
  simp only [validateCircuitVote, checkPermission, bind_eq_ok_iff,
    mapError_eq_ok_iff, require_eq_ok_iff] at validated
  obtain ⟨keyInfo, _, _, rfl, _, notRequester, _, notVoted, answer, answered, sameHash⟩ := validated
  exact ⟨notRequester, notVoted, ⟨answer, answered⟩, sameHash⟩

/-- A proposal is open under a name, as a message. -/
def Open (shared : AdminServiceShared) (circuitId : String) (proposal : CircuitProposal) : Prop :=
  ∃ stored, shared.records.proposals.lookup circuitId = some stored ∧
    stored.intoProto = .ok proposal

theorem open_of_votedProposal {circuitId : String} {proposal : CircuitProposal}
    (found : shared.votedProposal circuitId = .ok proposal) :
    shared.Open circuitId proposal := by
  unfold votedProposal getProposal OpenProposals.getProposal ProposalRegistry.getProposal at found
  cases looked : shared.openProposals.proposalRegistry.proposals.lookup circuitId with
  | none =>
    rw [looked] at found
    cases found
  | some stored =>
    cases exported : stored.intoProto with
    | error error => simp [looked, ProposalRegistry.exported, exported, Except.mapError] at found
    | ok proto =>
      simp only [looked, ProposalRegistry.exported, exported,
        Except.mapError, Except.ok.injEq] at found
      exact ⟨stored, looked, found ▸ exported⟩

end AdminServiceShared

/-! ## Calls -/

inductive SharedCall where
  | submit (around : Surroundings) (payload : CircuitManagementPayload)
  | proposeChange (around : Surroundings) (payload : CircuitManagementPayload)
  | commit (around : Surroundings)
  | rollback

namespace SharedCall

variable (formats : Formats)

/-- The state a call leaves behind, whether it fails or not. -/
def perform : SharedCall → AdminServiceShared → AdminServiceShared
  | .submit around payload => finalState (AdminServiceShared.submit formats around payload)
  | .proposeChange around payload =>
    finalState (AdminServiceShared.proposeChange formats around payload)
  | .commit around => finalState (AdminServiceShared.commit formats around)
  | .rollback => finalState AdminServiceShared.rollback

def Step (before : AdminServiceShared) (call : SharedCall) (after : AdminServiceShared) : Prop :=
  after = call.perform formats before

/-- The path and the last state of a sequence of calls. -/
def performAll : List SharedCall → AdminServiceShared →
    List (AdminServiceShared × SharedCall) × AdminServiceShared
  | [], shared => ([], shared)
  | call :: calls, shared =>
    let rest := performAll calls (call.perform formats shared)
    ((shared, call) :: rest.1, rest.2)

theorem run_performAll (calls : List SharedCall) (first : AdminServiceShared) :
    Run (Step formats) first (performAll formats calls first).1
      (performAll formats calls first).2 := by
  induction calls generalizing first with
  | nil => exact Run.start
  | cons call calls ih => exact Run.cons rfl (ih _)

theorem map_snd_performAll (calls : List SharedCall) (first : AdminServiceShared) :
    (performAll formats calls first).1.map Prod.snd = calls := by
  induction calls generalizing first with
  | nil => rfl
  | cons call calls ih => exact congrArg (call :: ·) (ih _)

theorem mem_calls_of_mem_performAll {calls : List SharedCall} {first : AdminServiceShared}
    {visited : AdminServiceShared × SharedCall}
    (member : visited ∈ (performAll formats calls first).1) :
    visited.2 ∈ calls := by
  rw [← map_snd_performAll formats calls first]
  exact List.mem_map_of_mem member

/-- What a call does to the records and to the pending change. -/
inductive Effect (before after : AdminServiceShared) : SharedCall → Prop
  | submitted {around : Surroundings} {payload : CircuitManagementPayload} :
    after.records = before.records →
    after.pendingChanges = before.pendingChanges →
    Effect before after (.submit around payload)
  | refused {around : Surroundings} {payload : CircuitManagementPayload} :
    after.records = before.records →
    after.pendingChanges = before.pendingChanges →
    Effect before after (.proposeChange around payload)
  | proposed {around : Surroundings} {payload : CircuitManagementPayload} {change : Change} :
    before.proposedChange formats around payload = .ok change →
    after.records = before.records →
    after.pendingChanges = some change.context →
    Effect before after (.proposeChange around payload)
  | nothingPending {around : Surroundings} : before.pendingChanges = none →
    after.records = before.records →
    after.pendingChanges = none →
    Effect before after (.commit around)
  | committed {around : Surroundings} {context : CircuitProposalContext} :
    before.pendingChanges = some context →
    AdminServiceShared.Committed context.circuitProposal before.records after.records →
    after.pendingChanges = none →
    Effect before after (.commit around)
  | rolledBack : after.records = before.records → after.pendingChanges = none →
    Effect before after .rollback

theorem effect_of_perform (call : SharedCall) (before : AdminServiceShared) :
    Effect formats before (call.perform formats before) call := by
  cases call with
  | submit around payload =>
    have keeps := submit_keeps_unqueued formats around payload before
    have shown := Ends.finalState keeps
    have sameRecords := congrArg records shown
    have pending := congrArg pendingChanges shown
    exact .submitted sameRecords pending
  | proposeChange around payload =>
    have ends := proposeChange_ends formats around payload before
    rcases ends.outcome with ⟨_, change, computed, _, same⟩ | ⟨_, same⟩
    · have sameRecords := congrArg records same
      have pending := congrArg pendingChanges same
      exact .proposed computed sameRecords pending
    · exact .refused (congrArg records same) (congrArg pendingChanges same)
  | commit around =>
    have emptied := Ends.finalState (commit_ends formats around before)
    have nonePending := congrArg pendingChanges emptied
    have ends := commit_records formats around before
    rcases ends.outcome with
      ⟨_, context, pending, committed⟩ | ⟨_, ⟨empty, same⟩ | ⟨context, pending, committed⟩⟩
    · exact .committed pending committed nonePending
    · exact .nothingPending empty same nonePending
    · exact .committed pending committed nonePending
  | rollback => exact .rolledBack rfl rfl

end SharedCall

/-! ## Requests of a single node -/

def emptyNode (nodeId : String) : AdminServiceShared := .new nodeId .new (.new .new)

/-- The request of node `a` for a circuit of which it is the only member. -/
def soleRequest : CircuitManagementPayload :=
  createPayload (simpleCircuit "c" ["a"]) (asBytes "a") "a" [1]

def proposeAndCommit (around : Surroundings)
    (payload : CircuitManagementPayload) : List SharedCall :=
  [.proposeChange around payload, .commit around]

end Splinter.Admin
