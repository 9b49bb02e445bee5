import Splinter.Admin.Requests

/-!
# Stored proposals are read back unchanged

A proposal is converted when it enters the registry of open proposals and
converted back when it is read.  Nothing is lost, so the hash that a vote is
expected to lead to does not depend on the node that computes it.
-/

namespace Splinter.Admin

open Library Messages.CircuitProposal ProposalRegistry
open Protos (CircuitManagementPayload CircuitProposal)

namespace OpenProposals

/-- A change of the open proposals. -/
inductive Change where
  | add (circuitProposal : CircuitProposal)
  | remove (circuitId : String)

namespace Change

def circuitId : Change → String
  | .add circuitProposal => circuitProposal.circuitId
  | .remove circuitId => circuitId

/-- The open proposals a change leaves behind, whether it fails or not. -/
def perform : Change → OpenProposals → OpenProposals
  | .add circuitProposal => finalState (OpenProposals.addProposal circuitProposal)
  | .remove circuitId => finalState (OpenProposals.removeProposal circuitId)

def performAll (changes : List Change) (openProposals : OpenProposals) : OpenProposals :=
  changes.foldl (fun current change => change.perform current) openProposals

end Change

variable {openProposals : OpenProposals}

theorem finalState_update {Result : Type}
    (change : ProposalRegistry → Except OpenProposalError Result × ProposalRegistry) :
    finalState (update change) openProposals = ⟨(change openProposals.proposalRegistry).2⟩ := by
  have ends : EndsIn (update change) openProposals fun after =>
      after = ⟨(change openProposals.proposalRegistry).2⟩ := by
    unfold update
    simp only [ends_bind, ends_get, ends_set, ends_fromExcept]
    exact ⟨fun _ _ => trivial, fun _ _ => trivial⟩
  exact ends.finalState

theorem getProposal_add {circuitProposal : CircuitProposal} {stored : Messages.CircuitProposal}
    (converted : Messages.CircuitProposal.fromProto circuitProposal = .ok stored) :
    ((Change.add circuitProposal).perform openProposals).getProposal
      circuitProposal.circuitId = .ok (some circuitProposal) := by
  have exported := Messages.CircuitProposal.intoProto_of_fromProto converted
  simp only [Change.perform, addProposal, finalState_update,
    ProposalRegistry.addProposal, converted]
  simp [getProposal, ProposalRegistry.getProposal, ProposalRegistry.exported, exported]

theorem getProposal_of_ne {change : Change} {circuitId : String}
    (different : change.circuitId ≠ circuitId) :
    (change.perform openProposals).getProposal circuitId = openProposals.getProposal circuitId := by
  cases change with
  | add circuitProposal =>
    have other : circuitId ≠ circuitProposal.circuitId := different.symm
    simp only [Change.perform, addProposal, finalState_update, ProposalRegistry.addProposal]
    cases Messages.CircuitProposal.fromProto circuitProposal with
    | error error => rfl
    | ok stored =>
      simp only [getProposal, ProposalRegistry.getProposal]
      rw [Finmap.lookup_insert_of_ne _ other]
  | remove removed =>
    have other : circuitId ≠ removed := different.symm
    simp only [Change.perform, removeProposal, finalState_update,
      ProposalRegistry.removeProposal, getProposal,
      ProposalRegistry.getProposal]
    rw [Finmap.lookup_erase_ne other]

theorem getProposal_performAll {changes : List Change} {circuitId : String}
    (different : ∀ change ∈ changes, change.circuitId ≠ circuitId) :
    (Change.performAll changes openProposals).getProposal circuitId =
      openProposals.getProposal circuitId := by
  induction changes generalizing openProposals with
  | nil => rfl
  | cons change changes ih =>
    have first := different change (List.mem_cons_self ..)
    have rest : ∀ other ∈ changes, other.circuitId ≠ circuitId :=
      fun other member => different other (List.mem_cons_of_mem _ member)
    exact (ih rest).trans (getProposal_of_ne first)

end OpenProposals

theorem AdminServiceShared.expectedHash_of_votedChange
    {formats : Formats} {around : Surroundings} {shared : AdminServiceShared}
    {payload : CircuitManagementPayload}
    {header : CircuitManagementPayload.Header} {change : Change} {proposal : CircuitProposal}
    (stored : shared.openProposals.getProposal
      payload.getCircuitProposalVote.circuitId = .ok (some proposal))
    (voted : shared.votedChange formats around payload header = .ok change) :
    hashCircuitProposal formats
      { proposal with
        votes := proposal.votes ++ [castVote payload.getCircuitProposalVote header] } =
      .ok change.expectedHash := by
  obtain ⟨openProposal, found, _, expectedHash, hashed, rfl⟩ :=
    (votedChange_eq_ok_iff header change).mp voted
  have same : openProposal = proposal := by
    unfold votedProposal getProposal at found
    rw [stored] at found
    exact (Except.ok.inj found).symm
  rw [← same]
  exact hashed

/-- The conversions between protobuf and native proposals are inverse to each other.  A stored
proposal is read back unchanged after changes of other circuits, and a vote on it is expected to
lead to the hash of the proposal with that vote. -/
theorem proposals_converted_lossless (formats : Formats) :
    (∀ proposal : Messages.CircuitProposal, ∃ proto, proposal.intoProto = .ok proto ∧
        Messages.CircuitProposal.fromProto proto = .ok proposal) ∧
      (∀ proto proposal, Messages.CircuitProposal.fromProto proto = .ok proposal →
          proposal.intoProto = .ok proto) ∧
      ∀ (proto : CircuitProposal) (openProposals : OpenProposals)
        (later : List OpenProposals.Change) (shared : AdminServiceShared),
        (∃ proposal, Messages.CircuitProposal.fromProto proto = .ok proposal) →
        (∀ change ∈ later, change.circuitId ≠ proto.circuitId) →
        shared.openProposals = OpenProposals.Change.performAll later
              ((OpenProposals.Change.add proto).perform openProposals) →
        shared.getProposal proto.circuitId = .ok (some proto) ∧ ∀ around payload header change,
            payload.getCircuitProposalVote.circuitId = proto.circuitId →
            shared.votedChange formats around payload header = .ok change →
              hashCircuitProposal formats
                  { proto with
                    votes := proto.votes ++
                        [AdminServiceShared.castVote payload.getCircuitProposalVote header] } =
                .ok change.expectedHash := by
  refine ⟨fun proposal => ?_, fun proto proposal => ?_, ?_⟩
  · obtain ⟨proto, converted⟩ := intoProto_isOk proposal
    exact ⟨proto, converted, fromProto_of_intoProto converted⟩
  · exact intoProto_of_fromProto
  · intro proto openProposals later shared convertible different same
    obtain ⟨proposal, converted⟩ := convertible
    have stored : shared.openProposals.getProposal proto.circuitId = .ok (some proto) := by
      rw [same, OpenProposals.getProposal_performAll different]
      exact OpenProposals.getProposal_add converted
    constructor
    · unfold AdminServiceShared.getProposal
      rw [stored]
      rfl
    · intro around payload header change voted
      rw [← voted] at stored
      exact AdminServiceShared.expectedHash_of_votedChange stored

def headerOf (node : String) (action : CircuitManagementPayload.Action) :
    CircuitManagementPayload.Header where
  action := action
  requester := asBytes node
  payloadSha512 := []
  requesterNodeId := node

/-- The proposal of node `a` for the circuit `c` with node `b`. -/
def proposalOfA : CircuitProposal :=
  AdminServiceShared.createdProposal (simpleCircuit "c" ["a", "b"]) "00"
    (headerOf "a" .circuitCreateRequest)

/-- Node `b` has stored the proposal, and the one of another circuit has been removed since. -/
def storing : AdminServiceShared :=
  { emptyNode "b" with
    openProposals := OpenProposals.Change.performAll [.remove "d"]
      ((OpenProposals.Change.add proposalOfA).perform .new) }

def voteOfB : CircuitManagementPayload :=
  votePayload ⟨"c", "00", .accept⟩ (asBytes "b") "b" [1]

theorem stored_proposal_voted_on : storing.getProposal "c" = .ok (some proposalOfA) ∧ ∃ change,
    storing.votedChange .standard .working voteOfB (headerOf "b" .circuitProposalVote) =
        .ok change ∧
      hashCircuitProposal .standard
          { proposalOfA with
            votes := proposalOfA.votes ++ [AdminServiceShared.castVote
              voteOfB.getCircuitProposalVote (headerOf "b" .circuitProposalVote)] } =
        .ok change.expectedHash := by
  obtain ⟨_, _, stored⟩ := proposals_converted_lossless .standard
  obtain ⟨found, hashed⟩ := stored proposalOfA .new [.remove "d"] storing
    ⟨_, rfl⟩ (by simp [OpenProposals.Change.circuitId, proposalOfA,
      AdminServiceShared.createdProposal, simpleCircuit]) rfl
  refine ⟨found, ?_⟩
  have returns : (storing.votedChange .standard .working voteOfB
      (headerOf "b" .circuitProposalVote)).isOk = true := by
    decide +kernel
  generalize voted : storing.votedChange .standard .working voteOfB
    (headerOf "b" .circuitProposalVote) = outcome at returns ⊢
  cases outcome with
  | error error => cases returns
  | ok change => exact ⟨change, rfl, hashed _ _ _ change rfl voted⟩

end Splinter.Admin
