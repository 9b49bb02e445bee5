import Splinter.Admin.Frame
import Splinter.Library.Maps

/-!
# What a commit does to proposals and circuits

A commit takes the pending change.  Depending on the votes it adds the circuit
and drops the proposal, keeps the proposal open, or drops it.  It can fail on
the way; `Committed` lists what it may leave behind.
-/

namespace Splinter.Admin

open Library
open Circuits (TextMap SplinterState)
open Protos (CircuitManagementPayload CircuitProposal)

namespace AdminServiceShared

/-- The open proposals and the circuits of a node. -/
structure Records where
  proposals : TextMap Messages.CircuitProposal
  circuits : TextMap Circuits.Circuit

def records (shared : AdminServiceShared) : Records where
  proposals := shared.openProposals.proposalRegistry.proposals
  circuits := shared.splinterState.circuits

variable (formats : Formats) (around : Surroundings)

/-! ## The parts of a commit -/

/-- The splinter state with the nodes that are added one after the other. -/
def withNodes (nodes : List Circuits.SplinterNode) (state : SplinterState) : SplinterState :=
  { state with
    circuitDirectory :=
      { state.circuitDirectory with
        nodes := insertAll (nodes.map fun node => (node.id, node)) state.circuitDirectory.nodes } }

theorem addNodes_ends (nodes : List Circuits.SplinterNode) (shared : AdminServiceShared) : Ends
    (forM nodes fun member => onSplinterState fun state => state.addNode member.id member) shared
    (fun _ after => after = { shared with splinterState := withNodes nodes shared.splinterState })
    fun _ _ => False := by
  induction nodes generalizing shared with
  | nil => exact rfl
  | cons node nodes ih =>
    rw [List.forM_cons, ends_bind]
    exact ih _

def withProposals (proposals : TextMap Messages.CircuitProposal) (shared : AdminServiceShared) :
    AdminServiceShared :=
  { shared with openProposals := ⟨⟨proposals⟩⟩ }

theorem removeProposal_ends (circuitId : String) (shared : AdminServiceShared) :
    Ends (removeProposal circuitId) shared
      (fun _ after => after = shared.withProposals (shared.records.proposals.erase circuitId))
      fun _ _ => False := by
  obtain ⟨_, isOk⟩ := ProposalRegistry.exported_isOk
    (shared.openProposals.proposalRegistry.proposals.lookup circuitId)
  unfold removeProposal onOpenProposals OpenProposals.removeProposal OpenProposals.update
    ProposalRegistry.removeProposal
  simp only [ends_zoom, ends_mapError, ends_bind, ends_get, ends_set, ends_fromExcept, isOk]
  exact ⟨fun _ _ => rfl, fun _ failed => by cases failed⟩

variable (circuitProposal : CircuitProposal)

theorem addProposal_ends (shared : AdminServiceShared) :
    Ends (addProposal circuitProposal) shared
      (fun _ after => ∃ stored, Messages.CircuitProposal.fromProto circuitProposal = .ok stored ∧
        after = shared.withProposals
          (shared.records.proposals.insert circuitProposal.circuitId stored))
      fun _ after => (∃ error, Messages.CircuitProposal.fromProto circuitProposal = .error error) ∧
        after = shared := by
  obtain ⟨_, isOk⟩ := ProposalRegistry.exported_isOk
    (shared.openProposals.proposalRegistry.proposals.lookup circuitProposal.circuitId)
  unfold addProposal onOpenProposals OpenProposals.addProposal
    OpenProposals.update ProposalRegistry.addProposal
  simp only [ends_zoom, ends_mapError, ends_bind, ends_get, ends_set, ends_fromExcept]
  cases Messages.CircuitProposal.fromProto circuitProposal with
  | error error =>
    refine ⟨fun _ returned => ?_, fun _ _ => ⟨⟨error, rfl⟩, rfl⟩⟩
    cases returned
  | ok stored =>
    simp only [isOk]
    exact ⟨fun _ _ => ⟨stored, rfl, rfl⟩, fun _ failed => by cases failed⟩

/-! ## The outcome of a commit -/

inductive Committed (circuitProposal : CircuitProposal) (before : Records) :
    Records → Prop
  | unchanged : Committed circuitProposal before before
  | added {circuit : Circuits.Circuit} : checkApproved circuitProposal = .accepted →
    stateCircuit circuitProposal.getCircuitProposal = .ok circuit →
    Committed circuitProposal before ⟨before.proposals, before.circuits.insert circuit.id circuit⟩
  | accepted {circuit : Circuits.Circuit} : checkApproved circuitProposal = .accepted →
    stateCircuit circuitProposal.getCircuitProposal = .ok circuit →
    Committed circuitProposal before
      ⟨before.proposals.erase circuitProposal.circuitId, before.circuits.insert circuit.id circuit⟩
  | pending {proposal : Messages.CircuitProposal} : checkApproved circuitProposal = .pending →
    Messages.CircuitProposal.fromProto circuitProposal = .ok proposal →
    Committed circuitProposal before
      ⟨before.proposals.insert circuitProposal.circuitId proposal, before.circuits⟩
  | rejected : checkApproved circuitProposal = .rejected → Committed circuitProposal before
    ⟨before.proposals.erase circuitProposal.circuitId, before.circuits⟩

section Entries

variable {circuitProposal : CircuitProposal} {before after : Records} {Entry : Type} {name : String}

theorem lookup_of_lookup_erase {entries : TextMap Entry} {erased : String} {entry : Entry}
    (found : (entries.erase erased).lookup name = some entry) :
    entries.lookup name = some entry := by
  by_cases same : name = erased
  · subst same
    rw [Finmap.lookup_erase] at found
    cases found
  · rwa [Finmap.lookup_erase_ne same] at found

theorem lookup_of_lookup_insert {entries : TextMap Entry} {inserted : String} {value entry : Entry}
    (found : (entries.insert inserted value).lookup name = some entry) :
    entries.lookup name = some entry ∨ name = inserted ∧ entry = value := by
  by_cases same : name = inserted
  · subst same
    rw [Finmap.lookup_insert] at found
    exact Or.inr ⟨rfl, (Option.some.inj found).symm⟩
  · rw [Finmap.lookup_insert_of_ne _ same] at found
    exact Or.inl found

theorem Committed.proposal_cases {circuitId : String} {stored : Messages.CircuitProposal}
    (committed : Committed circuitProposal before after)
    (found : after.proposals.lookup circuitId = some stored) :
    before.proposals.lookup circuitId = some stored ∨ circuitId = circuitProposal.circuitId ∧
      checkApproved circuitProposal = .pending ∧
      Messages.CircuitProposal.fromProto circuitProposal = .ok stored := by
  cases committed with
  | unchanged => exact Or.inl found
  | added _ _ => exact Or.inl found
  | accepted _ _ => exact Or.inl (lookup_of_lookup_erase found)
  | pending approved converted =>
    rcases lookup_of_lookup_insert found with earlier | ⟨same, rfl⟩
    · exact Or.inl earlier
    · exact Or.inr ⟨same, approved, converted⟩
  | rejected _ => exact Or.inl (lookup_of_lookup_erase found)

/-- A circuit that is there after a commit was there before or is the one of
the proposal, which was accepted. -/
theorem Committed.circuit_cases {circuit : Circuits.Circuit}
    (committed : Committed circuitProposal before after)
    (found : after.circuits.lookup name = some circuit) :
    before.circuits.lookup name = some circuit ∨ name = circuit.id ∧
      checkApproved circuitProposal = .accepted ∧
      stateCircuit circuitProposal.getCircuitProposal = .ok circuit := by
  cases committed with
  | unchanged => exact Or.inl found
  | added approved built | accepted approved built =>
    rcases lookup_of_lookup_insert found with earlier | ⟨same, rfl⟩
    · exact Or.inl earlier
    · exact Or.inr ⟨same, approved, built⟩
  | pending _ _ => exact Or.inl found
  | rejected _ => exact Or.inl found

end Entries

theorem updateSplinterState_ends (circuit : Protos.Circuit) (shared : AdminServiceShared) :
    Ends (updateSplinterState circuit) shared
      (fun _ after =>
        ∃ newCircuit, stateCircuit circuit = .ok newCircuit ∧ after.records =
          ⟨shared.records.proposals, shared.records.circuits.insert newCircuit.id newCircuit⟩)
      fun _ after =>
        (∃ error, stateCircuit circuit = .error error) ∧ after = shared ∨
          ∃ newCircuit, stateCircuit circuit = .ok newCircuit ∧ after.records =
            ⟨shared.records.proposals,
              shared.records.circuits.insert newCircuit.id newCircuit⟩ := by
  unfold updateSplinterState
  rw [ends_bind, ends_fromExcept]
  refine ⟨fun newCircuit built => ?_, fun error failed => Or.inl ⟨⟨error, failed⟩, rfl⟩⟩
  have services : Keeps records
      (forM (circuit.roster.map stateService) (addRemoteService circuit.circuitId)) :=
    Keeps.forM fun _ => addRemoteService_keeps _ (fun _ _ _ => rfl) _
  rw [ends_bind]
  refine (addNodes_ends _ shared).mono (fun _ withNodes same => ?_)
    fun _ _ impossible => impossible.elim
  subst same
  exact (services _).mono (fun _ _ kept => ⟨newCircuit, built, kept⟩)
    fun _ _ kept => Or.inr ⟨newCircuit, built, kept⟩

theorem report_keeps_records (event : Messages.CircuitProposal → Messages.AdminServiceEvent) :
    Keeps records (do
      let proposal ← reported circuitProposal
      sendEvent around circuitProposal.getCircuitProposal.circuitManagementType (event proposal)) :=
  (reported_sendEvent_keeps_unsent around circuitProposal event).map records

variable (context : CircuitProposalContext)

theorem announce_keeps_records :
    Keeps records (do
      let proposal ← reported context.circuitProposal
      sendEvent around context.circuitProposal.getCircuitProposal.circuitManagementType
        (.proposalAccepted proposal context.signerPublicKey)
      sendMemberReady formats around context.circuitProposal.getCircuitProposal
      addUninitializedCircuit around context.circuitProposal) := by
  refine Keeps.bind (Keeps.fromExcept _) fun proposal => ?_
  refine Keeps.bind ((sendEvent_keeps_unsent around _ _).map records) fun _ => ?_
  refine Keeps.bind ((sendMemberReady_keeps_unmailed formats around _).map records) fun _ => ?_
  exact (addUninitializedCircuit_keeps_core around _).map records

theorem commitChange_ends (shared : AdminServiceShared) :
    EndsIn (commitChange formats around context) shared fun after =>
      Committed context.circuitProposal shared.records after.records := by
  have leaves {Result : Type} {program : Method Result} {before : AdminServiceShared}
      (keeps : Keeps records program)
      (committed : Committed context.circuitProposal shared.records before.records) :
      EndsIn program before fun after =>
        Committed context.circuitProposal shared.records after.records :=
    (keeps before).mono (fun _ _ same => same ▸ committed) fun _ _ same => same ▸ committed
  unfold commitChange EndsIn
  dsimp only
  cases approved : checkApproved context.circuitProposal with
  | accepted =>
    rw [ends_bind]
    refine (updateSplinterState_ends _ shared).mono
      (fun _ updated added => ?_) fun _ updated outcome => ?_
    · obtain ⟨circuit, built, inserted⟩ := added
      rw [ends_bind]
      refine (removeProposal_ends _ updated).mono (fun _ removed erased => ?_)
        fun _ _ impossible => impossible.elim
      have reached : removed.records =
          ⟨updated.records.proposals.erase _, updated.records.circuits⟩ := congrArg records erased
      rw [inserted] at reached
      refine leaves (announce_keeps_records formats around context) ?_
      rw [reached]
      exact .accepted approved built
    · rcases outcome with ⟨_, rfl⟩ | ⟨circuit, built, inserted⟩
      · exact .unchanged
      · rw [inserted]
        exact .added approved built
  | pending =>
    rw [ends_bind]
    refine (addProposal_ends _ shared).mono (fun _ added inserted => ?_)
      fun _ added failed => failed.2 ▸ .unchanged
    obtain ⟨proposal, converted, rfl⟩ := inserted
    refine leaves ?_ (.pending approved converted)
    split
    · exact report_keeps_records around _ _
    · exact report_keeps_records around _ _
    · exact Keeps.throw _
  | rejected =>
    rw [ends_bind]
    refine (removeProposal_ends _ shared).mono (fun _ removed erased => ?_)
      fun _ _ impossible => impossible.elim
    subst erased
    exact leaves (report_keeps_records around _ _) (.rejected approved)

theorem commit_records (shared : AdminServiceShared) : Ends (commit formats around) shared
    (fun _ after =>
      ∃ context, shared.pendingChanges = some context ∧
        Committed context.circuitProposal shared.records after.records)
    fun _ after =>
      shared.pendingChanges = none ∧ after.records = shared.records ∨
        ∃ context, shared.pendingChanges = some context ∧
          Committed context.circuitProposal shared.records after.records := by
  unfold commit
  rw [ends_bind, ends_get, ends_bind, ends_set]
  split
  · rename_i context kept
    exact (commitChange_ends formats around context _).mono
      (fun _ _ committed => ⟨context, kept, committed⟩)
      fun _ _ committed => Or.inr ⟨context, kept, committed⟩
  · rename_i empty
    exact Or.inl ⟨empty, rfl⟩

end AdminServiceShared

end Splinter.Admin
