import Splinter.Admin.Acceptance
import Splinter.Library.Maps

/-!
# Commits that fail

A commit changes the open proposals, the splinter state, the circuits that wait
and the events in turn, and nothing is undone when a later step fails.
`failed_commit_untouched_iff` says which failures leave all of them alone: those
that come before the first change.
-/

namespace Splinter.Admin

open Library
open Circuits (SplinterState)

/-- What a commit that fails is to leave as it was. -/
structure Untouched (before after : AdminServiceShared) : Prop where
  splinterState : after.splinterState = before.splinterState
  openProposals : after.openProposals = before.openProposals
  uninitializedCircuits : after.uninitializedCircuits = before.uninitializedCircuits
  runningServices : after.runningServices = before.runningServices
  sentEvents : after.sentEvents = before.sentEvents

namespace AdminServiceShared

variable (formats : Formats) (around : Surroundings)

/-- Nothing is changed before the commit of a change fails: the circuit cannot be
built, the proposal cannot be converted, or what is changed is as it was. -/
def FailsEarly (context : CircuitProposalContext) (shared : AdminServiceShared) : Prop :=
  let circuitProposal := context.circuitProposal
  match checkApproved circuitProposal with
  | .accepted => ∀ built, stateCircuit circuitProposal.getCircuitProposal ≠ .ok built
  | .pending =>
    ∀ stored, Messages.CircuitProposal.fromProto circuitProposal = .ok stored →
      shared.records.proposals.lookup circuitProposal.circuitId = some stored
  | .rejected => shared.records.proposals.lookup circuitProposal.circuitId = none

/-- The circuit is not there yet as it would be added. -/
def IsNew (context : CircuitProposalContext) (shared : AdminServiceShared) : Prop :=
  let circuit := context.circuitProposal.getCircuitProposal
  ∀ built, stateCircuit circuit = .ok built →
    shared.records.circuits.lookup circuit.circuitId ≠ some built

/-! ## The steps of a commit -/

theorem untouched_withProposals_iff (shared : AdminServiceShared)
    (proposals : Circuits.TextMap Messages.CircuitProposal) :
    Untouched shared (shared.withProposals proposals) ↔ proposals = shared.records.proposals := by
  constructor
  · intro same
    exact congrArg (fun opened => opened.proposalRegistry.proposals) same.openProposals
  · rintro rfl
    exact ⟨rfl, rfl, rfl, rfl, rfl⟩

theorem report_ends (circuitProposal : Protos.CircuitProposal)
    (event : Messages.CircuitProposal → Messages.AdminServiceEvent) (shared : AdminServiceShared) :
    Ends (do
      let proposal ← reported circuitProposal
      sendEvent around circuitProposal.getCircuitProposal.circuitManagementType (event proposal))
      shared (fun _ _ => True) fun _ after => after = shared := by
  unfold reported
  rw [ends_bind, ends_fromExcept]
  exact ⟨fun _ _ => trivial, fun _ _ => rfl⟩

/-! ## Whole commits -/

/-- A commit of the change that fails leaves everything alone exactly if it
fails early; where the circuit is there already, if it fails early. -/
def Decided (context : CircuitProposalContext) (shared after : AdminServiceShared) : Prop :=
  (FailsEarly context shared → Untouched shared after) ∧
    (IsNew context shared → Untouched shared after → FailsEarly context shared)

variable {formats around} {context : CircuitProposalContext} {shared after : AdminServiceShared}

theorem decided_of_iff (decided : Untouched shared after ↔ FailsEarly context shared) :
    Decided context shared after :=
  ⟨decided.mpr, fun _ => decided.mp⟩

theorem decided_of_added {built : Circuits.Circuit}
    (approved : checkApproved context.circuitProposal = .accepted)
    (isBuilt : stateCircuit context.circuitProposal.getCircuitProposal = .ok built)
    (added : after.records.circuits = shared.records.circuits.insert built.id built) :
    Decided context shared after := by
  refine ⟨fun early => ?_, fun isNew same => (isNew built isBuilt ?_).elim⟩
  · unfold FailsEarly at early
    simp only [approved] at early
    exact (early built isBuilt).elim
  · have there : after.records.circuits = shared.records.circuits :=
      congrArg SplinterState.circuits same.splinterState
    rw [← there, added, ← (parts_of_stateCircuit isBuilt).1]
    exact Finmap.lookup_insert _

theorem acceptance_fails (approved : checkApproved context.circuitProposal = .accepted)
    (shared : AdminServiceShared) :
    Ends (commitChange formats around context) shared (fun _ _ => True)
      fun _ after => Decided context shared after := by
  unfold commitChange
  simp only [approved]
  rw [ends_bind]
  refine (updateSplinterState_ends _ shared).mono (fun _ updated outcome => ?_)
    fun _ failed outcome => ?_
  · obtain ⟨built, isBuilt, inserted⟩ := outcome
    rw [ends_bind]
    refine (removeProposal_ends _ updated).mono (fun _ removed erased => ?_)
      fun _ _ impossible => impossible.elim
    have circuits : removed.records.circuits = shared.records.circuits.insert built.id built :=
      (congrArg (fun shared => shared.records.circuits) erased).trans
        (congrArg Records.circuits inserted)
    refine (announce_keeps_records formats around context removed).mono (fun _ _ _ => trivial)
      fun _ _ kept => decided_of_added approved isBuilt ?_
    rw [kept, circuits]
  · rcases outcome with ⟨⟨error, failure⟩, rfl⟩ | ⟨built, isBuilt, inserted⟩
    · refine decided_of_iff (iff_of_true ⟨rfl, rfl, rfl, rfl, rfl⟩ ?_)
      unfold FailsEarly
      simp only [approved, failure]
      exact nofun
    · exact decided_of_added approved isBuilt (by rw [inserted])

theorem pending_fails (approved : checkApproved context.circuitProposal = .pending)
    (shared : AdminServiceShared) :
    Ends (commitChange formats around context) shared (fun _ _ => True)
      fun _ after => Decided context shared after := by
  have early : FailsEarly context shared ↔
      ∀ stored, Messages.CircuitProposal.fromProto context.circuitProposal = .ok stored →
        shared.records.proposals.lookup context.circuitProposal.circuitId = some stored := by
    unfold FailsEarly
    simp only [approved]
  have inserted {stored : Messages.CircuitProposal}
      (converted : Messages.CircuitProposal.fromProto context.circuitProposal = .ok stored) :
      Decided context shared (shared.withProposals
        (shared.records.proposals.insert context.circuitProposal.circuitId stored)) := by
    refine decided_of_iff ?_
    rw [early, untouched_withProposals_iff, insert_eq_self_iff, converted]
    exact ⟨fun found _ same => Except.ok.inj same ▸ found, fun found => found stored rfl⟩
  unfold commitChange
  simp only [approved]
  rw [ends_bind]
  refine (addProposal_ends _ shared).mono (fun _ added outcome => ?_) fun _ failed outcome => ?_
  · obtain ⟨stored, converted, rfl⟩ := outcome
    split
    · exact (report_ends around _ _ _).mono (fun _ _ _ => trivial)
        fun _ _ same => same ▸ inserted converted
    · exact (report_ends around _ _ _).mono (fun _ _ _ => trivial)
        fun _ _ same => same ▸ inserted converted
    · exact inserted converted
  · obtain ⟨⟨error, failure⟩, rfl⟩ := outcome
    refine decided_of_iff
      (iff_of_true ⟨rfl, rfl, rfl, rfl, rfl⟩ (early.mpr fun stored converted => ?_))
    cases failure.symm.trans converted

theorem rejection_fails (approved : checkApproved context.circuitProposal = .rejected)
    (shared : AdminServiceShared) :
    Ends (commitChange formats around context) shared (fun _ _ => True)
      fun _ after => Decided context shared after := by
  have erased : Decided context shared (shared.withProposals
      (shared.records.proposals.erase context.circuitProposal.circuitId)) := by
    refine decided_of_iff ?_
    rw [untouched_withProposals_iff, erase_eq_self_iff]
    unfold FailsEarly
    simp only [approved]
  unfold commitChange
  simp only [approved]
  rw [ends_bind]
  refine (removeProposal_ends _ shared).mono (fun _ removed same => ?_)
    fun _ _ impossible => impossible.elim
  subst same
  exact (report_ends around _ _ _).mono (fun _ _ _ => trivial) fun _ _ same => same ▸ erased

/-- A commit that fails leaves the state alone exactly if it fails before its
first change. -/
theorem failed_commit_untouched_iff (formats : Formats) (around : Surroundings)
    (shared : AdminServiceShared) :
    Ends (commit formats around) shared (fun _ _ => True) fun _ after =>
      match shared.pendingChanges with
      | none => Untouched shared after
      | some context => Decided context shared after := by
  unfold commit
  rw [ends_bind, ends_get, ends_bind, ends_set]
  cases pending : shared.pendingChanges with
  | none => exact ⟨rfl, rfl, rfl, rfl, rfl⟩
  | some context =>
    have decided : Ends (commitChange formats around context)
        { shared with pendingChanges := none } (fun _ _ => True)
        fun _ after => Decided context { shared with pendingChanges := none } after := by
      cases approved : checkApproved context.circuitProposal with
      | accepted => exact acceptance_fails approved _
      | pending => exact pending_fails approved _
      | rejected => exact rejection_fails approved _
    refine decided.mono (fun _ _ _ => trivial) fun _ after outcome => ?_
    refine ⟨fun early => ?_, fun isNew same => ?_⟩
    · obtain ⟨state, proposals, circuits, services, events⟩ := outcome.1 early
      exact ⟨state, proposals, circuits, services, events⟩
    · exact outcome.2 isNew ⟨same.1, same.2, same.3, same.4, same.5⟩

/-! ## A message that is not sent -/

def sendingFails : Surroundings := { Surroundings.working with send := fun _ _ => .error ⟨"down"⟩ }

/-- Node `a` is to commit a circuit that `b` has accepted. -/
def acceptedChange : AdminServiceShared :=
  { AdminServiceShared.new "a" .new (.new .new) with
    networkSender := true
    pendingChanges := some
      { circuitProposal :=
        { proposalType := .create
          circuitId := "c"
          circuitHash := ""
          circuitProposal := some (simpleCircuit "c" ["a", "b"])
          votes := [⟨[], .accept, "b"⟩]
          requester := []
          requesterNodeId := "a" }
        action := .circuitProposalVote
        signerPublicKey := [] } }

/-- The circuit is added and reported as accepted, but never initialised. -/
theorem failed_commit_adds_circuit : acceptedChange.splinterState.hasCircuit "c" = false ∧
      Ends (commit .standard sendingFails) acceptedChange (fun _ _ => False)
        fun _ after => after.splinterState.hasCircuit "c" = true ∧ after.sentEvents.length = 1 ∧
          after.uninitializedCircuits = ∅ := by
  decide +kernel

end AdminServiceShared

end Splinter.Admin
