import Splinter.Admin.Restart

/-!
# Looking up circuits

`has_circuit` and `circuit` look at different sets of circuits: only the latter knows the
admin circuit, and it finds it under the id `admin` whatever has been created.
-/

namespace Splinter.Admin

open Library
open Circuits (SplinterState CircuitDirectory)

namespace AdminServiceShared

/-- A circuit is committed for whose creation a request was valid. -/
def Creates (before : AdminServiceShared) (update : CircuitUpdate) (after : AdminServiceShared) :
    Prop :=
  (∃ (validating : AdminServiceShared) (signerPublicKey : Bytes) (requesterNodeId : String),
    validating.splinterState = before.splinterState ∧
      validating.validateCreateCircuit update.around update.circuit signerPublicKey
        requesterNodeId = .ok ()) ∧
    Commits before update after

structure HoldsCommitted (path : List (AdminServiceShared × CircuitUpdate))
    (last : AdminServiceShared) : Prop where
  admin : last.splinterState.circuitDirectory.adminCircuit = .newAdmin
  committed : ∀ visited ∈ path, ∃ built, stateCircuit visited.2.circuit = .ok built ∧
    last.splinterState.circuits.lookup visited.2.circuit.circuitId = some built
  known : ∀ name built, last.splinterState.circuits.lookup name = some built →
    ∃ visited ∈ path, visited.2.circuit.circuitId = name

variable {first last : AdminServiceShared} {path : List (AdminServiceShared × CircuitUpdate)}

theorem hasCircuit_iff (shared : AdminServiceShared) (name : String) :
    shared.splinterState.hasCircuit name = true ↔
      ∃ circuit, shared.splinterState.circuits.lookup name = some circuit := by
  unfold SplinterState.hasCircuit CircuitDirectory.hasCircuit
  rw [decide_eq_true_iff, Finmap.mem_iff]
  rfl

theorem HoldsCommitted.snoc {before after : AdminServiceShared} {update : CircuitUpdate}
    (holds : HoldsCommitted path before) (creates : Creates before update after) :
    HoldsCommitted (path ++ [(before, update)]) after := by
  obtain ⟨⟨validating, signer, requester, same, validated⟩, commits⟩ := creates
  have fresh := (creatable_of_validateCreateCircuit validated).notCreated
  obtain ⟨_, built, isBuilt, rfl⟩ := commits.builds
  have named := (parts_of_stateCircuit isBuilt).1
  rw [same, Bool.eq_false_iff, ne_eq, hasCircuit_iff, not_exists] at fresh
  have lookup := fun name => @circuits_stateWith before.nodeId update.circuit built
    before.splinterState name
  rw [named] at lookup
  refine ⟨holds.admin, ?_, ?_⟩
  · intro visited member
    rcases List.mem_append.mp member with earlier | same
    · obtain ⟨circuit, isCircuit, found⟩ := holds.committed visited earlier
      refine ⟨circuit, isCircuit, ?_⟩
      rw [lookup, if_neg]
      · exact found
      · intro again
        rw [again] at found
        exact fresh circuit found
    · rw [List.mem_singleton.mp same]
      exact ⟨built, isBuilt, by rw [lookup, if_pos rfl]⟩
  · intro name circuit found
    rw [lookup] at found
    split at found
    · rename_i same
      exact ⟨_, List.mem_append_right _ (List.mem_singleton_self _), same.symm⟩
    · obtain ⟨visited, member, named⟩ := holds.known name circuit found
      exact ⟨visited, List.mem_append_left _ member, named⟩

theorem roster_ne_admin {circuit : Protos.Circuit} {built : Circuits.Circuit}
    (isBuilt : stateCircuit circuit = .ok built) :
    built.roster ≠ .admin := by
  rw [(parts_of_stateCircuit isBuilt).2]
  nofun

theorem holds_of_run (fresh : first.splinterState = .new .new) (run : Run Creates first path last) :
    HoldsCommitted path last := by
  induction run with
  | start =>
    refine ⟨by rw [fresh]; rfl, fun _ member => (List.not_mem_nil member).elim, ?_⟩
    intro name built found
    rw [fresh] at found
    cases found
  | snoc _ taken ih => exact ih.snoc taken

/-- A created circuit is found exactly if its name is not `admin`; `has_circuit`
and `circuit` agree on this name once such a circuit has been created. -/
theorem lookup_coherent_iff (fresh : first.splinterState = .new .new)
    (run : Run Creates first path last) :
    (∀ name, (last.splinterState.hasCircuit name = true ↔
        (last.splinterState.circuit name).isSome = true) ↔
      name ≠ "admin" ∨ ∃ visited ∈ path, visited.2.circuit.circuitId = "admin") ∧
    (∀ visited ∈ path, ∃ built, stateCircuit visited.2.circuit = .ok built ∧
      (last.splinterState.circuit visited.2.circuit.circuitId = some built ↔
        visited.2.circuit.circuitId ≠ "admin")) ∧
    ∀ around circuit signerPublicKey requesterNodeId,
      last.validateCreateCircuit around circuit signerPublicKey requesterNodeId = .ok () →
        (last.splinterState.circuit circuit.circuitId = none ↔ circuit.circuitId ≠ "admin") := by
  have holds := holds_of_run fresh run
  have found : ∀ name, last.splinterState.circuit name =
      if name = "admin" then some .newAdmin else last.splinterState.circuits.lookup name := by
    intro name
    unfold SplinterState.circuit CircuitDirectory.circuit
    rw [holds.admin]
    rfl
  refine ⟨?_, ?_, ?_⟩
  · intro name
    rw [hasCircuit_iff, found]
    by_cases admin : name = "admin"
    · subst admin
      have created : (∃ circuit, last.splinterState.circuits.lookup "admin" = some circuit) ↔
          ∃ visited ∈ path, visited.2.circuit.circuitId = "admin" := by
        constructor
        · rintro ⟨circuit, looked⟩
          exact holds.known _ _ looked
        · rintro ⟨visited, member, named⟩
          obtain ⟨built, _, looked⟩ := holds.committed visited member
          exact ⟨built, named ▸ looked⟩
      rw [created]
      simp
    · simp [admin, Option.isSome_iff_exists]
  · intro visited member
    obtain ⟨built, isBuilt, looked⟩ := holds.committed visited member
    refine ⟨built, isBuilt, ?_⟩
    rw [found, looked]
    split
    · rename_i admin
      refine iff_of_false ?_ fun other => other admin
      intro same
      exact roster_ne_admin isBuilt (congrArg Circuits.Circuit.roster (Option.some.inj same)).symm
    · rename_i other
      exact iff_of_true rfl other
  · intro around circuit signer requester validated
    have absent := (creatable_of_validateCreateCircuit validated).notCreated
    rw [Bool.eq_false_iff, ne_eq, hasCircuit_iff, not_exists] at absent
    rw [found]
    by_cases admin : circuit.circuitId = "admin"
    · simp [admin]
    · simpa [admin, Option.eq_none_iff_forall_ne_some] using absent

/-- A circuit of node `a` with the id. -/
def soleCircuit (circuitId : String) : CircuitUpdate := ⟨.working, simpleCircuit circuitId ["a"]⟩

theorem creates_soleCircuit {circuitId : String} {after : AdminServiceShared}
    (valid : (emptyNode "a").validateCreateCircuit .working (simpleCircuit circuitId ["a"])
      (asBytes "a") "a" = .ok ())
    (commits : commitCircuit (soleCircuit circuitId) (emptyNode "a") = some after) :
    Run Creates (emptyNode "a") ([] ++ [(emptyNode "a", soleCircuit circuitId)]) after :=
  .snoc .start ⟨⟨emptyNode "a", asBytes "a", "a", rfl, valid⟩, commits⟩

theorem created_circuit_found : ∃ path last built, Run Creates (emptyNode "a") path last ∧
    stateCircuit (simpleCircuit "c" ["a"]) = .ok built ∧
      last.splinterState.circuit "c" = some built := by
  obtain ⟨after, commits⟩ := Option.isSome_iff_exists.mp
    (by decide +kernel : (commitCircuit (soleCircuit "c") (emptyNode "a")).isSome = true)
  have run := creates_soleCircuit (by decide +kernel) commits
  obtain ⟨_, committed, _⟩ := lookup_coherent_iff rfl run
  obtain ⟨built, isBuilt, found⟩ := committed _ (List.mem_singleton_self _)
  exact ⟨_, after, built, run, isBuilt, found.mpr (by decide)⟩

/-- The id of the admin circuit passes the checks, and the circuit is not found. -/
theorem admin_circuit_shadows : ∃ path last, Run Creates (emptyNode "a") path last ∧
    (emptyNode "a").splinterState.hasCircuit "admin" = false ∧
    ((emptyNode "a").splinterState.circuit "admin").isSome = true ∧
    last.splinterState.hasCircuit "admin" = true ∧
    (last.splinterState.circuit "admin").map Circuits.Circuit.members = some [] := by
  obtain ⟨after, commits⟩ := Option.isSome_iff_exists.mp
    (by decide +kernel : (commitCircuit (soleCircuit "admin") (emptyNode "a")).isSome = true)
  have run := creates_soleCircuit (by decide +kernel) commits
  have holds := holds_of_run rfl run
  refine ⟨_, after, run, by decide +kernel, by decide +kernel, ?_, ?_⟩
  · obtain ⟨built, _, looked⟩ := holds.committed _ (List.mem_singleton_self _)
    exact (hasCircuit_iff _ _).mpr ⟨built, looked⟩
  · unfold SplinterState.circuit CircuitDirectory.circuit
    rw [holds.admin]
    rfl

end AdminServiceShared

end Splinter.Admin
