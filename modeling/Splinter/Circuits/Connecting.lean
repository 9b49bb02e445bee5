import Splinter.Circuits.Handlers

/-!
# Where a service may connect

A service may connect to a node that its roster definition allows, and an admin
service to its own node.  The handler looks at the name of the service first: a
name that starts with `admin::` is allowed on every node.
-/

namespace Splinter.Circuits

open Circuits.Protos

def AdminNamed (serviceId : String) : Prop :=
  "admin::".toList.isPrefixOf serviceId.toList = true

def Roster.allows (nodeId serviceId : String) : Roster → Bool
  | .standard services =>
    (services.find? fun service => service.serviceId = serviceId).any
      fun definition => nodeId ∈ definition.allowedNodes
  | .admin => serviceId = "admin::" ++ nodeId

section Connecting

variable (nodeId endpoint : String) (state : SplinterState)
  (context : MessageContext) (msg : ServiceConnectRequest)

def Connectable (circuit : Circuit) : Prop := state.circuit msg.circuit = some circuit ∧
    circuit.roster.contains msg.serviceId = true ∧ state.service ⟨msg.circuit, msg.serviceId⟩ = none

/-- The circuit has the service, which is not connected, and allows it at the node. -/
def MayConnect : Prop := ∃ circuit, Connectable state msg circuit ∧
    circuit.roster.allows nodeId msg.serviceId = true

instance : Decidable (MayConnect nodeId state msg) := decidable_of_iff
    ((state.circuit msg.circuit).any fun circuit =>
      circuit.roster.contains msg.serviceId &&
        (state.service ⟨msg.circuit, msg.serviceId⟩).isNone &&
          circuit.roster.allows nodeId msg.serviceId)
    (by simp [MayConnect, Connectable, Option.any_eq_true, and_assoc])

/-- The answer is positive and the directory has one entry more. -/
def Connects : Prop := (serviceConnectResponse nodeId endpoint state context msg).1.status = .ok ∧
    (serviceConnectResponse nodeId endpoint state context msg).2 =
      state.addService ⟨msg.circuit, msg.serviceId⟩
        ⟨msg.serviceId, some context.sourcePeerId, ⟨nodeId, [endpoint]⟩⟩

instance : Decidable (Connects nodeId endpoint state context msg) :=
  inferInstanceAs (Decidable (_ ∧ _))

variable {nodeId endpoint state context msg}

theorem allowed_iff {circuit : Circuit} {definition : ServiceDefinition}
    (contains : circuit.roster.contains msg.serviceId = true)
    (defined : connectDefinition nodeId circuit msg.serviceId = some definition) :
    nodeId ∈ definition.allowedNodes ↔ AdminNamed msg.serviceId ∨
      circuit.roster.allows nodeId msg.serviceId = true := by
  unfold connectDefinition at defined
  split at defined
  · rename_i named
    cases defined
    constructor
    · intro _
      exact Or.inl named
    · intro _
      exact List.mem_singleton.mpr rfl
  · rename_i plain
    have unnamed : ¬ AdminNamed msg.serviceId := plain
    cases roster : circuit.roster with
    | standard services =>
      rw [roster, Roster.toList] at defined
      rw [or_iff_right unnamed, Roster.allows, defined, Option.any_some, decide_eq_true_eq]
    | admin =>
      rw [roster] at contains
      exact absurd contains unnamed

theorem connects_iff : Connects nodeId endpoint state context msg ↔
    ∃ circuit, Connectable state msg circuit ∧
      (AdminNamed msg.serviceId ∨ circuit.roster.allows nodeId msg.serviceId = true) := by
  constructor
  · intro connects
    obtain ⟨ok, _⟩ := connects
    unfold serviceConnectResponse at ok
    dsimp only at ok
    split at ok
    · rename_i circuit found
      split at ok
      · rename_i new
        rw [Bool.and_eq_true, Option.isNone_iff_eq_none] at new
        split at ok
        · rename_i definition defined
          split at ok
          · cases ok
          · rename_i allowed
            exact ⟨circuit, ⟨found, new⟩, (allowed_iff new.1 defined).mp (not_not.mp allowed)⟩
        · cases ok
      · split at ok <;> cases ok
    · cases ok
  · intro granted
    obtain ⟨circuit, ⟨found, contains, absent⟩, passes⟩ := granted
    obtain ⟨definition, defined⟩ :=
      Option.isSome_iff_exists.mp (connectDefinition_isSome nodeId contains)
    have allowed := (allowed_iff contains defined).mpr passes
    unfold Connects serviceConnectResponse
    simp [found, contains, absent, defined, allowed]

theorem unchanged_or_connects :
    (serviceConnectResponse nodeId endpoint state context msg).2 = state ∨
      Connects nodeId endpoint state context msg := by
  unfold Connects serviceConnectResponse
  dsimp only
  split
  · split
    · split
      · split
        · exact Or.inl rfl
        · exact Or.inr ⟨rfl, rfl⟩
      · exact Or.inl rfl
    · split <;> exact Or.inl rfl
  · exact Or.inl rfl

/-- The handler is right about a request exactly if the service does not pass
because of its name where it may not connect. -/
theorem connects_iff_mayConnect_iff (nodeId endpoint : String) (state : SplinterState)
    (context : MessageContext) (msg : ServiceConnectRequest) :
    ((Connects nodeId endpoint state context msg ↔ MayConnect nodeId state msg) ∧
        (¬ MayConnect nodeId state msg →
          (serviceConnectResponse nodeId endpoint state context msg).2 = state)) ↔
      ∀ circuit, Connectable state msg circuit → AdminNamed msg.serviceId →
          circuit.roster.allows nodeId msg.serviceId = true := by
  constructor
  · intro right circuit connectable named
    have granted : Connects nodeId endpoint state context msg :=
      connects_iff.mpr ⟨circuit, connectable, Or.inl named⟩
    obtain ⟨other, there, allows⟩ := right.1.mp granted
    cases (connectable.1.symm.trans there.1)
    exact allows
  · intro named
    have same : Connects nodeId endpoint state context msg ↔ MayConnect nodeId state msg := by
      rw [connects_iff]
      refine exists_congr fun circuit => and_congr_right fun connectable => ?_
      exact or_iff_right_of_imp (named circuit connectable)
    refine ⟨same, ?_⟩
    intro refused
    exact unchanged_or_connects.resolve_right fun connects =>
      refused (same.mp connects)

end Connecting

/-- A circuit whose services are allowed on the node `beta`. -/
def betaCircuit : SplinterState := SplinterState.new
    (CircuitDirectory.new.addCircuit "x"
      { id := "x"
        auth := .trust
        members := ["alpha", "beta"]
        roster := .standard [⟨"a", "scabbard", ["beta"], ∅⟩, ⟨"admin::a", "scabbard", ["beta"], ∅⟩]
        persistence := .any
        durability := .noDurability
        routes := .any
        circuitManagementType := "default" })

/-- On the node `alpha` a service of `beta` connects by the name of an admin
service, and so does the admin service of `beta`. -/
theorem admin_name_connects :
    (Connects "alpha" "tcp://alpha" betaCircuit ⟨"peer", []⟩ ⟨"x", "admin::a", ""⟩ ∧
      ¬ MayConnect "alpha" betaCircuit ⟨"x", "admin::a", ""⟩) ∧
    (Connects "alpha" "tcp://alpha" betaCircuit ⟨"peer", []⟩ ⟨"admin", "admin::beta", ""⟩ ∧
      ¬ MayConnect "alpha" betaCircuit ⟨"admin", "admin::beta", ""⟩) := by
  decide +kernel

example : Connects "beta" "tcp://beta" betaCircuit ⟨"peer", []⟩ ⟨"x", "a", ""⟩ ∧
      MayConnect "beta" betaCircuit ⟨"x", "a", ""⟩ ∧
        ¬ MayConnect "alpha" betaCircuit ⟨"x", "a", ""⟩ := by
  decide +kernel

end Splinter.Circuits
