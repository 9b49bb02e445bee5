import Mathlib.Data.String.Basic
import Splinter.Circuits.Handlers

/-!
# The routing state after a restart

The circuit directory is stored without the ids of circuits and nodes, and the
service directory is not stored.  `RestartedAs` says what comes out of this for a
state that is `Routed`.
-/

namespace Splinter.Circuits

open Library

/-! ## Writing and reading -/

def Circuit.reloaded (circuit : Circuit) : Circuit := { circuit with id := "" }

def SplinterNode.reloaded (node : SplinterNode) : SplinterNode := { node with id := "" }

/-- What is read from a directory that has been written.  The admin circuit is
not written and made anew. -/
def CircuitDirectory.reloaded (directory : CircuitDirectory) : CircuitDirectory where
  nodes := mapValues SplinterNode.reloaded directory.nodes
  circuits := mapValues Circuit.reloaded directory.circuits
  adminCircuit := .newAdmin

inductive DirectoryError where
  | indexOutOfBounds
  | commitError (reason : String)
  deriving DecidableEq

/-- The body of the loops of `add_services_to_directory`. -/
def enterService (nodeId circuitId : String) (state : SplinterState)
    (service : ServiceDefinition) : Except DirectoryError SplinterState :=
  if service.allowedNodes.contains nodeId then
    .ok state
  else
    match service.allowedNodes with
    | [] => .error .indexOutOfBounds
    | allowedNode :: _ =>
      match state.node allowedNode with
      | some member =>
        .ok
          (state.addService ⟨circuitId, service.serviceId⟩
            ⟨service.serviceId, none, ⟨allowedNode, member.endpoints⟩⟩)
      | none =>
        .error
          (.commitError
            ("Unable to find allowed node " ++ allowedNode ++
              " when adding service " ++ service.serviceId ++
              " to directory"))

def addServicesToDirectory (nodeId : String) (state : SplinterState) :
    Except DirectoryError SplinterState :=
  (entriesInOrder state.circuits).foldlM
    (fun state entry =>
      entry.2.roster.toList.foldlM (enterService nodeId entry.1) state)
    state

/-- Start a node with a directory that has been written. -/
def restart (nodeId : String) (directory : CircuitDirectory) :
    Except DirectoryError SplinterState :=
  addServicesToDirectory nodeId (.new directory.reloaded)

/-! ## The entries for the services of other nodes -/

/-- The entries of a circuit, where `find` knows the nodes. -/
def remoteServices (nodeId : String) (find : String → Option SplinterNode)
    (circuitId : String) (definitions : List ServiceDefinition) :
    List (ServiceId × Service) :=
  definitions.filterMap fun definition =>
    if definition.allowedNodes.contains nodeId then
      none
    else
      (find (definition.allowedNodes.headD "")).map fun node =>
        (⟨circuitId, definition.serviceId⟩, ⟨definition.serviceId, none, node⟩)

variable {nodeId : String} {state : SplinterState} {service : Service}
  {circuitId : String} {find : String → Option SplinterNode}
  {definitions : List ServiceDefinition} {member : SplinterNode}

theorem mem_remoteServices {entry : ServiceId × Service} :
    entry ∈ remoteServices nodeId find circuitId definitions ↔
      ∃ definition ∈ definitions, nodeId ∉ definition.allowedNodes ∧
        ∃ node, find (definition.allowedNodes.headD "") = some node ∧ entry =
          (⟨circuitId, definition.serviceId⟩, ⟨definition.serviceId, none, node⟩) := by
  unfold remoteServices
  rw [List.mem_filterMap]
  refine exists_congr fun definition => and_congr_right fun _ => ?_
  by_cases here : nodeId ∈ definition.allowedNodes
  · simp [here]
  · simp [here, eq_comm]

theorem remoteServices_agree (unique : ∀ left ∈ definitions, ∀ right ∈ definitions,
    left.serviceId = right.serviceId → left = right) :
    ∀ left ∈ remoteServices nodeId find circuitId definitions,
      ∀ right ∈ remoteServices nodeId find circuitId definitions,
        left.1 = right.1 → left.2 = right.2 := by
  intro left member right member' same
  obtain ⟨definition, listed, _, node, found, rfl⟩ := mem_remoteServices.mp member
  obtain ⟨other, listed', _, node', found', rfl⟩ := mem_remoteServices.mp member'
  obtain rfl := unique definition listed other listed' (congrArg ServiceId.serviceId same)
  rw [Option.some.inj (found.symm.trans found')]

/-- A node of the directory, with the id under which it is found. -/
def restoredNode (directory : CircuitDirectory) (nodeId : String) : Option SplinterNode :=
  (directory.node nodeId).map fun member => ⟨nodeId, member.endpoints⟩

section Entering

variable {nodeId : String} {directory : CircuitDirectory}

theorem foldlM_enterService {circuitId : String} {definitions : List ServiceDefinition}
    {state : SplinterState} (held : state.circuitDirectory = directory)
    (placed : ∀ definition ∈ definitions, definition.allowedNodes ≠ [] ∧
      (directory.node (definition.allowedNodes.headD "")).isSome = true) :
    definitions.foldlM (enterService nodeId circuitId) state = .ok
      ⟨directory, insertAll (remoteServices nodeId (restoredNode directory) circuitId definitions)
        state.serviceDirectory⟩ := by
  induction definitions generalizing state with
  | nil =>
    subst held
    rfl
  | cons definition definitions ih =>
    obtain ⟨⟨nonempty, known⟩, others⟩ := List.forall_mem_cons.mp placed
    rw [List.foldlM_cons]
    unfold remoteServices
    rw [List.filterMap_cons]
    by_cases here : definition.allowedNodes.contains nodeId = true
    · have skipped : enterService nodeId circuitId state definition = .ok state := if_pos here
      rw [skipped, if_pos here]
      exact ih held others
    · obtain ⟨allowedNode, rest, shape⟩ := List.exists_cons_of_ne_nil nonempty
      rw [shape, List.headD_cons] at known
      obtain ⟨member, found⟩ := Option.isSome_iff_exists.mp known
      have looked : state.node allowedNode = some member := by
        rw [← found, ← held]
        rfl
      have entered : enterService nodeId circuitId state definition = .ok
          (state.addService ⟨circuitId, definition.serviceId⟩
            ⟨definition.serviceId, none, ⟨allowedNode, member.endpoints⟩⟩) := by
        unfold enterService
        rw [if_neg here, shape]
        simp only [looked]
      have located : restoredNode directory (definition.allowedNodes.headD "") =
          some ⟨allowedNode, member.endpoints⟩ := by
        rw [shape, List.headD_cons, restoredNode, found]
        rfl
      have after :
          (state.addService ⟨circuitId, definition.serviceId⟩
            ⟨definition.serviceId, none, ⟨allowedNode, member.endpoints⟩⟩).circuitDirectory =
            directory :=
        held
      rw [entered, if_neg here, located]
      exact ih after others

def restoredServices (nodeId : String) (directory : CircuitDirectory)
    (circuits : List (String × Circuit)) : List (ServiceId × Service) :=
  circuits.flatMap fun entry =>
    remoteServices nodeId (restoredNode directory) entry.1 entry.2.roster.toList

theorem foldlM_circuits {circuits : List (String × Circuit)} {state : SplinterState}
    (held : state.circuitDirectory = directory)
    (placed : ∀ entry ∈ circuits, ∀ definition ∈ entry.2.roster.toList,
      definition.allowedNodes ≠ [] ∧
        (directory.node (definition.allowedNodes.headD "")).isSome = true) :
    circuits.foldlM
      (fun state entry =>
        entry.2.roster.toList.foldlM (enterService nodeId entry.1) state)
      state =
      .ok
        ⟨directory, insertAll (restoredServices nodeId directory circuits)
          state.serviceDirectory⟩ := by
  induction circuits generalizing state with
  | nil =>
    subst held
    rfl
  | cons entry circuits ih =>
    obtain ⟨first, others⟩ := List.forall_mem_cons.mp placed
    rw [List.foldlM_cons, foldlM_enterService held first]
    unfold restoredServices
    simp only [List.flatMap_cons, insertAll, List.foldl_append]
    exact ih rfl others

end Entering

/-! ## States that are kept by adding circuits -/

structure EntryOf (definition : ServiceDefinition) (service : Service) :
    Prop where
  serviceId : service.serviceId = definition.serviceId
  unconnected : service.peerId = none
  located : service.node.id = definition.allowedNodes.headD ""

/-- What holds of a state to which validated circuits have been added. -/
structure Routed (nodeId : String) (state : SplinterState) : Prop where
  admin : state.circuitDirectory.adminCircuit = .newAdmin
  nodes :
    ∀ id node, state.node id = some node → node.id = id ∧ id ≠ ""
  circuits : ∀ name circuit, state.circuits.lookup name = some circuit →
    circuit.id = name ∧ name ≠ ""
  unique : ∀ name circuit, state.circuits.lookup name = some circuit →
    ∀ left ∈ circuit.roster.toList, ∀ right ∈ circuit.roster.toList,
      left.serviceId = right.serviceId → left = right
  placed : ∀ name circuit, state.circuits.lookup name = some circuit →
    ∀ definition ∈ circuit.roster.toList, definition.allowedNodes ≠ [] ∧
      (state.node (definition.allowedNodes.headD "")).isSome = true
  entered : ∀ name circuit, state.circuits.lookup name = some circuit →
    ∀ definition ∈ circuit.roster.toList, nodeId ∉ definition.allowedNodes → ∃ service,
      state.service ⟨name, definition.serviceId⟩ = some service ∧ EntryOf definition service

/-- A circuit has the service, and not at this node. -/
def Remote (nodeId : String) (state : SplinterState) (id : ServiceId) : Prop :=
  ∃ circuit, state.circuits.lookup id.circuitName = some circuit ∧
    ∃ definition ∈ circuit.roster.toList,
      nodeId ∉ definition.allowedNodes ∧ definition.serviceId = id.serviceId

/-- The service with the endpoints that the directory has for its node. -/
def Service.relocated (state : SplinterState) (service : Service) : Service :=
  { service with
    node :=
      { service.node with
        endpoints := ((state.node service.node.id).map SplinterNode.endpoints).getD [] } }

structure RestartedAs (nodeId : String) (before after : SplinterState) :
    Prop where
  admin : after.circuit "admin" = before.circuit "admin"
  circuit : ∀ name, name ≠ "admin" → after.circuit name = (before.circuit name).map Circuit.reloaded
  node : ∀ id, after.node id = (before.node id).map SplinterNode.reloaded
  service : ∀ id, Remote nodeId before id →
    after.service id = (before.service id).map (Service.relocated before)
  others : ∀ id, ¬ Remote nodeId before id → after.service id = none

theorem node_reloaded (directory : CircuitDirectory) (id : String) : directory.reloaded.node id =
    (directory.node id).map SplinterNode.reloaded :=
  lookup_mapValues _ _ _

theorem restoredNode_reloaded (directory : CircuitDirectory) (id : String) :
    restoredNode directory.reloaded id = restoredNode directory id := by
  unfold restoredNode
  rw [node_reloaded, Option.map_map]
  rfl

theorem EntryOf.relocated {definition : ServiceDefinition} (entry : EntryOf definition service)
    (known : state.node (definition.allowedNodes.headD "") = some member) :
    service.relocated state =
      ⟨definition.serviceId, none, ⟨definition.allowedNodes.headD "", member.endpoints⟩⟩ := by
  unfold Service.relocated
  dsimp only
  rw [entry.serviceId, entry.unconnected, entry.located, known]
  rfl

structure Storable (directory : CircuitDirectory) : Prop where
  unique : ∀ name circuit, directory.circuits.lookup name = some circuit →
    ∀ left ∈ circuit.roster.toList, ∀ right ∈ circuit.roster.toList,
      left.serviceId = right.serviceId → left = right
  placed : ∀ name circuit, directory.circuits.lookup name = some circuit →
    ∀ definition ∈ circuit.roster.toList, definition.allowedNodes ≠ [] ∧
      (directory.node (definition.allowedNodes.headD "")).isSome = true

/-- The entry that a restart makes for a service of another node. -/
def RestoredEntry (nodeId : String) (directory : CircuitDirectory) (id : ServiceId)
    (service : Service) : Prop :=
  ∃ circuit, directory.circuits.lookup id.circuitName = some circuit ∧
    ∃ definition ∈ circuit.roster.toList,
      nodeId ∉ definition.allowedNodes ∧ definition.serviceId = id.serviceId ∧
        ∃ member, directory.node (definition.allowedNodes.headD "") = some member ∧ service =
          ⟨definition.serviceId, none, ⟨definition.allowedNodes.headD "", member.endpoints⟩⟩

section Storing

variable {nodeId : String} {directory : CircuitDirectory} {id : ServiceId} {service other : Service}

theorem mem_restoredServices_iff : (id, service) ∈ restoredServices nodeId directory.reloaded
    (entriesInOrder directory.reloaded.circuits) ↔
    RestoredEntry nodeId directory id service := by
  unfold restoredServices
  rw [List.mem_flatMap]
  constructor
  · intro found
    obtain ⟨⟨name, circuit⟩, member, listed⟩ := found
    obtain ⟨earlier, looked, rfl⟩ :=
      (lookup_mapValues_eq_some_iff _ _ _ _).mp (mem_entriesInOrder.mp member)
    obtain ⟨definition, inRoster, elsewhere, node, located, same⟩ := mem_remoteServices.mp listed
    cases same
    rw [restoredNode_reloaded] at located
    obtain ⟨member, known, rfl⟩ := Option.map_eq_some_iff.mp located
    exact ⟨earlier, looked, definition, inRoster, elsewhere, rfl, member, known, rfl⟩
  · intro entry
    obtain ⟨circuit, looked, definition, inRoster, elsewhere, sameId, member, known, rfl⟩ := entry
    obtain ⟨name, serviceId⟩ := id
    obtain rfl : definition.serviceId = serviceId := sameId
    refine ⟨(name, circuit.reloaded), ?_, ?_⟩
    · rw [mem_entriesInOrder]
      exact (lookup_mapValues_eq_some_iff _ _ _ _).mpr ⟨circuit, looked, rfl⟩
    · refine mem_remoteServices.mpr ⟨definition, inRoster, elsewhere, _, ?_, rfl⟩
      rw [restoredNode_reloaded]
      exact Option.map_eq_some_iff.mpr ⟨member, known, rfl⟩

variable (storable : Storable directory)

include storable

theorem Storable.entry_eq (entry : RestoredEntry nodeId directory id service)
    (same : RestoredEntry nodeId directory id other) : service = other := by
  obtain ⟨circuit, looked, definition, inRoster, _, sameId, member, known, rfl⟩ := entry
  obtain ⟨circuit', looked', definition', inRoster', _, sameId', member', known', rfl⟩ := same
  cases (looked.symm.trans looked')
  obtain rfl := storable.unique _ _ looked definition inRoster definition' inRoster'
    (sameId.trans sameId'.symm)
  rw [Option.some.inj (known.symm.trans known')]

theorem Storable.restart (nodeId : String) : ∃ after, restart nodeId directory = .ok after ∧
    after.circuitDirectory = directory.reloaded ∧
    ∀ id service, after.service id = some service ↔ RestoredEntry nodeId directory id service := by
  have placed : ∀ entry ∈ entriesInOrder directory.reloaded.circuits,
      ∀ definition ∈ entry.2.roster.toList, definition.allowedNodes ≠ [] ∧
        (directory.reloaded.node (definition.allowedNodes.headD "")).isSome = true := by
    intro entry member definition listed
    obtain ⟨earlier, found, same⟩ :=
      (lookup_mapValues_eq_some_iff _ _ _ _).mp (mem_entriesInOrder.mp member)
    rw [← same] at listed
    obtain ⟨nonempty, known⟩ := storable.placed _ _ found definition listed
    refine ⟨nonempty, ?_⟩
    rw [node_reloaded, Option.isSome_map]
    exact known
  refine ⟨_, foldlM_circuits rfl placed, rfl, fun id service => ?_⟩
  refine (lookup_insertAll ∅ ?_ id service).trans ?_
  · intro left member right member' same
    have entry := mem_restoredServices_iff.mp member
    have entry' := mem_restoredServices_iff.mp member'
    rw [← same] at entry'
    exact storable.entry_eq entry entry'
  · refine (or_iff_left ?_).trans mem_restoredServices_iff
    rw [Finmap.lookup_empty]
    exact fun impossible => nomatch impossible.1

end Storing

theorem Routed.restoredEntry_iff (routed : Routed nodeId state) {id : ServiceId} :
    RestoredEntry nodeId state.circuitDirectory id service ↔ Remote nodeId state id ∧
      ∃ earlier, state.service id = some earlier ∧ earlier.relocated state = service := by
  constructor
  · intro restored
    obtain ⟨circuit, looked, definition, inRoster, elsewhere, sameId, member, known, rfl⟩ :=
      restored
    obtain ⟨present, found, entry⟩ := routed.entered _ _ looked definition inRoster elsewhere
    rw [sameId] at found
    exact ⟨⟨circuit, looked, definition, inRoster, elsewhere, sameId⟩, present, found,
      entry.relocated known⟩
  · intro found
    obtain ⟨⟨circuit, looked, definition, inRoster, elsewhere, sameId⟩,
      earlier, present, rfl⟩ := found
    obtain ⟨entered, found, entry⟩ := routed.entered _ _ looked definition inRoster elsewhere
    rw [sameId] at found
    cases (present.symm.trans found)
    obtain ⟨_, placed⟩ := routed.placed _ _ looked definition inRoster
    obtain ⟨member, known⟩ := Option.isSome_iff_exists.mp placed
    exact ⟨circuit, looked, definition, inRoster, elsewhere, sameId, member, known,
      entry.relocated known⟩

theorem Routed.restart (routed : Routed nodeId state) :
    ∃ after, restart nodeId state.circuitDirectory = .ok after ∧
      RestartedAs nodeId state after := by
  have storable : Storable state.circuitDirectory := ⟨routed.unique, routed.placed⟩
  obtain ⟨⟨directory, services⟩, started, rfl, entries⟩ := storable.restart nodeId
  refine ⟨_, started, ?_⟩
  refine
    { admin := ?_
      circuit := ?_
      node := node_reloaded state.circuitDirectory
      service := ?_
      others := ?_ }
  · have before : state.circuit "admin" = some .newAdmin := by
      unfold SplinterState.circuit CircuitDirectory.circuit
      rw [routed.admin]
      rfl
    rw [before]
    rfl
  · intro name other
    have before : state.circuit name = state.circuits.lookup name := by
      unfold SplinterState.circuit CircuitDirectory.circuit
      rw [routed.admin]
      exact if_neg other
    rw [before, ← lookup_mapValues]
    exact if_neg other
  · intro id remote
    ext service
    rw [Option.map_eq_some_iff]
    rw [entries, routed.restoredEntry_iff, and_iff_right remote]
  · intro id here
    refine Option.eq_none_iff_forall_ne_some.mpr fun service present => ?_
    rw [entries, routed.restoredEntry_iff] at present
    exact here present.1

/-! ## What differs after a restart -/

/-- The state is the same for those who look up circuits, nodes and the
services of other nodes. -/
structure Restored (nodeId : String) (before after : SplinterState) :
    Prop where
  circuit : ∀ name, after.circuit name = before.circuit name
  node : ∀ id, after.node id = before.node id
  service : ∀ id, Remote nodeId before id → after.service id = before.service id

theorem Service.relocated_eq_iff (known : state.node service.node.id = some member) :
    service.relocated state = service ↔ member.endpoints = service.node.endpoints := by
  unfold Service.relocated
  rw [known]
  obtain ⟨serviceId, peerId, ⟨id, endpoints⟩⟩ := service
  simp

namespace RestartedAs

variable {nodeId : String} {before after : SplinterState}
  (restarted : RestartedAs nodeId before after) (routed : Routed nodeId before)

include restarted routed

theorem circuit_eq_iff (name : String) : after.circuit name = before.circuit name ↔
    name = "admin" ∨ before.circuit name = none := by
  by_cases admin : name = "admin"
  · subst admin
    simp [restarted.admin]
  rw [restarted.circuit name admin]
  cases found : before.circuit name with
  | none => simp
  | some circuit =>
    have looked : before.circuits.lookup name = some circuit := by
      unfold SplinterState.circuit CircuitDirectory.circuit at found
      rw [routed.admin] at found
      exact (if_neg admin).symm.trans found
    obtain ⟨named, nonempty⟩ := routed.circuits name circuit looked
    constructor
    · intro same
      have lost : "" = circuit.id := congrArg Circuit.id (Option.some.inj same)
      exact absurd (lost.trans named).symm nonempty
    · intro either
      rcases either with isAdmin | impossible
      · exact absurd isAdmin admin
      · cases impossible

theorem node_eq_iff (id : String) : after.node id = before.node id ↔ before.node id = none := by
  rw [restarted.node id]
  cases found : before.node id with
  | none => simp
  | some node =>
    obtain ⟨named, nonempty⟩ := routed.nodes id node found
    constructor
    · intro same
      have lost : "" = node.id := congrArg SplinterNode.id (Option.some.inj same)
      exact absurd (lost.trans named).symm nonempty
    · exact fun impossible => by cases impossible

theorem service_eq_iff {id : ServiceId} (remote : Remote nodeId before id) :
    ∃ service, before.service id = some service ∧
      (after.service id = some service ↔ (before.node service.node.id).map SplinterNode.endpoints =
        some service.node.endpoints) := by
  have same := restarted.service id remote
  obtain ⟨circuit, looked, definition, inRoster, elsewhere, sameId⟩ := remote
  obtain ⟨name, serviceId⟩ := id
  obtain rfl : definition.serviceId = serviceId := sameId
  obtain ⟨service, found, entry⟩ := routed.entered _ _ looked definition inRoster elsewhere
  obtain ⟨_, placed⟩ := routed.placed _ _ looked definition inRoster
  obtain ⟨member, known⟩ := Option.isSome_iff_exists.mp placed
  refine ⟨service, found, ?_⟩
  rw [← entry.located] at known
  rw [same, found, Option.map_some, Option.some_inj, known,
    Service.relocated_eq_iff known, Option.map_some, Option.some_inj]

end RestartedAs

end Splinter.Circuits
