import Splinter.Admin.Acceptance
import Splinter.Circuits.Restart

/-!
# Restarting a node

`update_splinter_state` adds a validated circuit to the splinter state: its
members, itself, and entries for the services that other nodes run.  What is
there after a restart is compared with what these calls have built.
-/

namespace Splinter.Admin

open Library
open Circuits (SplinterState SplinterNode ServiceDefinition ServiceId
  Service CircuitDirectory Storable Routed Remote Restored EntryOf RestartedAs
  remoteServices restart)

/-! ## What the validation gives -/

/-- What else the validation of a circuit establishes. -/
structure WellFormed (nodeId : String) (circuit : Protos.Circuit) : Prop where
  valid : Valid circuit
  named : circuit.circuitId ≠ ""
  identified : ∀ member ∈ circuit.members, member.nodeId ≠ ""
  includes : nodeId ∈ circuit.members.map Protos.SplinterNode.nodeId
  allowed : ∀ service ∈ circuit.roster, service.allowedNodes ≠ []
  unique : (circuit.roster.map Protos.SplinterService.serviceId).Nodup

/-- Each member is there once, and each service is on one of them. -/
structure Unambiguous (nodeId : String) (circuit : Protos.Circuit) : Prop
    extends WellFormed nodeId circuit where
  distinct : (circuit.members.map Protos.SplinterNode.nodeId).Nodup
  single : ∀ service ∈ circuit.roster, ∃ member ∈ circuit.members,
    service.allowedNodes = [member.nodeId]

theorem nodup_of_validateMembers {nodes : List Protos.SplinterNode}
    {members endpoints result : List String}
    (validated : validateMembers nodes members endpoints = .ok result)
    (distinct : members.Nodup) : result.Nodup := by
  induction nodes generalizing members endpoints with
  | nil =>
    cases validated
    exact distinct
  | cons node nodes ih =>
    simp only [validateMembers, bind_eq_ok_iff, require_eq_ok_iff] at validated
    obtain ⟨_, _, _, new, _, _, _, _, rest⟩ := validated
    apply ih rest
    rw [← List.concat_eq_append]
    exact distinct.concat new

theorem nodeId_ne_of_validateMembers {nodes : List Protos.SplinterNode}
    {members endpoints result : List String}
    (validated : validateMembers nodes members endpoints = .ok result) :
    ∀ node ∈ nodes, node.nodeId ≠ "" := by
  induction nodes generalizing members endpoints with
  | nil => exact List.forall_mem_nil _
  | cons node nodes ih =>
    simp only [validateMembers, bind_eq_ok_iff, require_eq_ok_iff] at validated
    obtain ⟨_, named, _, _, _, _, _, _, rest⟩ := validated
    exact List.forall_mem_cons.mpr ⟨named, ih rest⟩

theorem unique_of_validateServices
    {members services : List String} {roster : List Protos.SplinterService}
    (validated : validateServices members roster services = .ok ()) :
    (∀ service ∈ roster, service.allowedNodes.length = 1 ∧ service.serviceId ∉ services) ∧
      (roster.map Protos.SplinterService.serviceId).Nodup := by
  induction roster generalizing services with
  | nil => exact ⟨List.forall_mem_nil _, List.nodup_nil⟩
  | cons service roster ih =>
    simp only [validateServices, bind_eq_ok_iff, require_eq_ok_iff] at validated
    obtain ⟨_, nonempty, _, most, _, _, _, _, _, new, rest⟩ := validated
    obtain ⟨others, nodup⟩ := ih rest
    have one : service.allowedNodes.length = 1 :=
      le_antisymm most (List.length_pos_iff.mpr nonempty)
    refine ⟨List.forall_mem_cons.mpr ⟨⟨one, new⟩, ?_⟩, ?_⟩
    · intro other member
      obtain ⟨allowed, different⟩ := others other member
      exact ⟨allowed, fun listed => different (List.mem_append_left _ listed)⟩
    · rw [List.map_cons, List.nodup_cons]
      refine ⟨?_, nodup⟩
      intro member
      obtain ⟨other, listed, same⟩ := List.mem_map.mp member
      refine (others other listed).2 (List.mem_append_right _ ?_)
      exact List.mem_singleton.mpr same

theorem unambiguous_of_validateCircuit {nodeId : String} {circuit : Protos.Circuit}
    (validated : validateCircuit nodeId circuit = .ok ()) :
    Unambiguous nodeId circuit := by
  have valid := valid_of_validateCircuit validated
  simp only [validateCircuit, bind_eq_ok_iff, require_eq_ok_iff] at validated
  obtain ⟨_, _, _, _, _, _, _, _, _, named, _, _,
    members, collected, _, _, _, includes, _, _, _, services, _⟩ := validated
  have same := validateMembers_returns_members collected
  rw [List.nil_append] at same
  subst same
  obtain ⟨allowed, unique⟩ := unique_of_validateServices services
  have single (service) (listed : service ∈ circuit.roster) :
      ∃ member ∈ circuit.members, service.allowedNodes = [member.nodeId] := by
    obtain ⟨node, only⟩ := List.length_eq_one_iff.mp (allowed service listed).1
    obtain ⟨_, _, shape, placed⟩ := valid.placed service listed
    cases only.symm.trans shape
    obtain ⟨member, isMember, rfl⟩ := List.mem_map.mp placed
    exact ⟨member, isMember, only⟩
  have nonempty (service) (listed : service ∈ circuit.roster) : service.allowedNodes ≠ [] := by
    obtain ⟨_, _, only⟩ := single service listed
    rw [only]
    exact List.cons_ne_nil _ _
  exact
    ⟨⟨valid, named, nodeId_ne_of_validateMembers collected, includes, nonempty, unique⟩,
      nodup_of_validateMembers collected List.nodup_nil, single⟩

/-! ## What is built -/

namespace AdminServiceShared

variable {around : Surroundings}

def stateWith (nodeId : String) (circuit : Protos.Circuit)
    (built : Circuits.Circuit) (state : SplinterState) : SplinterState :=
  let directory : CircuitDirectory :=
    { state.circuitDirectory with
      nodes := insertAll (circuit.members.map fun member => (member.nodeId, stateNode member))
        state.circuitDirectory.nodes
      circuits := state.circuitDirectory.circuits.insert built.id built }
  { circuitDirectory := directory
    serviceDirectory := insertAll
      (remoteServices nodeId directory.node circuit.circuitId (circuit.roster.map stateService))
      state.serviceDirectory }

theorem addRemoteServices_ends (circuitId : String)
    (services : List ServiceDefinition) (shared : AdminServiceShared) :
    Ends (forM services (addRemoteService circuitId)) shared
      (fun _ after =>
        after =
          { shared with
            splinterState :=
              { shared.splinterState with
                serviceDirectory := insertAll
                    (remoteServices shared.nodeId
                      shared.splinterState.circuitDirectory.node circuitId
                      services)
                    shared.splinterState.serviceDirectory } })
      fun _ _ => True := by
  induction services generalizing shared with
  | nil => exact rfl
  | cons service services ih =>
    rw [List.forM_cons, ends_bind]
    unfold addRemoteService
    rw [ends_bind, ends_get]
    unfold remoteServices
    rw [List.filterMap_cons]
    by_cases here : service.allowedNodes.contains shared.nodeId = true
    · rw [if_pos here, if_pos here, ends_pure]
      exact ih shared
    · rw [if_neg here, if_neg here]
      split
      · exact trivial
      · rename_i node _ shape
        cases found : shared.splinterState.node node with
        | none => exact trivial
        | some member =>
          have looked : shared.splinterState.circuitDirectory.node node = some member := found
          rw [ends_set, shape, List.headD_cons, looked]
          exact ih _

theorem updateSplinterState_builds (circuit : Protos.Circuit) (shared : AdminServiceShared) :
    Ends (updateSplinterState circuit) shared
      (fun _ after =>
        ∃ built, stateCircuit circuit = .ok built ∧ after =
          { shared with
            splinterState := stateWith shared.nodeId circuit built shared.splinterState })
      fun _ _ => True := by
  unfold updateSplinterState
  rw [ends_bind, ends_fromExcept]
  refine ⟨fun built isBuilt => ?_, fun _ _ => trivial⟩
  rw [ends_bind]
  refine (addNodes_ends _ shared).mono (fun _ added nodesAdded => ?_) fun _ _ _ => trivial
  subst nodesAdded
  refine (addRemoteServices_ends _ _ _).mono (fun _ after isAfter => ⟨built, isBuilt, ?_⟩)
    fun _ _ _ => trivial
  rw [isAfter, stateWith, withNodes, List.map_map]
  rfl

theorem roster_of_stateCircuit {circuit : Protos.Circuit} {built : Circuits.Circuit}
    (isBuilt : stateCircuit circuit = .ok built) :
    built.roster.toList = circuit.roster.map stateService := by
  rw [(parts_of_stateCircuit isBuilt).2]
  rfl

/-! ## What every update keeps -/

section Keeping

variable {nodeId : String} {circuit : Protos.Circuit}
  {built : Circuits.Circuit} {state : SplinterState}

theorem isSome_node_stateWith {id : String} :
    ((stateWith nodeId circuit built state).node id).isSome = true ↔
      id ∈ circuit.members.map Protos.SplinterNode.nodeId ∨ (state.node id).isSome = true := by
  refine isSome_lookup_insertAll.trans ?_
  rw [List.map_map]
  rfl

theorem circuits_stateWith (name : String) :
    (stateWith nodeId circuit built state).circuits.lookup name =
      if name = built.id then some built else state.circuits.lookup name :=
  lookup_insert_eq _ _ _ _

theorem service_stateWith_of_unlisted {id : ServiceId}
    (unlisted : ∀ service ∈ circuit.roster, id = ⟨circuit.circuitId, service.serviceId⟩ →
      nodeId ∈ service.allowedNodes) :
    (stateWith nodeId circuit built state).service id = state.service id := by
  refine lookup_insertAll_of_notMem ?_
  intro touched
  obtain ⟨entry, listed, same⟩ := List.mem_map.mp touched
  obtain ⟨definition, inRoster, elsewhere, _, _, rfl⟩ := Circuits.mem_remoteServices.mp listed
  obtain ⟨service, present, rfl⟩ := List.mem_map.mp inRoster
  exact elsewhere (unlisted service present same.symm)

theorem service_stateWith_of_ne {id : ServiceId} (other : id.circuitName ≠ circuit.circuitId) :
    (stateWith nodeId circuit built state).service id = state.service id :=
  service_stateWith_of_unlisted fun _ _ same => absurd (congrArg ServiceId.circuitName same) other

variable (wellFormed : Unambiguous nodeId circuit) (routed : Routed nodeId state)

include wellFormed

theorem node_of_member {member : Protos.SplinterNode} (listed : member ∈ circuit.members) :
    (stateWith nodeId circuit built state).node member.nodeId = some (stateNode member) := by
  refine (lookup_insertAll _ ?_ _ _).mpr (Or.inl (List.mem_map.mpr ⟨member, listed, rfl⟩))
  intro left entry right entry' same
  obtain ⟨node, present, rfl⟩ := List.mem_map.mp entry
  obtain ⟨node', present', rfl⟩ := List.mem_map.mp entry'
  rw [List.inj_on_of_nodup_map wellFormed.distinct present present' same]

theorem unique_stateServices : ∀ left ∈ circuit.roster.map stateService,
    ∀ right ∈ circuit.roster.map stateService, left.serviceId = right.serviceId → left = right := by
  intro left member right member' same
  obtain ⟨service, listed, rfl⟩ := List.mem_map.mp member
  obtain ⟨other, listed', rfl⟩ := List.mem_map.mp member'
  rw [List.inj_on_of_nodup_map wellFormed.unique listed listed' same]

theorem placed_stateWith {definition : ServiceDefinition}
    (listed : definition ∈ circuit.roster.map stateService) :
    definition.allowedNodes ≠ [] ∧
      ((stateWith nodeId circuit built state).node
        (definition.allowedNodes.headD "")).isSome = true := by
  obtain ⟨service, present, rfl⟩ := List.mem_map.mp listed
  obtain ⟨_, _, shape, placed⟩ := wellFormed.valid.placed service present
  refine ⟨wellFormed.allowed service present, isSome_node_stateWith.mpr (Or.inl ?_)⟩
  rw [stateService, shape]
  exact placed

theorem storable_stateWith (isBuilt : stateCircuit circuit = .ok built)
    (storable : Storable state.circuitDirectory) :
    Storable (stateWith nodeId circuit built state).circuitDirectory := by
  have roster := roster_of_stateCircuit isBuilt
  refine ⟨?_, ?_⟩
  all_goals
    intro name found looked
    replace looked := (circuits_stateWith name).symm.trans looked
    split at looked
  -- In each field the circuit is the new one or an earlier one.
  · cases looked
    rw [roster]
    exact unique_stateServices wellFormed
  · exact storable.unique name found looked
  · cases looked
    rw [roster]
    exact fun definition listed => placed_stateWith wellFormed listed
  · intro definition listed
    obtain ⟨nonempty, known⟩ := storable.placed name found looked definition listed
    exact ⟨nonempty, isSome_node_stateWith.mpr (Or.inr known)⟩

theorem service_stateWith {service : Protos.SplinterService} {member : Protos.SplinterNode}
    (listed : service ∈ circuit.roster) (isMember : member ∈ circuit.members)
    (only : service.allowedNodes = [member.nodeId]) (elsewhere : member.nodeId ≠ nodeId) :
    (stateWith nodeId circuit built state).service ⟨circuit.circuitId, service.serviceId⟩ =
      some ⟨service.serviceId, none, stateNode member⟩ := by
  refine (lookup_insertAll _ ?_ _ _).mpr (Or.inl ?_)
  · exact Circuits.remoteServices_agree (unique_stateServices wellFormed)
  · have known : (stateWith nodeId circuit built state).node
        (service.allowedNodes.headD "") = some (stateNode member) := by
      rw [only]
      exact node_of_member wellFormed isMember
    refine Circuits.mem_remoteServices.mpr
      ⟨stateService service, List.mem_map_of_mem listed, ?_, _, known, rfl⟩
    simpa [stateService, only] using elsewhere.symm

include routed

theorem node_stateWith {id : String} {node : SplinterNode}
    (found : (stateWith nodeId circuit built state).node id = some node) :
    node.id = id ∧ id ≠ "" := by
  rcases mem_of_lookup_insertAll found with added | earlier
  · obtain ⟨member, listed, same⟩ := List.mem_map.mp added
    cases same
    exact ⟨rfl, wellFormed.identified member listed⟩
  · exact routed.nodes id node earlier

theorem routed_stateWith (isBuilt : stateCircuit circuit = .ok built) :
    Routed nodeId (stateWith nodeId circuit built state) := by
  have named := (parts_of_stateCircuit isBuilt).1
  have roster := roster_of_stateCircuit isBuilt
  have storable := storable_stateWith wellFormed isBuilt ⟨routed.unique, routed.placed⟩
  refine
    { admin := routed.admin
      nodes := fun _ _ found => node_stateWith wellFormed routed found
      circuits := ?_
      unique := storable.unique
      placed := storable.placed
      entered := ?_ }
  all_goals
    intro name found looked
    rw [circuits_stateWith] at looked
    split at looked
  · rename_i same
    cases looked
    exact ⟨same.symm, same.trans named ▸ wellFormed.named⟩
  · exact routed.circuits name found looked
  · rename_i same
    cases looked
    rw [roster, same, named]
    intro definition listed elsewhere
    obtain ⟨service, present, rfl⟩ := List.mem_map.mp listed
    obtain ⟨member, isMember, only⟩ := wellFormed.single service present
    have other : member.nodeId ≠ nodeId := by simpa [stateService, only, eq_comm] using elsewhere
    refine ⟨_, service_stateWith wellFormed present isMember only other, rfl, rfl, ?_⟩
    simp [stateService, stateNode, only]
  · rename_i other
    intro definition listed elsewhere
    rw [service_stateWith_of_ne (named ▸ other)]
    exact routed.entered name found looked definition listed elsewhere

end Keeping

/-! ## A validated circuit -/

structure Enters (nodeId : String) (circuit : Protos.Circuit) (before after : SplinterState) :
    Prop where
  members : ∀ member ∈ circuit.members,
    after.node member.nodeId = some ⟨member.nodeId, [member.endpoint]⟩
  placed : ∀ service ∈ circuit.roster, ∃ member ∈ circuit.members,
    service.allowedNodes = [member.nodeId]
  distinct : (circuit.roster.map Protos.SplinterService.serviceId).Nodup
  entries : ∀ service ∈ circuit.roster, ∀ member ∈ circuit.members,
    service.allowedNodes = [member.nodeId] → member.nodeId ≠ nodeId →
      after.service ⟨circuit.circuitId, service.serviceId⟩ =
        some ⟨service.serviceId, none, ⟨member.nodeId, [member.endpoint]⟩⟩
  others : ∀ id,
    (∀ service ∈ circuit.roster, id = ⟨circuit.circuitId, service.serviceId⟩ →
      nodeId ∈ service.allowedNodes) →
    after.service id = before.service id

/-- A circuit that this node has validated is added without a failure. -/
theorem validated_circuit_enters (shared : AdminServiceShared) {circuit : Protos.Circuit}
    (validated : validateCircuit shared.nodeId circuit = .ok ()) :
    ∃ after, (updateSplinterState circuit).run shared = .ok () after ∧
      Enters shared.nodeId circuit shared.splinterState after.splinterState := by
  have wellFormed := unambiguous_of_validateCircuit validated
  have ends := (updateSplinterState_returns circuit shared).and
      (updateSplinterState_builds circuit shared)
  unfold Ends at ends
  cases ran : (updateSplinterState circuit).run shared with
  | error _ _ =>
    rw [ran] at ends
    exact (ends.1 (enterable_of_valid wellFormed.valid shared)).elim
  | ok _ after =>
    rw [ran] at ends
    obtain ⟨_, built, _, rfl⟩ := ends
    exact ⟨_, rfl,
        { members := fun _ listed => node_of_member wellFormed listed
          placed := wellFormed.single
          distinct := wellFormed.unique
          entries := fun _ listed _ => service_stateWith wellFormed listed
          others := fun _ => service_stateWith_of_unlisted }⟩

theorem simple_circuit_enters : ∃ after,
      (updateSplinterState (simpleCircuit "c" ["a", "b"])).run (emptyNode "a") =
        .ok () after ∧
      Enters "a" (simpleCircuit "c" ["a", "b"]) (emptyNode "a").splinterState after.splinterState :=
  validated_circuit_enters (emptyNode "a") (by decide)

/-! ## Committing circuits and starting again -/

/-- A circuit that is committed, with the surroundings of the call. -/
structure CircuitUpdate where
  around : Surroundings
  circuit : Protos.Circuit

/-- Commit a circuit if it is valid. -/
def commitCircuit (update : CircuitUpdate) (before : AdminServiceShared) :
    Option AdminServiceShared :=
  match validateCircuit before.nodeId update.circuit with
  | .error _ => none
  | .ok () =>
    match (updateSplinterState update.circuit).run before with
    | .error _ _ => none
    | .ok () after => some after

def Commits (before : AdminServiceShared) (update : CircuitUpdate)
    (after : AdminServiceShared) : Prop :=
  commitCircuit update before = some after

namespace Commits

variable {nodeId : String} {before after : AdminServiceShared} {update : CircuitUpdate}

theorem builds (commits : Commits before update after) : Unambiguous before.nodeId update.circuit ∧
    ∃ built, stateCircuit update.circuit = .ok built ∧ after =
      { before with
        splinterState := stateWith before.nodeId update.circuit built before.splinterState } := by
  unfold Commits commitCircuit at commits
  split at commits
  · cases commits
  · rename_i validated
    split at commits
    · cases commits
    · rename_i returned
      cases commits
      refine ⟨unambiguous_of_validateCircuit validated, ?_⟩
      have built := updateSplinterState_builds update.circuit before
      unfold Ends at built
      rw [returned] at built
      exact built

theorem routed (commits : Commits before update after)
    (held : before.nodeId = nodeId ∧ Routed nodeId before.splinterState) :
    after.nodeId = nodeId ∧ Routed nodeId after.splinterState := by
  obtain ⟨rfl, routed⟩ := held
  obtain ⟨wellFormed, built, isBuilt, rfl⟩ := commits.builds
  exact ⟨rfl, routed_stateWith wellFormed routed isBuilt⟩

end Commits

theorem routed_new (nodeId : String) : Routed nodeId (SplinterState.new CircuitDirectory.new) := by
  refine
    { admin := rfl
      nodes := ?_
      circuits := ?_
      unique := ?_
      placed := ?_
      entered := ?_ }
  all_goals
    intro _ _ impossible
    cases impossible

variable {first last : AdminServiceShared} {path : List (AdminServiceShared × CircuitUpdate)}

theorem routed_of_run (fresh : first.splinterState = .new .new)
    (run : Run Commits first path last) :
    last.nodeId = first.nodeId ∧ Routed first.nodeId last.splinterState := by
  refine run.invariant ⟨rfl, ?_⟩ fun _ _ _ held commits => commits.routed held
  rw [fresh]
  exact routed_new first.nodeId

theorem knows_itself_of_run (fresh : first.splinterState = .new .new)
    (run : Run Commits first path last) (busy : path ≠ []) :
    (last.splinterState.node first.nodeId).isSome = true := by
  cases run with
  | start => exact absurd rfl busy
  | snoc begun commits =>
    rw [← (routed_of_run fresh begun).1]
    obtain ⟨wellFormed, built, _, rfl⟩ := commits.builds
    exact isSome_node_stateWith.mpr (Or.inl wellFormed.includes)

/-- A node can always start again.  It finds no circuit and no node with the
id that it had, and the services of another node with the endpoints of the last
circuit that the node has become a member of; all is as before only where no
circuit has been committed. -/
theorem restart_restores_iff (fresh : first.splinterState = .new .new)
    (run : Run Commits first path last) :
    ∃ restarted, restart first.nodeId last.splinterState.circuitDirectory = .ok restarted ∧
        (Restored first.nodeId last.splinterState restarted ↔ path = []) ∧
        (∀ name, restarted.circuit name = last.splinterState.circuit name ↔
            name = "admin" ∨ last.splinterState.circuit name = none) ∧
        (∀ id, restarted.node id = last.splinterState.node id ↔ last.splinterState.node id = none) ∧
        ∀ id, Remote first.nodeId last.splinterState id →
          ∃ service, last.splinterState.service id = some service ∧
            (restarted.service id = some service ↔ (last.splinterState.node service.node.id).map
                  SplinterNode.endpoints =
                some service.node.endpoints) := by
  obtain ⟨_, routed⟩ := routed_of_run fresh run
  obtain ⟨restarted, started, asBefore⟩ := routed.restart
  refine
    ⟨restarted, started, ⟨?_, ?_⟩, asBefore.circuit_eq_iff routed, asBefore.node_eq_iff routed,
      fun _ remote => asBefore.service_eq_iff routed remote⟩
  · intro restored
    by_contra busy
    have unknown := (asBefore.node_eq_iff routed first.nodeId).mp (restored.node first.nodeId)
    have known := knows_itself_of_run fresh run busy
    rw [unknown] at known
    cases known
  · intro none
    cases run with
    | snoc _ _ => simp at none
    | start =>
      rw [fresh] at asBefore routed ⊢
      refine ⟨?_, ?_, ?_⟩
      · intro name
        rw [asBefore.circuit_eq_iff routed]
        by_cases admin : name = "admin"
        · exact Or.inl admin
        · exact Or.inr (if_neg admin)
      · exact fun id => (asBefore.node_eq_iff routed id).mpr rfl
      · intro id remote
        obtain ⟨_, impossible, _⟩ := remote
        cases impossible

/-- Node `a` has entered the service of `b` for a circuit, at an endpoint, and
knows `b` at another one. -/
def EnteredAt (endpoint known : String) (last : AdminServiceShared) : Prop :=
  Remote "a" last.splinterState ⟨"c", "b"⟩ ∧ last.splinterState.service ⟨"c", "b"⟩ =
    some ⟨"b", none, ⟨"b", [endpoint]⟩⟩ ∧
    last.splinterState.node "b" = some ⟨"b", [known]⟩

def enteredAt (endpoint known : String) (last : AdminServiceShared) : Bool :=
  ((last.splinterState.circuits.lookup "c").any fun circuit =>
    circuit.roster.toList.any fun definition =>
      !definition.allowedNodes.contains "a" && definition.serviceId = "b") &&
    last.splinterState.service ⟨"c", "b"⟩ = some ⟨"b", none, ⟨"b", [endpoint]⟩⟩ &&
      last.splinterState.node "b" = some ⟨"b", [known]⟩

theorem entered_of_enteredAt {endpoint known : String}
    (checked : enteredAt endpoint known last = true) :
    EnteredAt endpoint known last := by
  simp only [enteredAt, Bool.and_eq_true, decide_eq_true_eq] at checked
  obtain ⟨⟨listed, entered⟩, located⟩ := checked
  refine ⟨?_, entered, located⟩
  obtain ⟨circuit, looked, any⟩ := (Option.any_eq_true _ _).mp listed
  obtain ⟨definition, inRoster, both⟩ := List.any_eq_true.mp any
  simp only [Bool.and_eq_true, decide_eq_true_eq, Bool.not_eq_true',
    List.contains_eq_mem, decide_eq_false_iff_not] at both
  exact ⟨circuit, looked, definition, inRoster, both.1, both.2⟩

/-- A circuit of the nodes `a` and `b`. -/
def firstCircuit : CircuitUpdate := ⟨.working, simpleCircuit "c" ["a", "b"]⟩

/-- Another circuit of the nodes, after `b` has moved. -/
def movedCircuit : CircuitUpdate :=
  ⟨.working,
    { simpleCircuit "d" ["a", "b"] with members := [⟨"a", "tcp://a"⟩, ⟨"b", "tcp://elsewhere"⟩] }⟩

/-- After the restart the circuit and the node have lost their ids, and the
service of the first circuit has the new endpoint of its node. -/
theorem ids_and_endpoint_not_restored : ∃ path last restarted,
      Run Commits (emptyNode "a") path last ∧ path.map Prod.snd = [firstCircuit, movedCircuit] ∧
        restart "a" last.splinterState.circuitDirectory = .ok restarted ∧
        (last.splinterState.circuit "c").map Circuits.Circuit.id = some "c" ∧
        (restarted.circuit "c").map Circuits.Circuit.id = some "" ∧
        last.splinterState.node "b" = some ⟨"b", ["tcp://elsewhere"]⟩ ∧
        restarted.node "b" = some ⟨"", ["tcp://elsewhere"]⟩ ∧
        last.splinterState.service ⟨"c", "b"⟩ = some ⟨"b", none, ⟨"b", ["tcp://b"]⟩⟩ ∧
        restarted.service ⟨"c", "b"⟩ = some ⟨"b", none, ⟨"b", ["tcp://elsewhere"]⟩⟩ := by
  have played : Run.leads commitCircuit [firstCircuit, movedCircuit] (emptyNode "a")
        (fun last =>
          enteredAt "tcp://b" "tcp://elsewhere" last &&
            (last.splinterState.circuit "c").map Circuits.Circuit.id = some "c") = true := by
    decide +kernel
  obtain ⟨path, last, run, labels, checked⟩ := Run.exists_run_of_leads _ _ _ _ played
  rw [Bool.and_eq_true, decide_eq_true_eq] at checked
  obtain ⟨entry, named⟩ := checked
  obtain ⟨remote, entered, moved⟩ := entered_of_enteredAt entry
  obtain ⟨_, routed⟩ := routed_of_run rfl run
  obtain ⟨restarted, started, asBefore⟩ := routed.restart
  refine ⟨path, last, restarted, run, labels, started, named, ?_, moved, ?_, entered, ?_⟩
  · rw [asBefore.circuit "c" (by decide), Option.map_map]
    obtain ⟨circuit, found, _⟩ := Option.map_eq_some_iff.mp named
    rw [found]
    rfl
  · rw [asBefore.node, moved]
    rfl
  · rw [asBefore.service _ remote, entered, Option.map_some, Circuits.Service.relocated, moved]
    rfl

/-- After one circuit the service of the other node is entered as before. -/
theorem service_of_first_circuit_restored : ∃ path last restarted,
      Run Commits (emptyNode "a") path last ∧ path.map Prod.snd = [firstCircuit] ∧
        restart "a" last.splinterState.circuitDirectory = .ok restarted ∧
        ¬ Restored "a" last.splinterState restarted ∧
        restarted.service ⟨"c", "b"⟩ = some ⟨"b", none, ⟨"b", ["tcp://b"]⟩⟩ := by
  have played : Run.leads commitCircuit [firstCircuit] (emptyNode "a")
        (enteredAt "tcp://b" "tcp://b") = true := by
    decide +kernel
  obtain ⟨path, last, run, labels, checked⟩ := Run.exists_run_of_leads _ _ _ _ played
  obtain ⟨remote, entered, located⟩ := entered_of_enteredAt checked
  obtain ⟨restarted, started, restored, _, _, services⟩ := restart_restores_iff rfl run
  obtain ⟨service, found, same⟩ := services _ remote
  cases (entered.symm.trans found)
  refine ⟨path, last, restarted, run, labels, started, ?_, same.mpr ?_⟩
  · intro asBefore
    rw [restored.mp asBefore] at labels
    cases labels
  · rw [located]
    rfl

end AdminServiceShared

end Splinter.Admin
