import Splinter.Admin.Requests

/-!
# When a commit does what it is asked to

`Committed` lists what a commit may leave behind.  Here are the cases in which
it is certain: a proposal that can be stored stays open, and a valid circuit
that is accepted is added.  `commitChange_returns` says when a commit succeeds.
-/

namespace Splinter.Admin

open Library
open Circuits (TextMap SplinterState)
open Protos (CircuitManagementPayload CircuitProposal)

theorem validateMembers_returns_members {nodes : List Protos.SplinterNode}
    {members endpoints result : List String}
    (validated : validateMembers nodes members endpoints = .ok result) :
    result = members ++ nodes.map Protos.SplinterNode.nodeId := by
  induction nodes generalizing members endpoints with
  | nil =>
    cases validated
    simp
  | cons node nodes ih =>
    simp only [validateMembers, bind_eq_ok_iff, require_eq_ok_iff] at validated
    obtain ⟨_, _, _, _, _, _, _, _, rest⟩ := validated
    rw [ih rest]
    simp

theorem mem_of_validateAllowedNodes {members allowedNodes : List String} {node : String}
    (validated : validateAllowedNodes members allowedNodes = .ok ())
    (allowed : node ∈ allowedNodes) :
    node ∈ members := by
  induction allowedNodes with
  | nil => cases allowed
  | cons first rest ih =>
    simp only [validateAllowedNodes, bind_eq_ok_iff, require_eq_ok_iff] at validated
    obtain ⟨_, isMember, others⟩ := validated
    rcases List.mem_cons.mp allowed with rfl | later
    · exact isMember
    · exact ih others later

theorem head_mem_of_validateServices
    {members services : List String} {roster : List Protos.SplinterService}
    {service : Protos.SplinterService}
    (validated : validateServices members roster services = .ok ()) (present : service ∈ roster) :
    ∃ node others, service.allowedNodes = node :: others ∧ node ∈ members := by
  induction roster generalizing services with
  | nil => cases present
  | cons first rest ih =>
    simp only [validateServices, bind_eq_ok_iff, require_eq_ok_iff] at validated
    obtain ⟨_, nonempty, _, _, _, allowed, _, _, _, _, others⟩ := validated
    rcases List.mem_cons.mp present with rfl | later
    · obtain ⟨node, nodes, shape⟩ := List.exists_cons_of_ne_nil nonempty
      refine ⟨node, nodes, shape, mem_of_validateAllowedNodes allowed ?_⟩
      rw [shape]
      exact List.mem_cons_self ..
    · exact ih others later

/-- What the validation of a circuit establishes, on whichever node. -/
structure Valid (circuit : Protos.Circuit) : Prop where
  settled : Messages.Settled circuit
  nonempty : circuit.members ≠ []
  placed : ∀ service ∈ circuit.roster, ∃ node others, service.allowedNodes = node :: others ∧
    node ∈ circuit.members.map Protos.SplinterNode.nodeId

theorem valid_of_validateCircuit {nodeId : String} {circuit : Protos.Circuit}
    (validated : validateCircuit nodeId circuit = .ok ()) :
    Valid circuit := by
  simp only [validateCircuit, bind_eq_ok_iff, require_eq_ok_iff] at validated
  obtain ⟨_, auth, _, persistence, _, durability, _, routes, _, _, _, _,
    members, collected, _, nonempty, _, _, _, _, _, services, _⟩ := validated
  have same := validateMembers_returns_members collected
  rw [List.nil_append] at same
  subst same
  refine ⟨⟨?_, ?_, ?_, ?_⟩, ?_, ?_⟩
  · cases shape : circuit.authorizationType with
    | trustAuthorization => rfl
    | unsetAuthorizationType => exact (auth shape).elim
  · cases shape : circuit.persistence with
    | anyPersistence => rfl
    | unsetPersistenceType => exact (persistence shape).elim
  · cases shape : circuit.durability with
    | noDurability => rfl
    | unsetDurabilityType => exact (durability shape).elim
  · cases shape : circuit.routes with
    | anyRoute => rfl
    | unsetRouteType => exact (routes shape).elim
  · intro empty
    exact nonempty (by rw [empty]; rfl)
  · exact fun service present =>
      head_mem_of_validateServices services present

namespace AdminServiceShared

variable {circuit : Protos.Circuit} {shared : AdminServiceShared} {context : CircuitProposalContext}

theorem stateCircuit_of_valid (valid : Valid circuit) :
    ∃ built, stateCircuit circuit = .ok built ∧ built.id = circuit.circuitId := by
  obtain ⟨⟨auth, persistence, durability, routes⟩, nonempty, _⟩ := valid
  have named : circuit.members.map (fun node => (stateNode node).id) ≠ [] := by simpa using nonempty
  simp only [stateCircuit, auth, persistence, durability, routes,
    stateAuthorization, statePersistence, stateDurability, stateRoutes,
    Circuits.CircuitBuilder.build, named, if_false]
  exact ⟨_, rfl, rfl⟩

theorem parts_of_stateCircuit {built : Circuits.Circuit}
    (isBuilt : stateCircuit circuit = .ok built) :
    built.id = circuit.circuitId ∧ built.roster = .standard (circuit.roster.map stateService) := by
  simp only [stateCircuit, bind_eq_ok_iff, mapError_eq_ok_iff] at isBuilt
  obtain ⟨_, _, _, _, _, _, _, _, isBuilt⟩ := isBuilt
  unfold Circuits.CircuitBuilder.build at isBuilt
  split at isBuilt
  · cases isBuilt
  · cases isBuilt
    exact ⟨rfl, rfl⟩

/-- A service is run by this node, or by one that the state knows. -/
def Located (nodeId : String) (known : String → Prop) (allowedNodes : List String) : Prop :=
  nodeId ∈ allowedNodes ∨ ∃ node others, allowedNodes = node :: others ∧ known node

theorem addRemoteServices_returns (circuitId : String) (services : List Circuits.ServiceDefinition)
    (shared : AdminServiceShared) : Returns
      (∀ service ∈ services, Located shared.nodeId
        (fun node => (shared.splinterState.node node).isSome) service.allowedNodes)
      (forM services (addRemoteService circuitId)) shared := by
  refine Returns.forM (fun shared => (shared.nodeId, shared.splinterState.circuitDirectory))
    (addRemoteService_keeps _ fun _ _ _ => rfl) fun service before same => ?_
  obtain ⟨sameNode, sameDirectory⟩ := Prod.mk.inj same
  have known (node : String) : before.splinterState.node node = shared.splinterState.node node :=
    congrArg (·.node node) sameDirectory
  unfold Returns addRemoteService Located
  rw [ends_bind, ends_get, ← sameNode]
  simp only [← known]
  split
  · rename_i own
    exact Or.inl (by simpa using own)
  · rename_i foreign
    have elsewhere : before.nodeId ∉ service.allowedNodes := by simpa using foreign
    split
    · rename_i empty
      simp [empty]
    · rename_i node others shape
      cases found : before.splinterState.node node with
      | none =>
        rintro (own | ⟨_, _, same, known⟩)
        · exact elsewhere own
        · cases shape.symm.trans same
          rw [found] at known
          cases known
      | some member => exact Or.inr ⟨node, others, shape, by rw [found]; rfl⟩

/-- The circuit can be built, and the node of each service is known or one of
the members. -/
def Enterable (circuit : Protos.Circuit) (shared : AdminServiceShared) : Prop :=
  (∃ built, stateCircuit circuit = .ok built) ∧ ∀ service ∈ circuit.roster, Located shared.nodeId
    (fun node => node ∈ circuit.members.map Protos.SplinterNode.nodeId ∨
      (shared.splinterState.node node).isSome) service.allowedNodes

theorem enterable_of_valid {circuit : Protos.Circuit} (valid : Valid circuit)
    (shared : AdminServiceShared) : Enterable circuit shared := by
  obtain ⟨built, isBuilt, _⟩ := stateCircuit_of_valid valid
  refine ⟨⟨built, isBuilt⟩, fun service listed => Or.inr ?_⟩
  obtain ⟨node, others, shape, member⟩ := valid.placed service listed
  exact ⟨node, others, shape, Or.inl member⟩

theorem updateSplinterState_returns (circuit : Protos.Circuit) (shared : AdminServiceShared) :
    Returns (Enterable circuit shared) (updateSplinterState circuit) shared := by
  unfold updateSplinterState Enterable
  refine Returns.bind id (Returns.fromExcept _) (Keeps.fromExcept _) ?_
  intro _ built between same
  obtain rfl : between = shared := same
  unfold Returns
  rw [ends_bind]
  refine (addNodes_ends _ between).mono (fun _ added same => ?_)
    fun _ _ impossible => impossible.elim
  subst same
  refine Returns.congr ?_ (addRemoteServices_returns _ _ _)
  have lookups (node : String) :
      ((withNodes (circuit.members.map stateNode) between.splinterState).node node).isSome = true ↔
        node ∈ circuit.members.map Protos.SplinterNode.nodeId ∨
          (between.splinterState.node node).isSome := by
    refine isSome_lookup_insertAll.trans ?_
    rw [List.map_map, List.map_map]
    rfl
  rw [List.forall_mem_map]
  simp only [← lookups]
  rfl

theorem commitChange_adds (formats : Formats) (around : Surroundings)
    {context : CircuitProposalContext}
    (approved : checkApproved context.circuitProposal = .accepted)
    (valid : Valid context.circuitProposal.getCircuitProposal) (shared : AdminServiceShared) :
    EndsIn (commitChange formats around context) shared fun after =>
      ∃ built, stateCircuit context.circuitProposal.getCircuitProposal = .ok built ∧ after.records =
          ⟨shared.records.proposals.erase context.circuitProposal.circuitId,
            shared.records.circuits.insert built.id built⟩ := by
  unfold commitChange EndsIn
  dsimp only
  rw [approved, ends_bind]
  refine ((updateSplinterState_returns _ shared).and (updateSplinterState_ends _ shared)).mono
    (fun _ updated added => ?_) fun _ _ failed => (failed.1 (enterable_of_valid valid shared)).elim
  obtain ⟨_, built, isBuilt, inserted⟩ := added
  rw [ends_bind]
  refine (removeProposal_ends _ updated).mono (fun _ removed erased => ?_)
    fun _ _ impossible => impossible.elim
  have reached : removed.records = ⟨updated.records.proposals.erase _, updated.records.circuits⟩ :=
    congrArg records erased
  rw [inserted] at reached
  exact ((announce_keeps_records formats around context).ends reached).mono
    (fun _ _ same => ⟨built, isBuilt, same⟩) fun _ _ same => ⟨built, isBuilt, same⟩

/-- A proposal that is neither accepted nor rejected and can be stored stays
open, even if the commit then fails. -/
theorem commitChange_stores (formats : Formats) (around : Surroundings)
    {stored : Messages.CircuitProposal}
    (approved : checkApproved context.circuitProposal = .pending)
    (converted : Messages.CircuitProposal.fromProto context.circuitProposal = .ok stored)
    (shared : AdminServiceShared) :
    EndsIn (commitChange formats around context) shared fun after =>
      after.records =
        ⟨shared.records.proposals.insert context.circuitProposal.circuitId
          stored, shared.records.circuits⟩ := by
  unfold commitChange EndsIn
  dsimp only
  rw [approved, ends_bind]
  refine (addProposal_ends _ shared).mono (fun _ added inserted => ?_) fun _ _ failed => ?_
  · obtain ⟨_, same, rfl⟩ := inserted
    cases converted.symm.trans same
    split
    · exact (report_keeps_records around _ _).ends rfl
    · exact (report_keeps_records around _ _).ends rfl
    · exact (Keeps.throw _).ends rfl
  · obtain ⟨⟨_, refused⟩, _⟩ := failed
    cases converted.symm.trans refused

theorem commit_pending {formats : Formats} {around : Surroundings}
    {returned : Unit → AdminServiceShared → Prop}
    {failed : AdminSharedError → AdminServiceShared → Prop}
    (pending : shared.pendingChanges = some context)
    (ends : Ends (commitChange formats around context)
      { shared with pendingChanges := none } returned failed) :
    Ends (commit formats around) shared returned failed := by
  unfold commit
  rw [ends_bind, ends_get, ends_bind, ends_set]
  rw [pending]
  exact ends

/-! ## When a commit returns -/

section Returning

variable (formats : Formats) {around : Surroundings}

def Convertible (circuitProposal : CircuitProposal) : Prop :=
  ∃ stored, Messages.CircuitProposal.fromProto circuitProposal = .ok stored

/-- Every other member takes the MEMBER_READY message. -/
def Tellable (around : Surroundings) (circuit : Protos.Circuit)
    (shared : AdminServiceShared) : Prop :=
  shared.networkSender = true → ∀ member ∈ circuit.members, member.nodeId ≠ shared.nodeId →
    around.send (adminServiceId member.nodeId) (formats.protos.adminMessage.write
      (memberReadyMessage circuit.circuitId shared.nodeId)) = .ok ()

/-- If all members are ready with this node, the services can be started. -/
def Startable (around : Surroundings) (circuitProposal : CircuitProposal)
    (shared : AdminServiceShared) : Prop :=
  let circuit := circuitProposal.getCircuitProposal
  let waiting := shared.uninitializedCircuits.lookup circuitProposal.circuitId
  (circuit.members.map Protos.SplinterNode.nodeId).toFinset ⊆
      insert shared.nodeId (waiting.getD ⟨none, ∅⟩).readyMembers →
    ∀ call ∈ (shared.localServices around circuit).map (serviceCall circuit),
      around.initializeService call.1 call.2 = .ok ()

/-- What a commit of a change needs of the state and the surroundings. -/
def Committable (around : Surroundings) (context : CircuitProposalContext)
    (shared : AdminServiceShared) : Prop :=
  let circuitProposal := context.circuitProposal
  Convertible circuitProposal ∧
    match checkApproved circuitProposal with
    | .accepted =>
      Enterable circuitProposal.getCircuitProposal shared ∧
        Tellable formats around circuitProposal.getCircuitProposal shared ∧
        Startable around circuitProposal shared
    | .pending =>
      context.action = .circuitCreateRequest ∨ context.action = .circuitProposalVote
    | .rejected => True

theorem report_returns (circuitProposal : CircuitProposal) (managementType : String)
    (event : Messages.CircuitProposal → Messages.AdminServiceEvent) (shared : AdminServiceShared) :
    Returns (Convertible circuitProposal) (do
      let proposal ← reported circuitProposal
      sendEvent around managementType (event proposal)) shared := by
  unfold reported
  cases converted : Messages.CircuitProposal.fromProto circuitProposal with
  | ok stored => exact ⟨stored, converted⟩
  | error error =>
    rintro ⟨stored, same⟩
    cases converted.symm.trans same

theorem sendMemberReady_returns (circuit : Protos.Circuit) (shared : AdminServiceShared) :
    Returns (Tellable formats around circuit shared) (sendMemberReady formats around circuit)
      shared := by
  unfold Tellable Returns sendMemberReady
  rw [ends_bind, ends_get]
  split
  · rename_i connected
    refine Returns.congr (imp_iff_right connected).symm (Returns.forM (fun _ => ()) ?_ ?_)
    · exact fun _ _ => Ends.always (fun _ _ => rfl) fun _ _ => rfl
    · intro member before _
      split
      · rename_i other
        refine Returns.congr (imp_iff_right other).symm ?_
        unfold send
        split
        · rename_i taken
          exact taken
        · rename_i refused
          exact fun taken => by cases refused.symm.trans taken
      · rename_i own
        exact fun other => (own other).elim
  · rename_i unconnected
    exact fun connected => (unconnected connected).elim

theorem initializeServices_returns (circuit : Protos.Circuit) (shared : AdminServiceShared) :
    Returns (∀ call ∈ (shared.localServices around circuit).map (serviceCall circuit),
      around.initializeService call.1 call.2 = .ok ()) (initializeServices around circuit)
      shared := by
  unfold initializeServices Returns
  rw [ends_bind, ends_get]
  refine Returns.forM (fun _ => ()) (fun _ _ => Ends.always (fun _ _ => rfl) fun _ _ => rfl) ?_
  intro call before _
  unfold initializeService
  cases answered : around.initializeService call.1 call.2 with
  | ok _ => exact rfl
  | error error => exact nofun

theorem addUninitializedCircuit_returns {circuitProposal : CircuitProposal}
    (convertible : Convertible circuitProposal) (shared : AdminServiceShared) :
    Returns (Startable around circuitProposal shared)
      (addUninitializedCircuit around circuitProposal) shared := by
  obtain ⟨stored, converted⟩ := convertible
  unfold Returns Startable addUninitializedCircuit updateUninitialized
    initializeServicesIfMembersReady readyProposal
  rw [ends_bind, ends_get, ends_bind, ends_modify, ends_bind, ends_get]
  simp only [Finmap.lookup_insert]
  split
  · rename_i unready
    split at unready
    · cases unready
    · rename_i missing
      exact fun ready => (missing ready).elim
  · rename_i ready
    split at ready
    · rename_i ready'
      cases ready
      rw [ends_bind, ends_modify, ends_bind, converted]
      exact Returns.congr (imp_iff_right ready').symm (initializeServices_returns _ _)
    · cases ready

theorem removeProposal_returns (circuitId : String) (shared : AdminServiceShared) :
    Returns True (removeProposal circuitId) shared :=
  (removeProposal_ends circuitId shared).mono (fun _ _ _ => trivial)
    fun _ _ impossible => impossible.elim

theorem addProposal_returns (circuitProposal : CircuitProposal) (shared : AdminServiceShared) :
    Returns (Convertible circuitProposal) (addProposal circuitProposal) shared := by
  refine (addProposal_ends circuitProposal shared).mono (fun _ _ added => ?_) fun _ _ failed => ?_
  · obtain ⟨stored, converted, _⟩ := added
    exact ⟨stored, converted⟩
  · rintro ⟨stored, converted⟩
    obtain ⟨⟨_, refused⟩, _⟩ := failed
    cases converted.symm.trans refused

theorem acceptance_returns (context : CircuitProposalContext) (shared : AdminServiceShared) :
    let circuit := context.circuitProposal.getCircuitProposal
    Returns (Enterable circuit shared ∧ Convertible context.circuitProposal ∧
      Tellable formats around circuit shared) (acceptance formats around context) shared := by
  unfold acceptance
  refine Returns.bind undecided (updateSplinterState_returns _ shared)
    ((updateSplinterState_keeps_unstored _).map undecided) fun _ _ updated kept => ?_
  refine Returns.andThen undecided (removeProposal_returns _ updated)
    ((onOpenProposals_keeps_unstored _).map undecided) fun _ removed kept' => ?_
  refine Returns.bind undecided
    (Returns.congr (by simp only [Convertible, mapError_eq_ok_iff]) (Returns.fromExcept _))
    (Keeps.fromExcept _) fun _ proposal _ kept'' => ?_
  refine Returns.andThen undecided trivial
    ((sendEvent_keeps_unsent around _ _).map undecided) fun _ between sent => ?_
  have same := ((sent.trans kept'').trans kept').trans kept
  change Returns (Tellable formats around _ shared.undecided) _ _
  rw [← same]
  exact sendMemberReady_returns formats _ between

/-- The commit of a change returns `Ok` exactly if the change is committable. -/
theorem commitChange_returns (context : CircuitProposalContext) (shared : AdminServiceShared) :
    Returns (Committable formats around context shared) (commitChange formats around context)
      shared := by
  unfold Committable
  cases approved : checkApproved context.circuitProposal with
  | accepted =>
    simp only [approved]
    rw [commitChange_of_accepted formats around approved, ← and_assoc, ← and_assoc,
      and_comm (a := Convertible _), and_assoc (b := Convertible _)]
    refine Returns.bind undecided (acceptance_returns formats context shared)
      (acceptance_keeps_undecided formats around context) fun ready _ between same => ?_
    change Returns (Startable around _ shared.undecided) _ _
    rw [← same]
    exact addUninitializedCircuit_returns ready.2.1 between
  | pending =>
    unfold commitChange
    simp only [approved]
    refine Returns.bind undecided (addProposal_returns _ shared)
      ((onOpenProposals_keeps_unstored _).map undecided) fun convertible _ added _ => ?_
    split
    · rename_i create
      exact Returns.congr (iff_of_true convertible (Or.inl create)) (report_returns _ _ _ added)
    · rename_i vote
      exact Returns.congr (iff_of_true convertible (Or.inr vote)) (report_returns _ _ _ added)
    · rename_i create vote
      exact fun known => known.elim create vote
  | rejected =>
    unfold commitChange
    simp only [approved, and_true]
    exact Returns.andThen undecided (removeProposal_returns _ shared)
      ((onOpenProposals_keeps_unstored _).map undecided) fun _ removed _ =>
        report_returns _ _ _ removed

theorem commit_returns (around : Surroundings) (pending : shared.pendingChanges = some context) :
    Returns (Committable formats around context shared) (commit formats around) shared :=
  commit_pending pending
    (commitChange_returns formats context { shared with pendingChanges := none })

end Returning

end AdminServiceShared

end Splinter.Admin
