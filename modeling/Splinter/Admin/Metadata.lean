import Splinter.Admin.Ledger
import Splinter.Admin.Recipients
import Splinter.Library.Maps

/-!
# What consensus is told about a payload

The id of a proposal is the hash of a payload; the verifiers and the expected hash
travel beside the payload.  Hashes are read back by `Preimages`, which name one
payload for each id and one circuit for each circuit hash.
-/

namespace Splinter.Admin

open Library Service Consensus AdminServiceShared AdminService
open Protos (CircuitManagementPayload CircuitProposal)

structure Preimages where
  payload : ProposalId → CircuitManagementPayload
  circuit : String → Protos.Circuit

/-- The admin services of the members of a circuit, as peers of an engine. -/
def memberPeers (circuit : Protos.Circuit) : Finset PeerId :=
  ((memberVerifiers circuit).map fun verifier =>
    PeerId.mk (asBytes verifier)).toFinset

/-- The consensus data of a proposal lists the members of a circuit. -/
def Names (formats : Formats) (data : Bytes) (circuit : Protos.Circuit) : Prop := data ≠ [] ∧
    ∀ required, formats.twoPhase.requiredVerifiers.parse data = .ok required →
      (required.verifiers.map PeerId.mk).toFinset = memberPeers circuit

/-- A service names the members of the circuit it proposes to change.  Data
without a byte stands for an empty list of verifiers. -/
theorem names_consensusProposal
    {formats : Formats} {hash expectedHash : String} {circuit : Protos.Circuit}
    (blank : formats.twoPhase.requiredVerifiers.parse [] = .ok ⟨[]⟩)
    (members : circuit.members ≠ []) :
    Names formats (AdminService.consensusProposal formats hash expectedHash circuit).consensusData
      circuit := by
  have parsed := formats.twoPhase.requiredVerifiers.parse_write
    ⟨(memberVerifiers circuit).map asBytes⟩
  constructor
  · intro empty
    change formats.twoPhase.requiredVerifiers.write _ = [] at empty
    rw [empty, blank] at parsed
    injection parsed with same
    injection same with same
    exact members (List.map_eq_nil_iff.mp (List.map_eq_nil_iff.mp same.symm))
  · intro required read
    change formats.twoPhase.requiredVerifiers.parse
      (formats.twoPhase.requiredVerifiers.write _) = _ at read
    rw [parsed] at read
    injection read with same
    subst same
    simp only [memberPeers, List.map_map]
    rfl

namespace Preimages

variable (formats : Formats) (preimages : Preimages)

/-- The circuit a payload is about: the one a request asks for, or the one with
the hash that a vote names. -/
def subject (payload : CircuitManagementPayload) : Option Protos.Circuit :=
  match formats.protos.header.parse payload.header with
  | .error _ => none
  | .ok header =>
    match header.action with
    | .circuitCreateRequest => some payload.getCircuitCreateRequest.getCircuit
    | .circuitProposalVote => some (preimages.circuit payload.getCircuitProposalVote.circuitHash)
    | _ => none

structure Reads (payload : CircuitManagementPayload) : Prop where
  whole : ∀ id, PayloadOf formats id payload → preimages.payload id = payload
  requested : ∀ header hash, formats.protos.header.parse payload.header = .ok header →
    header.action = .circuitCreateRequest →
    hashCircuit formats payload.getCircuitCreateRequest.getCircuit = .ok hash →
    preimages.circuit hash = payload.getCircuitCreateRequest.getCircuit

structure Lists (proposal : CircuitProposal) : Prop where
  circuit : preimages.circuit proposal.circuitHash = proposal.getCircuitProposal
  members : proposal.getCircuitProposal.members ≠ []

/-- The verifiers that a proposal names are the members of the circuit that its
payload is about. -/
def Binds (proposal : Proposal) : Prop := ∀ circuit,
    preimages.subject formats (preimages.payload proposal.id) = some circuit →
      Names formats proposal.consensusData circuit

end Preimages

namespace AdminServiceShared

def heldPayloads (shared : AdminServiceShared) : List CircuitManagementPayload :=
  shared.pendingCircuitPayloads ++ shared.unpeeredPayloads.map Prod.snd

/-- All payloads and circuits that a node knows are those that their hashes
stand for. -/
structure Indexed (formats : Formats) (preimages : Preimages)
    (shared : AdminServiceShared) : Prop where
  registered : ∀ id entry, shared.pendingConsensusProposals.lookup id = some entry →
    PayloadOf formats id entry.2 ∧ preimages.Reads formats entry.2
  held : ∀ payload ∈ shared.heldPayloads, preimages.Reads formats payload
  opened : ∀ circuitId proposal, shared.Open circuitId proposal → preimages.Lists proposal
  pending : ∀ context, shared.pendingChanges = some context →
    preimages.Lists context.circuitProposal

variable {formats : Formats} {around : Surroundings} {preimages : Preimages}
  {shared after : AdminServiceShared} {payload : CircuitManagementPayload}
  (indexed : shared.Indexed formats preimages)
include indexed

theorem Indexed.of_core (same : after.core = shared.core) : after.Indexed formats preimages := by
  have sameRegistry : after.pendingConsensusProposals = shared.pendingConsensusProposals :=
    congrArg (fun core => core.pendingConsensusProposals) same
  have sameHeld : after.heldPayloads = shared.heldPayloads :=
    congrArg (fun core => core.heldPayloads) same
  have sameRecords : after.records = shared.records := congrArg (fun core => core.records) same
  have samePending : after.pendingChanges = shared.pendingChanges :=
    congrArg (fun core => core.pendingChanges) same
  constructor
  · rw [sameRegistry]
    exact indexed.registered
  · rw [sameHeld]
    exact indexed.held
  · intro circuitId proposal isOpen
    exact indexed.opened circuitId proposal (isOpen.of_same sameRecords.symm)
  · rw [samePending]
    exact indexed.pending

theorem Indexed.subject_of_proposedChange {change : Change}
    (reads : preimages.Reads formats payload)
    (computed : shared.proposedChange formats around payload = .ok change) :
    preimages.Lists change.context.circuitProposal ∧ preimages.subject formats payload =
      some change.context.circuitProposal.getCircuitProposal ∧
      shared.circuitFor formats payload =
        some change.context.circuitProposal.getCircuitProposal := by
  obtain ⟨header, checked, taken⟩ := (proposedChange_eq_ok_iff change).mp computed
  rcases taken with ⟨action, created⟩ | ⟨action, voted⟩
  · obtain ⟨validated, circuitHash, hashed, _, _, rfl⟩ :=
      (createdChange_eq_ok_iff header change).mp created
    have creatable := creatable_of_validateCreateCircuit validated
    have valid := valid_of_validateCircuit creatable.valid
    refine ⟨⟨?_, valid.nonempty⟩, ?_, ?_⟩
    · exact reads.requested header circuitHash checked.parsed action hashed
    · simp only [Preimages.subject, checked.parsed, action]
      rfl
    · simp only [circuitFor, checked.parsed, action]
      rfl
  · obtain ⟨openProposal, found, validated, _, _, rfl⟩ :=
      (votedChange_eq_ok_iff header change).mp voted
    have lists := indexed.opened _ _ (open_of_votedProposal found)
    have votable := votable_of_validateCircuitVote validated
    refine ⟨⟨lists.circuit, lists.members⟩, ?_, ?_⟩
    · simp only [Preimages.subject, checked.parsed, action]
      rw [← votable.sameHash, lists.circuit]
      rfl
    · simp only [circuitFor, checked.parsed, action, found]
      rfl

theorem Indexed.proposeChange (reads : preimages.Reads formats payload) :
    Ends (proposeChange formats around payload) shared
      (fun proposed after =>
        after.Indexed formats preimages ∧ preimages.Lists proposed.2 ∧
          preimages.subject formats payload = some proposed.2.getCircuitProposal ∧
          after.circuitFor formats payload = some proposed.2.getCircuitProposal)
      fun _ after => after = shared := by
  refine (proposeChange_ends formats around payload shared).mono
    (fun proposed after proposing => ?_) fun _ _ unchanged => unchanged
  obtain ⟨change, computed, rfl, rfl⟩ := proposing
  obtain ⟨lists, about, current⟩ := indexed.subject_of_proposedChange reads computed
  refine ⟨⟨?_, ?_, ?_, ?_⟩, lists, about, current⟩
  · exact indexed.registered
  · exact indexed.held
  · exact indexed.opened
  · intro context pending
    cases pending
    exact lists

theorem Indexed.commit :
    EndsIn (commit formats around) shared fun after => after.Indexed formats preimages := by
  have kept (after : AdminServiceShared)
      (same : after.frame = { shared.frame with pendingChanges := none })
    (committed : after.records = shared.records ∨ ∃ context, shared.pendingChanges = some context ∧
        Committed context.circuitProposal shared.records after.records) :
    after.Indexed formats preimages := by
    have sameRegistry : after.pendingConsensusProposals = shared.pendingConsensusProposals :=
      congrArg (fun frame => frame.pendingConsensusProposals) same
    have sameHeld : after.heldPayloads = shared.heldPayloads :=
      congrArg (fun frame => frame.heldPayloads) same
    have emptied : after.pendingChanges = none := congrArg (fun frame => frame.pendingChanges) same
    constructor
    · rw [sameRegistry]
      exact indexed.registered
    · rw [sameHeld]
      exact indexed.held
    · intro circuitId proposal isOpen
      rcases committed with unchanged | ⟨context, pending, committed⟩
      · exact indexed.opened circuitId proposal (isOpen.of_same unchanged.symm)
      · obtain ⟨stored, found, exported⟩ := isOpen
        rcases committed.proposal_cases found with
          earlier | ⟨_, _, converted⟩
        · exact indexed.opened circuitId proposal ⟨stored, earlier, exported⟩
        · have back := Messages.CircuitProposal.intoProto_of_fromProto converted
          rw [exported] at back
          injection back with sameProposal
          rw [sameProposal]
          exact indexed.pending context pending
    · intro context pending
      rw [emptied] at pending
      cases pending
  refine ((commit_ends formats around shared).and (commit_records formats around shared)).mono
    (fun _ after ended => ?_) fun _ after ended => ?_
  · obtain ⟨same, context, pending, committed⟩ := ended
    exact kept after same (Or.inr ⟨context, pending, committed⟩)
  · obtain ⟨same, ⟨_, unchanged⟩ | committed⟩ := ended
    · exact kept after same (Or.inl unchanged)
    · exact kept after same (Or.inr committed)

theorem Indexed.submit (reads : preimages.Reads formats payload) :
    EndsIn (submit formats around payload) shared fun after => after.Indexed formats preimages := by
  have added (waiting : List CircuitManagementPayload)
      (unpeered : List (List String × CircuitManagementPayload))
      (holds : ∀ other ∈ waiting ++ unpeered.map Prod.snd,
        other ∈ shared.heldPayloads ∨ other = payload) :
      Indexed formats preimages
        { shared with
          pendingCircuitPayloads := waiting
          unpeeredPayloads := unpeered } := by
    refine ⟨indexed.registered, ?_, indexed.opened, indexed.pending⟩
    intro other member
    rcases holds other member with earlier | rfl
    · exact indexed.held other earlier
    · exact reads
  unfold AdminServiceShared.submit EndsIn
  rw [ends_bind, ends_fromExcept]
  refine ⟨fun header _ => ?_, fun _ _ => indexed⟩
  split
  · unfold proposeCircuit
    simp only [ends_bind, ends_get, ends_fromExcept]
    refine ⟨fun peers _ => ?_, fun _ _ => indexed⟩
    split
    · refine added _ _ fun other member => ?_
      simp only [heldPayloads, List.mem_append, List.mem_singleton] at member ⊢
      tauto
    · refine added _ _ fun other member => ?_
      simp only [heldPayloads, List.mem_append, List.map_append, List.map_cons,
        List.map_nil, List.mem_singleton] at member ⊢
      tauto
  · refine added _ _ fun other member => ?_
    simp only [heldPayloads, List.mem_append, List.mem_singleton] at member ⊢
    tauto
  · exact indexed
  · exact indexed

omit indexed

theorem mem_heldPayloads_onAuthorizationChange {peerId : String} {state : PeerAuthorizationState}
    (member : payload ∈ (shared.onAuthorizationChange peerId state).heldPayloads) :
    payload ∈ shared.heldPayloads := by
  unfold heldPayloads onAuthorizationChange at member
  unfold heldPayloads
  cases state <;>
    simp only [List.mem_append, List.mem_map, List.mem_filter] at member ⊢ <;>
    grind

end AdminServiceShared

/-! ## What the engine is handed -/

namespace AdminService

open AdminServiceShared (core)

/-- The proposals that the engine has not received yet. -/
def handedProposals (service : AdminService) : List Proposal :=
  match service.consensus with
  | none => []
  | some channels => channels.proposalUpdates.filterMap TwoPhase.handed

/-- A service knows what its hashes stand for, and hands its engine proposals
that name the members of their circuits. -/
structure Faithful (formats : Formats) (preimages : Preimages)
    (service : AdminService) : Prop where
  indexed : service.shared.Indexed formats preimages
  handed : ∀ proposal ∈ service.handedProposals, preimages.Binds formats proposal

variable {formats : Formats} {around : Surroundings} {preimages : Preimages}
  {service after : AdminService}

theorem mem_handedProposals_sendUpdate {update : ProposalUpdate} {proposal : Proposal}
    (member : proposal ∈ handedProposals
      { service with consensus := service.consensus.map (·.sendUpdate update) }) :
    proposal ∈ service.handedProposals ∨ TwoPhase.handed update = some proposal := by
  unfold handedProposals at member ⊢
  cases connected : service.consensus with
  | none =>
    rw [connected] at member
    cases member
  | some channels =>
    rw [connected] at member
    simp only [Option.map_some, Channels.sendUpdate, List.filterMap_append,
      List.mem_append] at member
    rcases member with earlier | last
    · exact Or.inl earlier
    · exact Or.inr (by simpa using last)

theorem onShared_keeps_handed {Failure Other Result : Type} (change : Failure → Other)
    (program : EStateM Failure AdminServiceShared Result) :
    Keeps handedProposals (onShared change program) :=
  Keeps.zoom fun _ _ => rfl

theorem sendToMembers_keeps_handed (circuit : Protos.Circuit) (envelope : Bytes) :
    Keeps handedProposals (sendToMembers around circuit envelope) := by
  refine Keeps.get fun service => Keeps.forM fun member => ?_
  split
  · exact onShared_keeps_handed _ _
  · exact Keeps.pure _

namespace Faithful

variable {Failure Result : Type} {payload : CircuitManagementPayload}
  (faithful : service.Faithful formats preimages)
include faithful

theorem keeps {program : EStateM Failure AdminService Result}
    (sameCore : Keeps (fun service => service.shared.core) program)
    (sameHanded : Keeps handedProposals program) :
    EndsIn program service (Faithful formats preimages) := by
  have kept (after : AdminService)
      (same : after.shared.core = service.shared.core ∧
        after.handedProposals = service.handedProposals) :
      after.Faithful formats preimages := by
    refine ⟨faithful.indexed.of_core same.1, ?_⟩
    rw [same.2]
    exact faithful.handed
  exact ((sameCore service).and (sameHanded service)).mono
    (fun _ after same => kept after same) fun _ after same => kept after same

theorem sendUpdate {update : ProposalUpdate}
    (binds : ∀ proposal, TwoPhase.handed update = some proposal →
      preimages.Binds formats proposal) :
    EndsIn (AdminService.sendUpdate update : EStateM Failure AdminService Unit) service
      (Faithful formats preimages) := by
  unfold AdminService.sendUpdate EndsIn
  rw [ends_modify]
  refine ⟨faithful.indexed, fun proposal member => ?_⟩
  rcases mem_handedProposals_sendUpdate member with earlier | handed
  · exact faithful.handed proposal earlier
  · exact binds proposal handed

theorem register {id : ProposalId} (proposal : Proposal)
    (own : PayloadOf formats id payload) (reads : preimages.Reads formats payload) :
    Faithful formats preimages
      { service with
        shared := { service.shared with
          pendingConsensusProposals := service.shared.pendingConsensusProposals.insert id
              (proposal, payload) } } := by
  obtain ⟨registered, held, opened, pending⟩ := faithful.indexed
  refine ⟨⟨?_, held, opened, pending⟩, faithful.handed⟩
  intro other entry found
  have looked := (lookup_insert_eq _ id other (proposal, payload)).symm.trans found
  by_cases same : other = id
  · rw [if_pos same] at looked
    cases looked
    rw [same]
    exact ⟨own, reads⟩
  · rw [if_neg same] at looked
    exact registered other entry looked

theorem forget (id : ProposalId) : Faithful formats preimages
    { service with
      shared := { service.shared with
          pendingConsensusProposals := service.shared.pendingConsensusProposals.erase id } } := by
  obtain ⟨registered, held, opened, pending⟩ := faithful.indexed
  refine ⟨⟨?_, held, opened, pending⟩, faithful.handed⟩
  intro other entry found
  have looked := (lookup_erase_eq _ id other).symm.trans found
  by_cases same : other = id
  · rw [if_pos same] at looked
    cases looked
  · rw [if_neg same] at looked
    exact registered other entry looked

omit faithful in
theorem onShared {Other : Type} (change : Failure → Other)
    {program : EStateM Failure AdminServiceShared Result}
    (faithful : service.Faithful formats preimages)
    (kept : Ends program service.shared (fun _ after => after.Indexed formats preimages)
      fun _ after => after.Indexed formats preimages) :
    EndsIn (AdminService.onShared change program) service (Faithful formats preimages) := by
  unfold AdminService.onShared EndsIn
  rw [ends_zoom, ends_mapError]
  exact kept.mono (fun _ _ indexed => ⟨indexed, faithful.handed⟩)
    fun _ _ indexed => ⟨indexed, faithful.handed⟩

/-! ## Answering the engine -/

theorem createFrom (blank : formats.twoPhase.requiredVerifiers.parse [] = .ok ⟨[]⟩)
    (reads : preimages.Reads formats payload) :
    EndsIn (createFrom formats around payload) service (Faithful formats preimages) := by
  unfold AdminService.createFrom EndsIn
  rw [ends_bind]
  unfold AdminService.onShared
  rw [ends_zoom, ends_mapError]
  refine (faithful.indexed.proposeChange reads).mono
    (fun proposed shared proposing => ?_) fun _ shared unchanged => ?_
  · obtain ⟨indexed, lists, about, _⟩ := proposing
    rw [ends_bind, ends_fromExcept]
    have proposedOnly : Faithful formats preimages { service with shared := shared } :=
      ⟨indexed, faithful.handed⟩
    refine ⟨fun hash hashed => ?_, fun _ _ => proposedOnly⟩
    rw [mapError_eq_ok_iff] at hashed
    have own : PayloadOf formats ⟨asBytes hash⟩ payload := ⟨hash, hashed, rfl⟩
    unfold addPendingConsensusProposal
    rw [ends_bind, ends_modify]
    refine
      ((proposedOnly.register _ own reads).keeps (sendToMembers_keeps_core around _ _)
        (sendToMembers_keeps_handed _ _)).andThen fun _ _ sent => ?_
    refine sent.sendUpdate fun proposal created => ?_
    cases created
    intro circuit subject
    change preimages.subject formats (preimages.payload ⟨asBytes hash⟩) = _ at subject
    rw [reads.whole _ own, about] at subject
    cases subject
    exact names_consensusProposal blank lists.members
  · rw [unchanged]
    exact faithful

theorem createProposal (blank : formats.twoPhase.requiredVerifiers.parse [] = .ok ⟨[]⟩) :
    EndsIn (createProposal formats around) service (Faithful formats preimages) := by
  unfold AdminService.createProposal EndsIn
  rw [ends_bind, ends_get]
  dsimp only
  split
  · exact faithful
  · split
    · rename_i payload rest queue
      have held := faithful.indexed.held
      unfold AdminServiceShared.heldPayloads at held
      rw [queue] at held
      rw [ends_bind, ends_set]
      refine
        createFrom ⟨⟨faithful.indexed.registered, ?_,
          faithful.indexed.opened, faithful.indexed.pending⟩,
          faithful.handed⟩ blank (held payload (by simp))
      intro other member
      exact held other (List.mem_cons_of_mem _ member)
    · exact faithful.sendUpdate nofun

theorem checkProposal (id : ProposalId) :
    EndsIn (checkProposal formats around id) service (Faithful formats preimages) := by
  unfold AdminService.checkProposal EndsIn
  rw [ends_bind, ends_get]
  split
  · exact faithful
  · rename_i proposal payload found
    have reads := (faithful.indexed.registered id _ found).2
    refine Ends.andThen ?_ fun proposed _ faithful => ?_
    · refine faithful.onShared _ ?_
      refine (faithful.indexed.proposeChange reads).mono
        (fun _ _ proposing => proposing.1) fun _ _ unchanged => ?_
      rw [unchanged]
      exact faithful.indexed
    · split
      · exact faithful.sendUpdate nofun
      · exact faithful.sendUpdate nofun

theorem acceptProposal (id : ProposalId) :
    EndsIn (acceptProposal formats around id) service (Faithful formats preimages) := by
  have committed : EndsIn (AdminServiceShared.commit formats around) service.shared fun after =>
      after.Indexed formats preimages :=
    faithful.indexed.commit
  unfold EndsIn Ends at committed
  unfold AdminService.acceptProposal EndsIn
  rw [ends_bind, ends_get]
  split
  · split
    · cases ran : (AdminServiceShared.commit formats around).run service.shared with
      | ok _ shared =>
        simp only [ran] at committed
        have stored : Faithful formats preimages { service with shared := shared } :=
          ⟨committed, faithful.handed⟩
        exact stored.forget id
      | error error shared =>
        simp only [ran] at committed
        rw [ends_bind, ends_set]
        have stored : Faithful formats preimages { service with shared := shared } :=
          ⟨committed, faithful.handed⟩
        exact stored.sendUpdate nofun
    · exact faithful.sendUpdate nofun
  · exact faithful.sendUpdate nofun

theorem rejectProposal (id : ProposalId) :
    EndsIn (rejectProposal id) service (Faithful formats preimages) := by
  unfold AdminService.rejectProposal EndsIn
  rw [ends_bind, ends_get]
  split
  · exact faithful
  · rw [ends_bind]
    obtain ⟨⟨registered, held, opened, _⟩, handed⟩ := faithful.forget id
    refine ⟨⟨registered, held, opened, fun context pending => ?_⟩, handed⟩
    cases pending

theorem respond {call : Call} {answer : Answer}
    (blank : formats.twoPhase.requiredVerifiers.parse [] = .ok ⟨[]⟩)
    (responded : respond formats around call service = some (answer, after)) :
    after.Faithful formats preimages := by
  cases call with
  | createProposal previous data =>
    rw [← finalState_of_respond_createProposal responded]
    exact (faithful.createProposal blank).finalState
  | checkProposal id =>
    exact holds_of_answer (faithful.checkProposal id) (Option.some.inj responded)
  | acceptProposal id data =>
    exact holds_of_answer (faithful.acceptProposal id) (Option.some.inj responded)
  | rejectProposal id =>
    exact holds_of_answer (faithful.rejectProposal id) (Option.some.inj responded)
  | sendTo _ _ | broadcast _ =>
    have same := unmailed_of_network rfl responded
    refine ⟨faithful.indexed.of_core (congrArg (fun kept => kept.shared.core) same), ?_⟩
    exact (congrArg handedProposals same).symm ▸ faithful.handed

end Faithful

/-! ## Messages and commands -/

def Operation.brings (formats : Formats) (operation : Operation) :
    Option CircuitManagementPayload :=
  match operation with
  | .submitCircuitChange _ payload => some payload
  | _ => (operation.announces formats).map Prod.snd

variable {operation : Operation} {entry : Proposal × CircuitManagementPayload}
  {context : ServiceMessageContext} {messageBytes : Bytes}

theorem brings_of_announces (announced : operation.announces formats = some entry) :
    operation.brings formats = some entry.2 := by
  cases operation with
  | handleMessage around context messageBytes =>
    unfold Operation.brings
    rw [announced]
    rfl
  | submitCircuitChange around payload => cases announced
  | onAuthorizationChange peerId state => cases announced

theorem Faithful.operate (faithful : service.Faithful formats preimages)
    (reads : ∀ payload, operation.brings formats = some payload → preimages.Reads formats payload)
    (binds : ∀ entry, operation.announces formats = some entry → preimages.Binds formats entry.1) :
    (operate formats operation service).Faithful formats preimages := by
  have operated := operated_operate formats operation service
  generalize AdminService.operate formats operation service = after at operated ⊢
  cases operated with
  | refused _ => exact faithful
  | delivered _ _ _ =>
    refine ⟨faithful.indexed, fun proposal member => faithful.handed proposal ?_⟩
    unfold handedProposals at member ⊢
    cases connected : service.consensus with
    | none =>
      rw [connected] at member
      exact member
    | some channels =>
      rw [connected] at member
      exact member
  | @announced _ _ _ entry announced =>
    have registered := faithful.register entry.1 (payloadOf_of_announces announced)
      (reads entry.2 (brings_of_announces announced))
    refine ⟨registered.indexed, fun proposal member => ?_⟩
    rcases mem_handedProposals_sendUpdate member with earlier | handed
    · exact faithful.handed proposal earlier
    · cases handed
      exact binds entry announced
  | @readied around _ _ message _ _ =>
    have keeps := addReadyMember_keeps_core around message.getMemberReady.circuitId
      message.getMemberReady.memberNodeId service.shared
    exact ⟨faithful.indexed.of_core keeps.finalState, faithful.handed⟩
  | submitted => exact ⟨(faithful.indexed.submit (reads _ rfl)).finalState, faithful.handed⟩
  | authorized =>
    obtain ⟨⟨registered, held, opened, pending⟩, handed⟩ := faithful
    refine ⟨⟨registered, fun payload member => ?_, opened, pending⟩, handed⟩
    exact held payload (mem_heldPayloads_onAuthorizationChange member)

/-! ## The circuit of a proposal -/

/-- The circuit of a registered proposal is the one that its payload is
about. -/
def Concerns (formats : Formats) (preimages : Preimages)
    (service : AdminService) (id : ProposalId) : Prop :=
  ∃ circuit, service.proposedCircuit formats id = some circuit ∧
    preimages.subject formats (preimages.payload id) = some circuit

theorem Faithful.checkProposal_concerns
    (faithful : service.Faithful formats preimages) (id : ProposalId) :
    Ends (AdminService.checkProposal formats around id) service
      (fun _ after => after.Concerns formats preimages id)
      fun _ after => after = service := by
  unfold AdminService.checkProposal
  rw [ends_bind, ends_get]
  split
  · rfl
  · rename_i proposal payload found
    obtain ⟨own, reads⟩ := faithful.indexed.registered id _ found
    rw [ends_bind]
    unfold AdminService.onShared
    rw [ends_zoom, ends_mapError]
    refine
      ((faithful.indexed.proposeChange reads).and
        (AdminServiceShared.proposeChange_keeps_unproposed formats around
          payload service.shared)).mono
        (fun proposed shared proposing => ?_)
        fun _ shared unchanged => ?_
    · obtain ⟨⟨_, _, about, current⟩, same⟩ := proposing
      have registered : ({ service with shared := shared } : AdminService).registeredPayload
        id = some payload := by
        have sameRegistry := congrArg
          (fun frame : AdminServiceShared =>
            frame.pendingConsensusProposals.lookup id)
          same
        exact congrArg (Option.map Prod.snd) (sameRegistry.trans found)
      have concerned : Concerns formats preimages { service with shared := shared } id := by
        refine ⟨proposed.2.getCircuitProposal, ?_, ?_⟩
        · unfold proposedCircuit
          rw [registered]
          exact current
        · rw [reads.whole id own]
          exact about
      split
      · exact concerned
      · exact concerned
    · rw [unchanged.1]

end AdminService

end Splinter.Admin
