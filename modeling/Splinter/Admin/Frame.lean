import Splinter.Admin.Service

/-!
# What the methods of the admin service leave alone

Sending and initialising the services of a circuit keeps the `core` of the shared
state, a commit keeps the `frame`, and the submission of a payload keeps
everything but the queues of payloads.
-/

namespace Splinter.Admin

open Library Consensus
open Protos (CircuitManagementPayload CircuitProposal)

namespace AdminServiceShared

/-- The state without its records of what has been sent and initialised. -/
def core (shared : AdminServiceShared) : AdminServiceShared :=
  { shared with
    uninitializedCircuits := ∅
    runningServices := ∅
    initializedServices := []
    sentEvents := []
    sentMessages := [] }

variable (formats : Formats) (around : Surroundings)

def unsent (shared : AdminServiceShared) : AdminServiceShared :=
  { shared with
    sentEvents := []
    sentMessages := [] }

theorem sendEvent_keeps_unsent (circuitManagementType : String)
    (event : Messages.AdminServiceEvent) :
    Keeps unsent (sendEvent around circuitManagementType event) := by
  apply Keeps.modify
  intro shared
  by_cases stored : around.storesEvent event = true <;> simp [stored, unsent]

def unmailed (shared : AdminServiceShared) : AdminServiceShared :=
  { shared with sentMessages := [] }

theorem send_keeps_unmailed (recipient : String) (message : Bytes) :
    Keeps unmailed (send around recipient message) := by
  unfold send
  split
  · exact Keeps.modify fun _ => rfl
  · exact Keeps.throw _

variable (circuit : Protos.Circuit)

theorem initializeServices_keeps {View : Type} {view : AdminServiceShared → View}
    (untouched : ∀ shared running initialized, view
      { shared with
        runningServices := running
        initializedServices := initialized } = view shared) :
    Keeps view (initializeServices around circuit) := by
  apply Keeps.get
  intro shared
  apply Keeps.forM
  intro call
  apply Keeps.bind (Keeps.fromExcept _)
  intro _
  exact Keeps.modify fun _ => untouched _ _ _

variable (circuitId : String)

theorem updateUninitialized_keeps_core (change : UninitializedCircuit → UninitializedCircuit) :
    Keeps core (updateUninitialized circuitId change) :=
  Keeps.modify fun _ => rfl

theorem initializeServicesIfMembersReady_keeps_core :
    Keeps core (initializeServicesIfMembersReady around circuitId) := by
  apply Keeps.get
  intro shared
  cases shared.readyProposal circuitId with
  | none => exact Keeps.pure _
  | some circuitProposal =>
    refine Keeps.bind (Keeps.modify fun _ => rfl) fun _ => ?_
    refine Keeps.bind (initializeServices_keeps around _ fun _ _ _ => rfl) fun _ => ?_
    refine Keeps.bind (Keeps.fromExcept _) fun proposal => ?_
    exact (sendEvent_keeps_unsent around _ _).map core

theorem addUninitializedCircuit_keeps_core (circuit : Protos.CircuitProposal) :
    Keeps core (addUninitializedCircuit around circuit) := by
  refine Keeps.get fun shared => ?_
  refine Keeps.bind (updateUninitialized_keeps_core _ _) fun _ => ?_
  exact initializeServicesIfMembersReady_keeps_core around _

theorem addReadyMember_keeps_core (circuitId memberNodeId : String) :
    Keeps core (addReadyMember around circuitId memberNodeId) := by
  refine Keeps.bind (updateUninitialized_keeps_core _ _) fun _ => ?_
  exact initializeServicesIfMembersReady_keeps_core around circuitId

theorem sendMemberReady_keeps_unmailed :
    Keeps unmailed (sendMemberReady formats around circuit) := by
  refine Keeps.get fun shared => ?_
  split
  · refine Keeps.forM fun member => ?_
    split
    · exact send_keeps_unmailed around _ _
    · exact Keeps.pure _
  · exact Keeps.pure _

/-! ## Commits -/

/-- The proposals consensus is told about and the change that is pending. -/
def agenda (shared : AdminServiceShared) : String ×
    (Finmap fun _ : ProposalId => Proposal × CircuitManagementPayload) ×
    Option CircuitProposalContext :=
  (shared.nodeId, shared.pendingConsensusProposals, shared.pendingChanges)

def frame (shared : AdminServiceShared) : AdminServiceShared :=
  { shared.core with
    openProposals := .new
    splinterState := .new .new }

def unstored (shared : AdminServiceShared) : AdminServiceShared :=
  { shared with
    openProposals := .new
    splinterState := .new .new }

variable {Result : Type} {context : CircuitProposalContext}

theorem onOpenProposals_keeps_unstored (program : EStateM OpenProposalError OpenProposals Result) :
    Keeps unstored (onOpenProposals program) :=
  Keeps.zoom fun _ _ => rfl

theorem addRemoteService_keeps {View : Type} {view : AdminServiceShared → View}
    (untouched : ∀ shared id entry, view
      { shared with splinterState := shared.splinterState.addService id entry } = view shared)
    (service : Circuits.ServiceDefinition) : Keeps view (addRemoteService circuitId service) := by
  intro shared
  unfold addRemoteService
  rw [ends_bind, ends_get]
  split
  · rfl
  · split
    · rfl
    · split
      · exact untouched ..
      · rfl

theorem updateSplinterState_keeps_unstored :
    Keeps unstored (updateSplinterState circuit) := by
  refine Keeps.bind (Keeps.fromExcept _) fun newCircuit => ?_
  refine Keeps.bind (Keeps.forM fun _ => Keeps.modify fun _ => rfl) fun _ => ?_
  refine Keeps.bind (Keeps.modify fun _ => rfl) fun _ => ?_
  exact Keeps.forM fun _ => addRemoteService_keeps _ (fun _ _ _ => rfl) _

/-- What a commit of an accepted proposal does before it adds the circuit to
the uninitialised ones. -/
def acceptance (context : CircuitProposalContext) : Method Unit := do
  let circuit := context.circuitProposal.getCircuitProposal
  updateSplinterState circuit
  let _ ← removeProposal context.circuitProposal.circuitId
  let proposal ← reported context.circuitProposal
  sendEvent around circuit.circuitManagementType
    (.proposalAccepted proposal context.signerPublicKey)
  sendMemberReady formats around circuit

theorem commitChange_of_accepted (accepted : checkApproved context.circuitProposal = .accepted) :
    commitChange formats around context = (do
      acceptance formats around context
      addUninitializedCircuit around context.circuitProposal) := by
  unfold commitChange acceptance
  simp only [accepted, bind_assoc]

/-- The state without what is stored and what has been sent. -/
def undecided (shared : AdminServiceShared) : AdminServiceShared := shared.unsent.unstored

theorem acceptance_keeps_undecided (context : CircuitProposalContext) :
    Keeps undecided (acceptance formats around context) := by
  have updates :=
    (updateSplinterState_keeps_unstored
      context.circuitProposal.getCircuitProposal).map undecided
  refine Keeps.bind updates fun _ => ?_
  refine Keeps.bind ((onOpenProposals_keeps_unstored _).map undecided) fun _ => ?_
  refine Keeps.bind (Keeps.fromExcept _) fun _ => ?_
  refine Keeps.bind ((sendEvent_keeps_unsent around _ _).map undecided) fun _ => ?_
  exact (sendMemberReady_keeps_unmailed formats around _).map undecided

theorem reported_sendEvent_keeps_unsent (circuitProposal : CircuitProposal)
    (event : Messages.CircuitProposal → Messages.AdminServiceEvent) :
    Keeps unsent (do
      let proposal ← reported circuitProposal
      sendEvent around circuitProposal.getCircuitProposal.circuitManagementType (event proposal)) :=
  Keeps.bind (Keeps.fromExcept _) fun _ => sendEvent_keeps_unsent around _ _

theorem commitChange_keeps_undecided
    (unaccepted : checkApproved context.circuitProposal ≠ .accepted) :
    Keeps undecided (commitChange formats around context) := by
  have report := fun event =>
    (reported_sendEvent_keeps_unsent around context.circuitProposal event).map undecided
  unfold commitChange
  dsimp only
  cases status : checkApproved context.circuitProposal with
  | accepted => exact (unaccepted status).elim
  | pending =>
    refine Keeps.bind ((onOpenProposals_keeps_unstored _).map undecided) fun _ => ?_
    split
    · exact report _
    · exact report _
    · exact Keeps.throw _
  | rejected =>
    refine Keeps.bind ((onOpenProposals_keeps_unstored _).map undecided) fun _ => ?_
    exact report _

theorem commitChange_keeps_frame (context : CircuitProposalContext) :
    Keeps frame (commitChange formats around context) := by
  by_cases accepted : checkApproved context.circuitProposal = .accepted
  · rw [commitChange_of_accepted formats around accepted]
    refine Keeps.bind ((acceptance_keeps_undecided formats around context).map frame) fun _ => ?_
    exact (addUninitializedCircuit_keeps_core around _).map frame
  · exact (commitChange_keeps_undecided formats around accepted).map frame

theorem commit_ends (shared : AdminServiceShared) : EndsIn (commit formats around) shared
    fun after => after.frame = { shared.frame with pendingChanges := none } := by
  unfold commit EndsIn
  rw [ends_bind, ends_get, ends_bind, ends_set]
  split
  · exact (commitChange_keeps_frame formats around _).ends rfl
  · rfl

/-! ## Proposed changes -/

/-- What the change for a payload is computed from, and the change that is
kept. -/
def slot (shared : AdminServiceShared) :=
  (shared.agenda, shared.openProposals, shared.splinterState)

theorem proposedChange_congr {shared other : AdminServiceShared}
    (sameNode : shared.nodeId = other.nodeId)
    (sameProposals : shared.openProposals = other.openProposals)
    (sameState : shared.splinterState = other.splinterState) (payload : CircuitManagementPayload) :
    shared.proposedChange formats around payload = other.proposedChange formats around payload := by
  unfold proposedChange createdChange votedChange validateCreateCircuit
    votedProposal getProposal hasProposal
  rw [sameNode, sameProposals, sameState]

variable (payload : CircuitManagementPayload)

theorem proposeChange_ends (shared : AdminServiceShared) :
    Ends (proposeChange formats around payload) shared
      (fun proposed after =>
        ∃ change, shared.proposedChange formats around payload = .ok change ∧
            proposed = (change.expectedHash, change.context.circuitProposal) ∧
            after =
              { shared with
                pendingChanges := some change.context
                currentConsensusVerifiers := change.verifiers })
      fun _ after => after = shared := by
  unfold proposeChange
  simp only [ends_bind, ends_get, ends_fromExcept, ends_set, ends_pure]
  exact ⟨fun change computed => ⟨change, computed, rfl, rfl⟩, fun _ _ => trivial⟩

/-- The state without what a proposed change leaves behind. -/
def unproposed (shared : AdminServiceShared) : AdminServiceShared :=
  { shared with
    pendingChanges := none
    currentConsensusVerifiers := [] }

theorem proposeChange_keeps_unproposed :
    Keeps unproposed (proposeChange formats around payload) := by
  intro shared
  refine (proposeChange_ends formats around payload shared).mono
    (fun _ after proposed => ?_) fun _ after unchanged => ?_
  · obtain ⟨change, _, _, rfl⟩ := proposed
    rfl
  · rw [unchanged]

/-- The state without the payloads that wait to be proposed. -/
def unqueued (shared : AdminServiceShared) : AdminServiceShared :=
  { shared with
    unpeeredPayloads := []
    pendingCircuitPayloads := [] }

theorem submit_keeps_unqueued : Keeps unqueued (submit formats around payload) := by
  refine Keeps.bind (Keeps.fromExcept _) fun header => ?_
  split
  · intro shared
    unfold proposeCircuit
    simp only [ends_bind, ends_get, ends_fromExcept]
    refine ⟨fun peers _ => ?_, fun _ _ => trivial⟩
    split <;> rfl
  · exact Keeps.modify fun _ => rfl
  · exact Keeps.throw _
  · exact Keeps.throw _

end AdminServiceShared

/-! ## The service -/

namespace AdminService

open AdminServiceShared (core)
open Service (ServiceMessageContext)

variable (formats : Formats) (around : Surroundings)

theorem onShared_keeps {View Failure Other Result : Type} {view : AdminServiceShared → View}
    {program : EStateM Failure AdminServiceShared Result}
    (keeps : Keeps view program) (change : Failure → Other) :
    Keeps (fun service => view service.shared) (onShared change program) :=
  Keeps.zoomPart keeps.mapError fun _ _ => rfl

theorem sendUpdate_keeps_shared {Failure : Type} (update : ProposalUpdate) :
    Keeps shared (sendUpdate update : EStateM Failure AdminService Unit) :=
  Keeps.modify fun _ => rfl

theorem sendToMembers_keeps_core (circuit : Protos.Circuit) (envelope : Bytes) :
    Keeps (fun service => service.shared.core) (sendToMembers around circuit envelope) := by
  refine Keeps.get fun service => Keeps.forM fun member => ?_
  split
  · have keeps := AdminServiceShared.send_keeps_unmailed around
    exact onShared_keeps ((keeps _ _).map core) _
  · exact Keeps.pure _

/-- The service without the messages that have been sent. -/
def unmailed (service : AdminService) : AdminService :=
  { service with shared := service.shared.unmailed }

theorem sendConsensus_keeps_unmailed (recipient : String) (envelope : Bytes) :
    Keeps unmailed (sendConsensus around recipient envelope) := by
  unfold sendConsensus
  split
  · exact Keeps.throw _
  · exact Keeps.modify fun _ => rfl

theorem sendTo_keeps_unmailed (peerId : PeerId) (message : Bytes) :
    Keeps unmailed (sendTo formats around peerId message) := by
  refine Keeps.get fun service => ?_
  split
  · exact Keeps.throw _
  · exact Keeps.refuse (sendConsensus_keeps_unmailed around _ _)

theorem broadcast_keeps_unmailed (message : Bytes) :
    Keeps unmailed (broadcast formats around message) := by
  refine Keeps.get fun service => ?_
  refine Keeps.refuse (Keeps.forM fun verifier => ?_)
  split
  · exact sendConsensus_keeps_unmailed around _ _
  · exact Keeps.pure _

theorem acceptProposal_ends (service : AdminService) (id : ProposalId) :
    Ends (acceptProposal formats around id) service
      (fun _ after =>
        ∃ registry pending,
          (registry = service.shared.pendingConsensusProposals ∨
            registry = service.shared.pendingConsensusProposals.erase id) ∧
          after.shared.frame =
            { service.shared.frame with
              pendingConsensusProposals := registry
              pendingChanges := pending })
      fun _ _ => False := by
  have committed := AdminServiceShared.commit_ends formats around service.shared
  unfold acceptProposal
  unfold EndsIn Ends at committed
  rw [ends_bind, ends_get]
  split
  · split
    · cases ran : (AdminServiceShared.commit formats around).run service.shared with
      | ok _ shared =>
        simp only [ran] at committed
        have forgotten := congrArg
          (fun kept : AdminServiceShared =>
            { kept with pendingConsensusProposals := kept.pendingConsensusProposals.erase id })
          committed
        exact ⟨_, none, Or.inr rfl, forgotten⟩
      | error error shared =>
        simp only [ran] at committed
        exact ⟨_, none, Or.inl rfl, committed⟩
    · exact ⟨_, _, Or.inl rfl, rfl⟩
  · exact ⟨_, _, Or.inl rfl, rfl⟩

/-! ## Messages and commands -/

def Operation.announces (formats : Formats) :
    Operation → Option (Proposal × CircuitManagementPayload)
  | .handleMessage _ _ messageBytes =>
    match formats.protos.adminMessage.parse messageBytes with
    | .error _ => none
    | .ok message =>
      match message.messageType with
      | .proposedCircuit =>
        let proposed := message.getProposedCircuit
        match hashPayload formats proposed.getCircuitPayload with
        | .error _ => none
        | .ok hash => some (receivedProposal proposed hash, proposed.getCircuitPayload)
      | _ => none
  | _ => none

theorem finalState_onShared {Failure Other : Type} (change : Failure → Other)
    (program : EStateM Failure AdminServiceShared Unit) (service : AdminService) :
    finalState (onShared change program) service =
      { service with shared := finalState program service.shared } := by
  have ends : EndsIn (onShared change program) service
      (· = { service with shared := finalState program service.shared }) := by
    unfold onShared EndsIn
    rw [ends_zoom, ends_mapError]
    unfold Ends finalState
    cases program.run service.shared <;> rfl
  exact ends.finalState

/-- What an operation can do to the service. -/
inductive Operated (service : AdminService) : Operation → AdminService → Prop
  | refused {operation : Operation} : operation.announces formats = none →
    Operated service operation service
  | delivered {around : Surroundings} {context : ServiceMessageContext} {messageBytes : Bytes}
    {message : Protos.AdminMessage} {consensusMessage : ConsensusMessage} :
    formats.protos.adminMessage.parse messageBytes = .ok message →
    message.messageType = .consensusMessage →
    formats.consensus.consensusMessage.parse message.consensusMessage = .ok consensusMessage →
    Operated service (.handleMessage around context messageBytes)
      { service with consensus := service.consensus.map (·.sendMessage context consensusMessage) }
  | announced {around : Surroundings} {context : ServiceMessageContext} {messageBytes : Bytes}
    {entry : Proposal × CircuitManagementPayload} :
    (Operation.handleMessage around context messageBytes).announces formats = some entry →
    Operated service (.handleMessage around context messageBytes)
      { service with
        shared := { service.shared with
          pendingConsensusProposals :=
            service.shared.pendingConsensusProposals.insert entry.1.id entry }
        consensus := service.consensus.map
          (·.sendUpdate (.proposalReceived entry.1 ⟨asBytes context.sender⟩)) }
  | readied {around : Surroundings} {context : ServiceMessageContext} {messageBytes : Bytes}
    {message : Protos.AdminMessage} :
    formats.protos.adminMessage.parse messageBytes = .ok message →
    message.messageType = .memberReady →
    Operated service (.handleMessage around context messageBytes)
      { service with
        shared := finalState
          (AdminServiceShared.addReadyMember around message.getMemberReady.circuitId
            message.getMemberReady.memberNodeId) service.shared }
  | submitted {around : Surroundings} {payload : CircuitManagementPayload} :
    Operated service (.submitCircuitChange around payload)
      { service with
        shared := finalState (AdminServiceShared.submit formats around payload) service.shared }
  | authorized {peerId : String} {state : AdminServiceShared.PeerAuthorizationState} :
    Operated service (.onAuthorizationChange peerId state)
      { service with shared := service.shared.onAuthorizationChange peerId state }

theorem operated_operate (operation : Operation) (service : AdminService) :
    Operated formats service operation (operate formats operation service) := by
  unfold operate
  cases operation with
  | submitCircuitChange around payload =>
    unfold submitCircuitChange
    dsimp only
    rw [finalState_onShared]
    exact .submitted
  | onAuthorizationChange peerId state => exact .authorized
  | handleMessage around context messageBytes =>
    have refused : Operation.announces formats (.handleMessage around context messageBytes) = none →
      Operated formats service _ service := .refused
    unfold Operation.announces at refused
    unfold handleMessage
    dsimp only
    cases parsed : formats.protos.adminMessage.parse messageBytes with
    | error error => exact refused (by simp only [parsed])
    | ok message =>
      dsimp only
      cases typed : message.messageType with
      | unset => exact refused (by simp only [parsed, typed])
      | memberReady =>
        dsimp only
        rw [finalState_onShared]
        exact .readied parsed typed
      | consensusMessage =>
        unfold handleConsensusMessage
        obtain ⟨serviceId, shared, consensus⟩ := service
        cases read : formats.consensus.consensusMessage.parse message.consensusMessage with
        | error error => cases consensus <;> exact refused (by simp only [parsed, typed])
        | ok consensusMessage => cases consensus <;> exact .delivered parsed typed read
      | proposedCircuit =>
        unfold handleProposedCircuit
        dsimp only
        obtain ⟨serviceId, shared, consensus⟩ := service
        cases hashed : hashPayload formats message.getProposedCircuit.getCircuitPayload with
        | error error => exact refused (by simp only [parsed, typed, hashed])
        | ok hash =>
          have announces : Operation.announces formats
              (.handleMessage around context messageBytes) =
              some (receivedProposal message.getProposedCircuit hash,
                message.getProposedCircuit.getCircuitPayload) := by
            simp only [Operation.announces, parsed, typed, hashed]
          cases consensus <;> exact .announced announces

def registryWith (service : AdminService)
    (announced : Option (Proposal × CircuitManagementPayload)) :
    Finmap fun _ : ProposalId => Proposal × CircuitManagementPayload :=
  match announced with
  | some entry => service.shared.pendingConsensusProposals.insert entry.1.id entry
  | none => service.shared.pendingConsensusProposals

/-- An operation registers the proposal it announces; else it changes what the
core leaves out, and the queues. -/
theorem kept_operate (operation : Operation) (service : AdminService) :
    (operate formats operation service).shared.core.unqueued =
      { service.shared.core.unqueued with
        pendingConsensusProposals := service.registryWith (operation.announces formats) } := by
  have operated := operated_operate formats operation service
  generalize operate formats operation service = after at operated ⊢
  cases operated with
  | refused silent =>
    rw [silent]
    rfl
  | delivered parsed typed _ =>
    simp only [Operation.announces, parsed, typed]
    rfl
  | announced announces =>
    rw [announces]
    rfl
  | @readied around _ _ message parsed typed =>
    simp only [Operation.announces, parsed, typed]
    have keeps := (AdminServiceShared.addReadyMember_keeps_core around
      message.getMemberReady.circuitId message.getMemberReady.memberNodeId).map
      AdminServiceShared.unqueued
    exact (keeps service.shared).finalState
  | submitted =>
    exact congrArg core
      (AdminServiceShared.submit_keeps_unqueued formats _ _ service.shared).finalState
  | authorized => rfl

theorem pendingConsensusProposals_operate (operation : Operation) (service : AdminService) :
    (operate formats operation service).shared.pendingConsensusProposals =
      service.registryWith (operation.announces formats) :=
  congrArg AdminServiceShared.pendingConsensusProposals (kept_operate formats operation service)

end AdminService

end Splinter.Admin
