import Splinter.Scabbard.Service
import Splinter.Services.Participant

/-!
# The pending change of a scabbard service

A service is prepared for a proposal if the change it keeps is the one of the batch
registered for it.  A message can register another batch for the same proposal.
-/

namespace Splinter.ScabbardService

open Library Service Consensus Services ScabbardState

def ScabbardState.Pending (machine : Machine) (state : ScabbardState) (batch : BatchPair) : Prop :=
  ∃ txnReceipts, ScabbardState.receipts machine
    (machine.execute state.currentStateRoot batch) = .ok txnReceipts ∧
    state.pendingChanges = some (batch.batch.headerSignature, txnReceipts)

theorem ScabbardState.prepareChange_ends (machine : Machine)
    (around : Surroundings) (batch : BatchPair) (state : ScabbardState) :
    Ends (prepareChange machine around batch) state
      (fun _ after => after.Pending machine batch) fun _ _ => True := by
  unfold prepareChange
  simp only [ends_bind, ends_fromExcept, ends_get, ends_set, ends_pure, implies_true, and_true]
  intro _ _ txnReceipts computed _ _
  exact ⟨txnReceipts, computed, rfl⟩

namespace ScabbardState

variable (around : Surroundings)

/-- The `HEAD` entry after `commit`, which `write_current_state_root` replaces if the
database does not refuse. -/
def headAfterCommit (state : ScabbardState) (head : Option Bytes) : Option Bytes :=
  match state.pendingChanges with
  | none => head
  | some (_, txnReceipts) =>
    match around.commitState state.currentStateRoot (receiptsIntoStateChanges txnReceipts) with
    | .error _ => head
    | .ok root =>
      match parseHex root with
      | .error _ => head
      | .ok bytes =>
        match around.writeStateRoot bytes with
        | .error _ => head
        | .ok () => some bytes

/-- No step of a commit on the root fails. -/
def Commits (root : String) (txnReceipts : List TransactionReceipt) : Prop := ∃ next bytes,
    around.commitState root (receiptsIntoStateChanges txnReceipts) = .ok next ∧
      parseHex next = .ok bytes ∧ around.writeStateRoot bytes = .ok () ∧
      around.appendReceipts txnReceipts = .ok () ∧
      around.storeHistory (receiptsIntoStateChanges txnReceipts) = .ok ()

variable {around} {state : ScabbardState}

theorem commit_of_pending {signature : String} {txnReceipts : List TransactionReceipt}
    (pending : state.pendingChanges = some (signature, txnReceipts)) :
    Ends (commit around) state
      (fun _ after => Commits around state.currentStateRoot txnReceipts ∧
        ∃ bytes, (∀ head, headAfterCommit around state head = some bytes) ∧
          parseHex after.currentStateRoot = .ok bytes ∧
          around.commitState state.currentStateRoot (receiptsIntoStateChanges txnReceipts) =
            .ok after.currentStateRoot)
      fun _ after => ¬ Commits around state.currentStateRoot txnReceipts ∧
        after.pendingChanges = none := by
  unfold commit commitChanges writeCurrentStateRoot headAfterCommit Commits
  simp only [ends_bind, ends_get, ends_set, pending]
  cases merkle : around.commitState state.currentStateRoot
    (receiptsIntoStateChanges txnReceipts) with
  | error error => simp [ends_fromExcept, Except.mapError]
  | ok root =>
    cases parsed : parseHex root with
    | error error => simp [ends_fromExcept, Except.mapError, parsed]
    | ok bytes =>
      cases written : around.writeStateRoot bytes <;>
        cases appended : around.appendReceipts txnReceipts <;>
        cases stored : around.storeHistory (receiptsIntoStateChanges txnReceipts) <;>
        simp [ends_fromExcept, Except.mapError, parsed, written]

theorem commit_of_none (none : state.pendingChanges = none) :
    Ends (commit around) state (fun _ _ => False) fun _ after => after = state := by
  unfold commit
  simp only [ends_bind, ends_get, ends_set, none, ends_throw]
  rw [← none]

/-- Something is pending and can be committed. -/
def Committable (around : Surroundings) (state : ScabbardState) : Prop := ∃ signature txnReceipts,
  state.pendingChanges = some (signature, txnReceipts) ∧
    Commits around state.currentStateRoot txnReceipts

theorem commit_ends (state : ScabbardState) :
    Ends (commit around) state (fun _ _ => state.Committable around)
      fun _ _ => ¬ state.Committable around := by
  cases pending : state.pendingChanges with
  | none =>
    refine (commit_of_none pending).mono (fun _ _ => False.elim) fun _ _ _ => ?_
    rintro ⟨_, _, found, _⟩
    cases pending.symm.trans found
  | some change =>
    refine (commit_of_pending pending).mono (fun _ _ committed => ⟨_, _, pending, committed.1⟩)
      fun _ _ failed => ?_
    rintro ⟨_, _, found, commits⟩
    cases pending.symm.trans found
    exact failed.1 commits

end ScabbardState

namespace Scabbard

variable (formats : Formats)

/-- What the engine of a scabbard service is connected to. -/
def host : Host Scabbard Operation where
  channels := consensus
  withChannels channels service := { service with consensus := some channels }
  Answers call before answer after := ∃ around, respond formats around call before = (answer, after)
  Operates operation before after := after = operate formats operation before

/-- The same, with the surroundings that answer. -/
def hostAt (around : Surroundings) : Host Scabbard Operation :=
  { host formats with
    Answers := fun call before answer after =>
      respond formats around call before = (answer, after) }

def started (timeout : Nat) (now : TwoPhase.Instant)
    (serviceId circuitId : String) (peerServices : List String)
    (stateRoot : String) : Participant Scabbard where
  engine := .startup timeout now ⟨asBytes serviceId⟩ (peerServices.map fun peer => ⟨asBytes peer⟩)
  service := (Scabbard.new serviceId circuitId peerServices stateRoot).start

/-- The batch registered for the proposal leads to the pending change. -/
def Prepared (service : Scabbard) (id : ProposalId) : Prop := ∃ batch,
    service.getProposedBatch id = some batch ∧ service.shared.state.Pending formats.machine batch

def Accepts (service : Scabbard) (id : ProposalId) : Prop := ∃ batch txnReceipts,
    service.getProposedBatch id = some batch ∧ ScabbardState.receipts formats.machine
      (formats.machine.execute service.shared.state.currentStateRoot batch) = .ok txnReceipts ∧
      ∀ around, (acceptProposal around id).run service =
        (do
          onState (fun error => ProposalManagerError.internal error.display)
            (ScabbardState.commitChanges around batch.batch.headerSignature txnReceipts)
          sendUpdate (.proposalAccepted id)).run
          { service with
            shared := { service.shared with
              proposedBatches := service.shared.proposedBatches.erase id
              state := { service.shared.state with pendingChanges := none } } }

def registration : Operation → Option (ProposalId × BatchPair)
  | .addBatches _ _ => none
  | .handleMessage _ messageBytes =>
    match formats.scabbardMessage.parse messageBytes with
    | .error _ => none
    | .ok message =>
      match message.messageType with
      | .proposedBatch =>
        match formats.consensus.proposal.parse
          message.getProposedBatch.proposal,
          formats.readBatch message.getProposedBatch.batch with
        | .ok proposal, .ok batch => some (proposal.id, batch)
        | _, _ => none
      | _ => none

/-- The operation registers no batch for the proposal that has another
change. -/
def Harmless (operation : Operation) (service : Scabbard) (id : ProposalId) : Prop := ∀ batch,
    registration formats operation = some (id, batch) →
      service.shared.state.Pending formats.machine batch

def slot (service : Scabbard) :=
  (service.shared.proposedBatches, service.shared.state.currentStateRoot,
    service.shared.state.pendingChanges)

variable {formats} {around : Surroundings} {service : Scabbard} {id : ProposalId}

theorem pending_congr {machine : Machine} {state other : ScabbardState} {batch : BatchPair}
    (sameRoot : state.currentStateRoot = other.currentStateRoot)
    (samePending : state.pendingChanges = other.pendingChanges) :
    state.Pending machine batch ↔ other.Pending machine batch := by
  unfold ScabbardState.Pending
  rw [sameRoot, samePending]

theorem Prepared.of_slot {after : Scabbard} (prepared : service.Prepared formats id)
    (same : after.slot = service.slot) :
    after.Prepared formats id := by
  obtain ⟨batch, registered, pending⟩ := prepared
  have batches : after.shared.proposedBatches = service.shared.proposedBatches :=
    congrArg (fun slot => slot.1) same
  refine ⟨batch, ?_, ?_⟩
  · unfold getProposedBatch
    rw [batches]
    exact registered
  · exact
      (pending_congr (congrArg (fun slot => slot.2.1) same)
        (congrArg (fun slot => slot.2.2) same)).mpr pending

/-! ## Sending -/

section Sending

variable (around)

/-- The service without the messages that have been sent. -/
def unmailed (service : Scabbard) : Scabbard :=
  { service with shared := { service.shared with sentMessages := [] } }

theorem send_keeps_unmailed {Failure : Type} (change : ErrorText → Failure)
    (recipient : String) (message : Bytes) :
    Keeps unmailed (send around change recipient message) := by
  unfold send
  split
  · exact Keeps.throw _
  · exact Keeps.modify fun _ => rfl

theorem sendTo_keeps_unmailed (peerId : PeerId) (message : Bytes) :
    Keeps unmailed (sendTo formats around peerId message) := by
  refine Keeps.get fun service => ?_
  split
  · exact Keeps.throw _
  · exact Keeps.refuse (Keeps.refuse (send_keeps_unmailed around _ _ _))

theorem broadcast_keeps_unmailed (message : Bytes) :
    Keeps unmailed (broadcast formats around message) := by
  refine Keeps.get fun service => ?_
  exact Keeps.refuse (Keeps.forM fun peer => send_keeps_unmailed around _ _ _)

end Sending

/-! ## Deciding -/

theorem checkProposal_prepares (service : Scabbard) (id : ProposalId) :
    Ends (checkProposal formats around id) service
      (fun _ after => after.Prepared formats id) fun _ _ => True := by
  unfold checkProposal
  rw [ends_bind, ends_get]
  split
  · trivial
  · rename_i batch registered
    rw [ends_bind]
    unfold onState
    rw [ends_zoom, ends_mapError]
    refine
      (prepareChange_ends formats.machine around batch
        service.shared.state).mono (fun hash state pending => ?_)
        fun _ _ _ => trivial
    have prepared : Prepared formats
        { service with shared := { service.shared with state := state } }
      id :=
      ⟨batch, registered, pending⟩
    split
    · exact prepared.of_slot rfl
    · exact prepared.of_slot rfl

theorem rejectProposal_ends (service : Scabbard) (id : ProposalId) :
    Ends (rejectProposal id) service
      (fun _ after => service.getProposedBatch id ≠ none ∧
        after.shared.state.pendingChanges = none)
      fun _ after => service.getProposedBatch id = none ∧ after = service := by
  unfold rejectProposal removeProposedBatch
  rw [ends_bind, ends_bind, ends_get]
  split
  · rename_i unknown
    exact ⟨unknown, rfl⟩
  · rename_i registered
    exact ⟨by simp [registered], rfl⟩

theorem acceptProposal_ends (service : Scabbard) (id : ProposalId) :
    Ends (acceptProposal around id) service (fun _ _ => service.shared.state.Committable around)
      fun _ after => after.getProposedBatch id = none ∧
        (service.getProposedBatch id = none ∨ ¬ service.shared.state.Committable around) := by
  unfold acceptProposal removeProposedBatch
  rw [ends_bind, ends_bind, ends_get]
  split
  · rename_i unknown
    exact ⟨unknown, Or.inl unknown⟩
  · rw [ends_set, ends_bind]
    unfold onState
    rw [ends_zoom, ends_mapError]
    refine (commit_ends _).mono (fun _ _ committed => committed) fun _ _ failed => ?_
    exact ⟨Finmap.lookup_erase _ _, Or.inr failed⟩

theorem Prepared.accepts (prepared : service.Prepared formats id) : service.Accepts formats id := by
  obtain ⟨batch, registered, txnReceipts, computed, kept⟩ := prepared
  refine ⟨batch, txnReceipts, registered, computed, fun around => ?_⟩
  have removed : (removeProposedBatch id).run service = .ok ()
      { service with
        shared := { service.shared with
          proposedBatches := service.shared.proposedBatches.erase id } } := by
    have reading (program : Scabbard → EStateM ProposalManagerError Scabbard Unit) :
        (get >>= program).run service = (program service).run service := rfl
    unfold removeProposedBatch
    rw [reading, registered]
    rfl
  have committed : (commit around).run service.shared.state =
      (commitChanges around batch.batch.headerSignature txnReceipts).run
        { service.shared.state with pendingChanges := none } := by
    have reading (program : ScabbardState → EStateM ScabbardStateError ScabbardState Unit) :
        (get >>= program).run service.shared.state =
          (program service.shared.state).run service.shared.state := rfl
    unfold ScabbardState.commit
    rw [reading, kept]
    rfl
  unfold acceptProposal onState
  rw [EStateM.run_bind, removed]
  simp only [EStateM.run_bind]
  have zoomed :
      (mapError (fun error => ProposalManagerError.internal error.display)
        (commit around)).run service.shared.state =
        (mapError (fun error => ProposalManagerError.internal error.display)
          (commitChanges around batch.batch.headerSignature txnReceipts)).run
          { service.shared.state with pendingChanges := none } := by
    unfold mapError
    simp only [EStateM.run] at committed ⊢
    rw [committed]
  unfold zoom
  simp only [EStateM.run] at zoomed ⊢
  rw [zoomed]

/-! ## Messages and commands -/

def queuedBatches (formats : Formats) : Operation → List BatchPair
  | .handleMessage _ _ => []
  | .addBatches around batches =>
    if verifyBatches formats around batches = .ok true then batches else []

theorem exists_queueBatches (around : Surroundings) (batches : List BatchPair)
    (service : Scabbard) :
    ∃ history, batches.foldl (queueBatch around) service =
      { service with
        shared := { service.shared with
          batchQueue := service.shared.batchQueue ++ batches
          state := { service.shared.state with batchHistory := history } } } := by
  induction batches generalizing service with
  | nil => exact ⟨service.shared.state.batchHistory, by rw [List.append_nil]; rfl⟩
  | cons batch batches ih =>
    obtain ⟨history, queued⟩ := ih (queueBatch around service batch)
    refine ⟨history, queued.trans ?_⟩
    simp only [queueBatch, List.append_assoc, List.singleton_append]

/-- What an operation can do to the service. -/
inductive Operated (formats : Formats) (service : Scabbard) : Operation → Scabbard → Prop
  | refused {operation : Operation} : registration formats operation = none →
    queuedBatches formats operation = [] → Operated formats service operation service
  | delivered {context : ServiceMessageContext} {messageBytes : Bytes} {message : ScabbardMessage}
    {consensusMessage : ConsensusMessage} :
    formats.scabbardMessage.parse messageBytes = .ok message →
    message.messageType = .consensusMessage →
    formats.consensus.consensusMessage.parse message.consensusMessage = .ok consensusMessage →
    Operated formats service (.handleMessage context messageBytes)
      { service with consensus := service.consensus.map (·.sendMessage context consensusMessage) }
  | registered {context : ServiceMessageContext} {messageBytes : Bytes} {id : ProposalId}
    {batch : BatchPair} (update : ProposalUpdate) :
    registration formats (.handleMessage context messageBytes) = some (id, batch) →
    Operated formats service (.handleMessage context messageBytes)
      { service with
        shared := { service.shared with
          proposedBatches := service.shared.proposedBatches.insert id batch }
        consensus := service.consensus.map (·.sendUpdate update) }
  | queued {around : Surroundings} {batches : List BatchPair} {history : BatchHistory} :
    verifyBatches formats around batches = .ok true →
    Operated formats service (.addBatches around batches)
      { service with
        shared := { service.shared with
          batchQueue := service.shared.batchQueue ++ batches
          state := { service.shared.state with batchHistory := history } } }

theorem operated_operate (formats : Formats) (operation : Operation) (service : Scabbard) :
    Operated formats service operation (operate formats operation service) := by
  have refused := @Operated.refused formats service operation
  unfold operate
  cases operation with
  | addBatches around batches =>
    unfold queuedBatches at refused
    dsimp only [addBatches]
    cases verified : verifyBatches formats around batches with
    | error error => exact refused rfl (by simp [verified])
    | ok correct =>
      cases correct with
      | false => exact refused rfl (by simp [verified])
      | true =>
        obtain ⟨history, same⟩ := exists_queueBatches around batches service
        have queued := @Operated.queued formats service around batches history verified
        rw [← same] at queued
        exact queued
  | handleMessage context messageBytes =>
    unfold registration at refused
    unfold handleMessage
    dsimp only
    cases parsed : formats.scabbardMessage.parse messageBytes with
    | error error => exact refused (by simp only [parsed]) rfl
    | ok message =>
      dsimp only
      cases typed : message.messageType with
      | unset => exact refused (by simp only [parsed, typed]) rfl
      | consensusMessage =>
        unfold handleConsensusMessage
        obtain ⟨circuitId, serviceId, shared, consensus⟩ := service
        cases read : formats.consensus.consensusMessage.parse message.consensusMessage with
        | error error => cases consensus <;> exact refused (by simp only [parsed, typed]) rfl
        | ok consensusMessage => cases consensus <;> exact .delivered parsed typed read
      | proposedBatch =>
        unfold handleProposedBatch
        dsimp only
        obtain ⟨circuitId, serviceId, shared, consensus⟩ := service
        cases read : formats.consensus.proposal.parse message.getProposedBatch.proposal with
        | error error => exact refused (by simp only [parsed, typed, read]) rfl
        | ok proposal =>
          cases known : formats.readBatch message.getProposedBatch.batch with
          | error error => exact refused (by simp only [parsed, typed, read, known]) rfl
          | ok batch =>
            have registers : registration formats (.handleMessage context messageBytes) =
                some (proposal.id, batch) := by
              simp only [registration, parsed, typed, read, known]
            let sender := message.getProposedBatch.serviceId
            cases consensus <;>
              exact .registered (.proposalReceived proposal ⟨asBytes sender⟩) registers

def slotAfter (formats : Formats) (operation : Operation) (service : Scabbard) :=
  match registration formats operation with
  | none => service.slot
  | some (id, batch) => (service.shared.proposedBatches.insert id batch, service.slot.2)

theorem operate_slot (service : Scabbard) (operation : Operation) :
    (operate formats operation service).slot = service.slotAfter formats operation := by
  have operated := operated_operate formats operation service
  generalize operate formats operation service = after at operated ⊢
  unfold slotAfter
  cases operated with
  | refused silent _ => rw [silent]
  | delivered parsed typed _ =>
    simp only [registration, parsed, typed]
    rfl
  | registered _ registers =>
    rw [registers]
    rfl
  | queued _ => rfl

theorem batchQueue_operate (formats : Formats) (operation : Operation) (service : Scabbard) :
    (operate formats operation service).shared.batchQueue =
      service.shared.batchQueue ++ queuedBatches formats operation := by
  have operated := operated_operate formats operation service
  generalize operate formats operation service = after at operated ⊢
  cases operated with
  | refused _ empty => rw [empty, List.append_nil]
  | delivered _ _ _ | registered _ _ => exact (List.append_nil _).symm
  | queued verified => simp only [queuedBatches, verified, if_true]

theorem prepared_operate_iff (prepared : service.Prepared formats id) (operation : Operation) :
    (operate formats operation service).Prepared formats id ↔
      service.Harmless formats operation id := by
  have same : (operate formats operation service).slot = _ := operate_slot service operation
  unfold slotAfter at same
  unfold Harmless
  cases registering : registration formats operation with
  | none =>
    rw [registering] at same
    refine iff_of_true (prepared.of_slot same) ?_
    intro batch impossible
    cases impossible
  | some entry =>
    obtain ⟨other, batch⟩ := entry
    rw [registering] at same
    have batches : (operate formats operation service).shared.proposedBatches =
        service.shared.proposedBatches.insert other batch :=
      congrArg (fun slot => slot.1) same
    have pending (candidate : BatchPair) : (operate formats operation service).shared.state.Pending
        formats.machine candidate ↔
        service.shared.state.Pending formats.machine candidate :=
      pending_congr (congrArg (fun slot => slot.2.1) same) (congrArg (fun slot => slot.2.2) same)
    unfold Prepared getProposedBatch
    simp only [batches, pending]
    by_cases own : id = other
    · subst own
      simp [Finmap.lookup_insert]
    · obtain ⟨known, registered, kept⟩ := prepared
      rw [Finmap.lookup_insert_of_ne _ own]
      refine iff_of_true ⟨known, registered, kept⟩ ?_
      intro candidate same
      cases same
      exact (own rfl).elim

theorem unmailed_of_network {call : Call} {answer : Answer} {after : Scabbard}
    (network : TwoPhase.isNetworkCall call = true)
    (responded : respond formats around call service = (answer, after)) :
    after.unmailed = service.unmailed := by
  cases call with
  | createProposal _ _ | checkProposal _ | acceptProposal _ _
  | rejectProposal _ => cases network
  | sendTo peerId message => exact kept_of_answer (sendTo_keeps_unmailed around _ _) responded
  | broadcast message => exact kept_of_answer (broadcast_keeps_unmailed around _) responded

variable (formats)

/-- A scabbard service keeps the change of one proposal. -/
def slotted : Slotted (hostAt formats) where
  Sound _ := True
  Prepared := Prepared formats
  Registered service id := service.getProposedBatch id ≠ none
  Commits around service := service.shared.state.Committable around
  Harmless operation service := service.Harmless formats operation
  fed := by
    rintro _ _ _ _ rfl
    exact ⟨rfl, rfl, rfl, rfl⟩
  sound_answered _ _ := trivial
  sound_operated _ _ := trivial
  checked _ responded := returned_of_answer (checkProposal_prepares _ _) responded
  rejected := by
    intro around id before after responded
    obtain ⟨registered, empty⟩ := returned_of_answer (rejectProposal_ends before id) responded
    refine ⟨registered, ?_⟩
    rintro other ⟨_, _, _, _, kept⟩
    cases empty.symm.trans kept
  rejectFailed := by
    intro around id error before after responded
    obtain ⟨_, unknown, rfl⟩ := failed_of_answer (rejectProposal_ends before id) responded
    exact ⟨fun registered => registered unknown, fun _ prepared => prepared⟩
  accepted _ responded := returned_of_answer (acceptProposal_ends _ _) responded
  acceptFailed := by
    rintro around id error before after ⟨_, known, _⟩ responded
    obtain ⟨_, removed, refused⟩ := failed_of_answer (acceptProposal_ends before id) responded
    refine ⟨refused.resolve_left (by simp [known]), ?_⟩
    rintro ⟨_, registered, _⟩
    cases removed.symm.trans registered
  sent network responded prepared := by
    have same := congrArg slot (unmailed_of_network network responded)
    exact prepared.of_slot same
  operated := by
    rintro around operation id before after rfl prepared
    exact prepared_operate_iff prepared operation

end Scabbard

end Splinter.ScabbardService
