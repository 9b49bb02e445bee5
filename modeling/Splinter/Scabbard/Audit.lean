import Splinter.Library.Interleaving
import Splinter.Library.Maps
import Splinter.Scabbard.PendingChange

/-!
# Which batches a scabbard service commits

The pending change of a service does not tell which batch it comes from.  An audit
notes the batches registered for proposals, the batch whose change is pending and
the batches that have been committed, and changes nothing in the service.
-/

namespace Splinter.ScabbardService

open Library Service Consensus Services Scabbard ScabbardState

namespace Scabbard

variable (formats : Formats) (around : Surroundings)

/-! ## The effect of a call -/

def record (service : Scabbard) :=
  (service.shared.batchQueue, service.shared.proposedBatches, service.shared.state)

def executedRoot (state : ScabbardState) (batch : BatchPair) : Option String :=
  match (ScabbardState.prepareChange formats.machine around batch).run state with
  | .ok root _ => some root
  | .error _ _ => none

def executedState (state : ScabbardState) (batch : BatchPair) : ScabbardState :=
  finalState (ScabbardState.prepareChange formats.machine around batch) state

def register (batch : BatchPair) (root : Option String)
    (batches : Finmap fun _ : ProposalId => BatchPair) :
    Finmap fun _ : ProposalId => BatchPair :=
  match root with
  | some root => batches.insert (consensusProposal root).id batch
  | none => batches

/-- What a call of the engine makes of the queue, the registered batches and
the state. -/
def recordAfter (service : Scabbard) : Call →
    List BatchPair × (Finmap fun _ : ProposalId => BatchPair) × ScabbardState
  | .createProposal _ _ =>
    match service.shared.batchQueue with
    | [] => service.record
    | batch :: rest =>
      (rest, register batch (executedRoot formats around service.shared.state batch)
        service.shared.proposedBatches,
        executedState formats around service.shared.state batch)
  | .checkProposal id =>
    match service.getProposedBatch id with
    | none => service.record
    | some batch =>
      (service.shared.batchQueue, service.shared.proposedBatches,
        executedState formats around service.shared.state batch)
  | .acceptProposal id _ =>
    match service.getProposedBatch id with
    | none => service.record
    | some _ =>
      (service.shared.batchQueue, service.shared.proposedBatches.erase id,
        finalState (ScabbardState.commit around) service.shared.state)
  | .rejectProposal id =>
    match service.getProposedBatch id with
    | none => service.record
    | some _ =>
      (service.shared.batchQueue, service.shared.proposedBatches.erase id,
        { service.shared.state with pendingChanges := none })
  | .sendTo _ _ | .broadcast _ => service.record

theorem sendUpdate_keeps_record {Failure : Type} (update : ProposalUpdate) :
    Keeps record (sendUpdate update : EStateM Failure Scabbard Unit) :=
  Keeps.modify fun _ => rfl

variable (service : Scabbard)

theorem createFrom_ends (batch : BatchPair) : EndsIn (createFrom formats around batch) service
    fun after =>
      after.record =
        (service.shared.batchQueue, register batch
          (executedRoot formats around service.shared.state batch)
          service.shared.proposedBatches,
          executedState formats around service.shared.state batch) := by
  unfold createFrom onState executedRoot executedState finalState EndsIn
  rw [ends_bind, ends_zoom, ends_mapError]
  refine (ends_run _ _).mono (fun root state ran => ?_) fun _ state ran => ?_
  · simp only [ran]
    rw [ends_bind, addProposedBatch, ends_modify, ends_bind, ends_get]
    have announced (peers : List String) (message : Bytes) : Keeps record
        (do
          forM peers fun peer =>
            send around ProposalManagerError.internal peer message
          sendUpdate (.proposalCreated (some (consensusProposal root)))) :=
      Keeps.bind (Keeps.forM fun peer => (send_keeps_unmailed around _ _ _).map record)
        fun _ => sendUpdate_keeps_record _
    exact (Keeps.refuse (announced _ _)).ends rfl
  · simp only [ran]
    rfl

theorem createProposal_ends (previous : Option ProposalId) (data : Bytes) :
    EndsIn (createProposal formats around) service fun after =>
      after.record = service.recordAfter formats around (.createProposal previous data) := by
  unfold createProposal EndsIn
  rw [ends_bind, ends_get]
  split
  · rename_i batch rest queued
    rw [ends_bind, ends_set]
    unfold recordAfter
    rw [queued]
    exact createFrom_ends formats around _ batch
  · rename_i empty
    unfold recordAfter
    rw [empty]
    exact (sendUpdate_keeps_record _).ends rfl

variable (id : ProposalId)

theorem checkProposal_ends : EndsIn (checkProposal formats around id) service fun after =>
    after.record = service.recordAfter formats around (.checkProposal id) := by
  unfold checkProposal EndsIn
  rw [ends_bind, ends_get]
  split
  · rename_i unknown
    simp only [recordAfter, unknown]
    rfl
  · rename_i batch registered
    simp only [recordAfter, registered]
    unfold onState executedState finalState
    rw [ends_bind, ends_zoom, ends_mapError]
    refine (ends_run _ _).mono (fun root state ran => ?_) fun _ state ran => ?_
    · simp only [ran]
      split
      · exact (sendUpdate_keeps_record _).ends rfl
      · exact (sendUpdate_keeps_record _).ends rfl
    · simp only [ran]
      rfl

theorem acceptProposal_record (data : Option Bytes) : EndsIn (acceptProposal around id) service
    fun after => after.record = service.recordAfter formats around (.acceptProposal id data) := by
  unfold acceptProposal removeProposedBatch EndsIn
  rw [ends_bind, ends_bind, ends_get]
  split
  · rename_i unknown
    simp only [recordAfter, unknown]
    rfl
  · rename_i batch registered
    simp only [recordAfter, registered]
    unfold onState finalState
    rw [ends_set, ends_bind, ends_zoom, ends_mapError]
    refine (ends_run _ _).mono (fun _ state ran => ?_) fun _ state ran => ?_
    · simp only [ran]
      exact (sendUpdate_keeps_record _).ends rfl
    · simp only [ran]
      rfl

theorem rejectProposal_record : EndsIn (rejectProposal id) service fun after =>
    after.record = service.recordAfter formats around (.rejectProposal id) := by
  unfold rejectProposal removeProposedBatch EndsIn
  rw [ends_bind, ends_bind, ends_get]
  split
  · rename_i unknown
    simp only [recordAfter, unknown]
    rfl
  · rename_i batch registered
    simp only [recordAfter, registered]
    rfl

variable {formats around}

theorem record_respond {service after : Scabbard} {call : Call} {given : Answer}
    (responded : respond formats around call service = (given, after)) :
    after.record = service.recordAfter formats around call := by
  cases call with
  | createProposal previous data =>
    exact view_of_answer (createProposal_ends formats around service previous data) responded
  | checkProposal id =>
    exact view_of_answer (checkProposal_ends formats around service id) responded
  | acceptProposal id data =>
    exact view_of_answer (acceptProposal_record formats around service id data) responded
  | rejectProposal id =>
    exact view_of_answer (rejectProposal_record formats around service id) responded
  | sendTo _ _ | broadcast _ =>
    have same := congrArg record (unmailed_of_network rfl responded)
    exact same

end Scabbard

abbrev SignatureVerifier := Bytes → Bytes → Bytes → Except ErrorText Bool

/-- Batches are verified with the verifier of the service. -/
def Scabbard.Operation.withVerifier (verifier : SignatureVerifier) :
    Scabbard.Operation → Scabbard.Operation
  | .handleMessage context messageBytes => .handleMessage context messageBytes
  | .addBatches around batches => .addBatches { around with verify := verifier } batches

theorem Scabbard.registration_withVerifier (formats : Formats)
    (verifier : SignatureVerifier) (operation : Scabbard.Operation) :
    registration formats (operation.withVerifier verifier) = registration formats operation := by
  cases operation <;> rfl

/-! ## The audit -/

structure Audit where
  registered : List (ProposalId × BatchPair)
  prepared : Option BatchPair
  committed : List (ProposalId × BatchPair)

structure Audited where
  service : Scabbard
  audit : Audit

namespace Audited

open Scabbard (executedRoot executedState registration)

variable (formats : Formats) (around : Surroundings)

def applies (state : ScabbardState) : Bool :=
  match state.pendingChanges with
  | some (_, txnReceipts) =>
    (around.commitState state.currentStateRoot
      (ScabbardState.receiptsIntoStateChanges txnReceipts)).isOk
  | none => false

/-- The batch that is committed when the proposal is accepted. -/
def commits (audited : Audited) (id : ProposalId) : List (ProposalId × BatchPair) :=
  match audited.audit.prepared with
  | none => []
  | some batch =>
    if applies around audited.service.shared.state then [(id, batch)] else []

def note (audited : Audited) (call : Call) : Audit :=
  let shared := audited.service.shared
  match call with
  | .createProposal _ _ =>
    match shared.batchQueue with
    | [] => audited.audit
    | batch :: _ =>
      match executedRoot formats around shared.state batch with
      | none => audited.audit
      | some root =>
        { audited.audit with
          registered := audited.audit.registered ++ [((Scabbard.consensusProposal root).id, batch)]
          prepared := some batch }
  | .checkProposal id =>
    match audited.service.getProposedBatch id with
    | none => audited.audit
    | some batch =>
      match executedRoot formats around shared.state batch with
      | none => audited.audit
      | some _ => { audited.audit with prepared := some batch }
  | .acceptProposal id _ =>
    match audited.service.getProposedBatch id with
    | none => audited.audit
    | some _ =>
      { audited.audit with
        prepared := none
        committed := audited.audit.committed ++ audited.commits around id }
  | .rejectProposal id =>
    match audited.service.getProposedBatch id with
    | none => audited.audit
    | some _ => { audited.audit with prepared := none }
  | .sendTo _ _ | .broadcast _ => audited.audit

def respond (call : Call) (audited : Audited) : Answer × Audited :=
  let responded := Scabbard.respond formats around call audited.service
  (responded.1, ⟨responded.2, audited.note formats around call⟩)

def operate (operation : Scabbard.Operation) (audited : Audited) : Audited where
  service := Scabbard.operate formats operation audited.service
  audit :=
    { audited.audit with
      registered := audited.audit.registered ++ (registration formats operation).toList }

variable (verifier : SignatureVerifier)

def host : Host Audited Scabbard.Operation where
  channels audited := audited.service.consensus
  withChannels channels audited :=
    { audited with service := { audited.service with consensus := some channels } }
  Answers call before answer after := ∃ around, before.respond formats around call = (answer, after)
  Operates operation before after :=
    after = before.operate formats (operation.withVerifier verifier)

variable {formats verifier} {codecs : TwoPhase.Codecs}

/-! ## Every run can be audited -/

def unaudited (participant : Participant Audited) : Participant Scabbard :=
  ⟨participant.engine, participant.service.service⟩

theorem exists_answered {before after : Scabbard} {exchanges : List Exchange}
    (answered : Interaction.Answered (Scabbard.host formats).Answers before exchanges after)
    (audit : Audit) :
    ∃ noted, Interaction.Answered (host formats verifier).Answers ⟨before, audit⟩
      exchanges ⟨after, noted⟩ := by
  induction answered generalizing audit with
  | nil _ => exact ⟨audit, Interaction.Answered.nil _⟩
  | @cons call answer before between after rest responded _ ih =>
    obtain ⟨around, computed⟩ := responded
    let next := note formats around ⟨before, audit⟩ call
    obtain ⟨noted, remaining⟩ := ih next
    refine ⟨noted, Interaction.Answered.cons ⟨around, ?_⟩ remaining⟩
    simp only [respond, computed, next]

variable {event : Event Scabbard.Operation} {queue : List BatchPair}
  {batches : Finmap fun _ : ProposalId => BatchPair}

theorem exists_step {before after : Participant Scabbard}
    (taken : before.Step codecs (Scabbard.host formats) event after)
    (verified : ∀ operation, event = .operation operation →
      operation.withVerifier verifier = operation)
    (audit : Audit) :
    ∃ noted, Participant.Step codecs (host formats verifier)
      ⟨before.engine, ⟨before.service, audit⟩⟩ event
      ⟨after.engine, ⟨after.service, noted⟩⟩ := by
  cases event with
  | operation operation =>
    obtain ⟨same, operated⟩ := taken
    have computed : after.service = Scabbard.operate formats operation before.service := operated
    refine ⟨(operate formats operation ⟨before.service, audit⟩).audit, same, ?_⟩
    change Audited.mk after.service _ = operate formats (operation.withVerifier verifier) _
    rw [computed, verified operation rfl]
    rfl
  | engine record =>
    obtain ⟨trace, channels, remaining, connected, received, answered⟩ := taken
    obtain ⟨noted, audited⟩ := exists_answered answered audit
    exact ⟨noted, trace, channels, remaining, connected, received, audited⟩

theorem exists_run {first last : Participant Scabbard}
    {path : List (Participant Scabbard × Event Scabbard.Operation)}
    (run : Run (Participant.Step codecs (Scabbard.host formats)) first path last)
    (verified : Run.Meets
      (fun _ event => ∀ operation, event = .operation operation →
        operation.withVerifier verifier = operation)
      path)
    (audit : Audit) :
    ∃ audited noted, Run (Participant.Step codecs (host formats verifier))
      ⟨first.engine, ⟨first.service, audit⟩⟩ audited
      ⟨last.engine, ⟨last.service, noted⟩⟩ ∧
      audited.map (fun visited => (unaudited visited.1, visited.2)) = path := by
  induction run with
  | start => exact ⟨[], audit, Run.start, rfl⟩
  | @snoc path before after event _ taken ih =>
    rw [Run.meets_snoc] at verified
    obtain ⟨audited, between, earlier, same⟩ := ih verified.1
    obtain ⟨noted, step⟩ := exists_step taken verified.2 between
    refine ⟨_, noted, Run.snoc earlier step, ?_⟩
    rw [List.map_append, same]
    rfl

/-! ## The audit names the batch of the pending change -/

/-- What is noted as prepared explains the pending change of a state. -/
def Explains (formats : Formats) (prepared : Option BatchPair) (state : ScabbardState) : Prop :=
  match prepared with
  | none => state.pendingChanges = none
  | some batch => state.Pending formats.machine batch

def Explained (formats : Formats) (audited : Audited) : Prop :=
  Explains formats audited.audit.prepared audited.service.shared.state

variable {audited after : Audited} {call : Call} {answer : Answer}

section Explains

variable {prepared : Option BatchPair} {state other : ScabbardState}
  (explains : Explains formats prepared state)
include explains

theorem Explains.congr (sameRoot : other.currentStateRoot = state.currentStateRoot)
    (samePending : other.pendingChanges = state.pendingChanges) :
    Explains formats prepared other := by
  cases prepared with
  | none => exact samePending.trans explains
  | some batch => exact (pending_congr sameRoot samePending).mpr explains

/-- A batch that has been executed is the one of the pending change, and a
batch that could not be executed leaves the pending change alone. -/
theorem Explains.executed (around : Surroundings) (batch : BatchPair) : Explains formats
    ((executedRoot formats around state batch).elim prepared fun _ => some batch)
    (executedState formats around state batch) := by
  have succeeds := prepareChange_ends formats.machine around batch state
  have fails : Ends (prepareChange formats.machine around batch) state
      (fun _ _ => True) fun _ after =>
        after.currentStateRoot = state.currentStateRoot ∧
          after.pendingChanges = state.pendingChanges := by
    unfold prepareChange
    simp only [ends_bind, ends_fromExcept, ends_get, ends_set, ends_pure, and_self, implies_true]
  unfold Ends at succeeds fails
  unfold executedRoot executedState finalState
  cases ran : (prepareChange formats.machine around batch).run state with
  | ok root after =>
    rw [ran] at succeeds
    exact succeeds
  | error failure after =>
    rw [ran] at fails
    exact explains.congr fails.1 fails.2

end Explains

theorem pendingChanges_commit (around : Surroundings) (state : ScabbardState) :
    (finalState (ScabbardState.commit around) state).pendingChanges = none := by
  have ends : EndsIn (commit around) state fun after => after.pendingChanges = none := by
    unfold commit commitChanges writeCurrentStateRoot EndsIn
    simp only [ends_bind, ends_get, ends_set]
    cases state.pendingChanges <;> simp [ends_fromExcept]
  exact ends.finalState

theorem state_respond {around : Surroundings}
    (responded : audited.respond formats around call = (answer, after)) :
    after.service.record = audited.service.recordAfter formats around call ∧
      after.audit = audited.note formats around call := by
  obtain ⟨_, rfl⟩ := Prod.mk.inj responded
  exact ⟨record_respond rfl, rfl⟩

theorem Explained.respond {around : Surroundings} (explained : audited.Explained formats)
    (responded : audited.respond formats around call = (answer, after)) :
    after.Explained formats := by
  obtain ⟨recorded, noted⟩ := state_respond responded
  have state : after.service.shared.state = (audited.service.recordAfter formats around call).2.2 :=
    congrArg (fun record => record.2.2) recorded
  unfold Explained at explained ⊢
  rw [state, noted]
  cases call with
  | createProposal previous data =>
    dsimp only [recordAfter, note]
    cases audited.service.shared.batchQueue with
    | nil => exact explained
    | cons batch rest =>
      have executed := explained.executed around batch
      cases root : executedRoot formats around audited.service.shared.state batch <;>
        simpa only [root, Option.elim] using executed
  | checkProposal id =>
    dsimp only [recordAfter, note]
    cases audited.service.getProposedBatch id with
    | none => exact explained
    | some batch =>
      have executed := explained.executed around batch
      cases root : executedRoot formats around audited.service.shared.state batch <;>
        simpa only [root, Option.elim] using executed
  | acceptProposal id data =>
    dsimp only [recordAfter, note]
    cases audited.service.getProposedBatch id with
    | none => exact explained
    | some batch => exact pendingChanges_commit around _
  | rejectProposal id =>
    dsimp only [recordAfter, note]
    cases audited.service.getProposedBatch id with
    | none => exact explained
    | some batch => rfl
  | sendTo peerId message | broadcast message => exact explained

theorem Explained.operate (explained : audited.Explained formats) (operation : Scabbard.Operation) :
    (audited.operate formats operation).Explained formats := by
  have same : (Scabbard.operate formats operation audited.service).slot.2 =
      audited.service.slot.2 := by
    rw [Scabbard.operate_slot]
    unfold Scabbard.slotAfter
    split <;> rfl
  exact Explains.congr explained (congrArg Prod.fst same) (congrArg Prod.snd same)

theorem Explained.step {before after : Participant Audited}
    (explained : before.service.Explained formats)
    (taken : before.Step codecs (host formats verifier) event after) :
    after.service.Explained formats := by
  cases event with
  | operation operation =>
    obtain ⟨_, operated⟩ := taken
    rw [operated]
    exact explained.operate _
  | engine record =>
    obtain ⟨_, channels, remaining, _, _, answered⟩ := taken
    refine answered.invariant ?_ explained
    intro call answer between next responded held
    obtain ⟨around, computed⟩ := responded
    exact held.respond computed

/-! ## What a call does to the batches -/

def stock (audited : Audited) :=
  (audited.service.shared.batchQueue, audited.service.shared.proposedBatches)

/-- What a call can do to the batches of a service and to the audit. -/
inductive Noted (before : Audited) (after : Audited) : Call → Prop
  | unchanged {call : Call} : after.stock = before.stock → after.audit = before.audit →
    Noted before after call
  | discarded {previous : Option ProposalId} {data : Bytes}
    {batch : BatchPair} {rest : List BatchPair} :
    before.service.shared.batchQueue = batch :: rest →
    after.stock = (rest, before.service.shared.proposedBatches) →
    after.audit = before.audit →
    Noted before after (.createProposal previous data)
  | proposed {previous : Option ProposalId} {data : Bytes}
    {batch : BatchPair} {rest : List BatchPair} {id : ProposalId} :
    before.service.shared.batchQueue = batch :: rest →
    after.stock = (rest, before.service.shared.proposedBatches.insert id batch) →
    after.audit =
      { before.audit with
        registered := before.audit.registered ++ [(id, batch)]
        prepared := some batch } →
    Noted before after (.createProposal previous data)
  | checked {id : ProposalId} {batch : BatchPair} :
    before.service.getProposedBatch id = some batch →
    after.stock = before.stock →
    after.audit = { before.audit with prepared := some batch } →
    Noted before after (.checkProposal id)
  | accepted {id : ProposalId} {data : Option Bytes} {added : List (ProposalId × BatchPair)} :
    after.stock =
      (before.service.shared.batchQueue, before.service.shared.proposedBatches.erase id) →
    (∀ entry ∈ added, entry.1 = id ∧ before.audit.prepared = some entry.2) →
    after.audit =
      { before.audit with
        prepared := none
        committed := before.audit.committed ++ added } →
    Noted before after (.acceptProposal id data)
  | rejected {id : ProposalId} : after.stock =
    (before.service.shared.batchQueue, before.service.shared.proposedBatches.erase id) →
    after.audit = { before.audit with prepared := none } →
    Noted before after (.rejectProposal id)

theorem batchQueue_of_stock (stocked : audited.stock = (queue, batches)) :
    audited.service.shared.batchQueue = queue :=
  congrArg Prod.fst stocked

theorem getProposedBatch_of_stock (stocked : audited.stock = (queue, batches)) (id : ProposalId) :
    audited.service.getProposedBatch id = batches.lookup id :=
  congrArg (fun stock => stock.2.lookup id) stocked

theorem stock_operate (audited : Audited) (operation : Scabbard.Operation) :
    (audited.operate formats operation).stock =
      (audited.service.shared.batchQueue ++ Scabbard.queuedBatches formats operation,
        match registration formats operation with
        | none => audited.service.shared.proposedBatches
        | some (id, batch) => audited.service.shared.proposedBatches.insert id batch) := by
  refine Prod.ext (Scabbard.batchQueue_operate _ _ _) ?_
  have slot : (Scabbard.operate formats operation audited.service).slot = _ :=
    Scabbard.operate_slot audited.service operation
  have batches := congrArg Prod.fst slot
  unfold Scabbard.slotAfter at batches
  cases registered : registration formats operation with
  | none =>
    rw [registered] at batches
    exact batches
  | some _ =>
    rw [registered] at batches
    exact batches

theorem mem_commits {around : Surroundings} {id : ProposalId} {entry : ProposalId × BatchPair}
    (member : entry ∈ audited.commits around id) :
    entry.1 = id ∧ audited.audit.prepared = some entry.2 := by
  unfold commits at member
  split at member
  · cases member
  · rename_i batch prepared
    split at member
    · rw [List.mem_singleton.mp member]
      exact ⟨rfl, prepared⟩
    · cases member

theorem noted_of_respond {around : Surroundings}
    (responded : audited.respond formats around call = (answer, after)) :
    Noted audited after call := by
  obtain ⟨recorded, noted⟩ := state_respond responded
  have stocked : after.stock =
      ((audited.service.recordAfter formats around call).1,
        (audited.service.recordAfter formats around call).2.1) :=
    congrArg (fun record => (record.1, record.2.1)) recorded
  cases call with
  | createProposal previous data =>
    cases queued : audited.service.shared.batchQueue with
    | nil =>
      simp only [recordAfter, note, queued] at stocked noted
      exact Noted.unchanged stocked noted
    | cons batch rest =>
      simp only [recordAfter, note, queued] at stocked noted
      cases executed : executedRoot formats around audited.service.shared.state batch with
      | none =>
        simp only [executed, register] at stocked noted
        exact Noted.discarded queued stocked noted
      | some root =>
        simp only [executed, register] at stocked noted
        exact Noted.proposed queued stocked noted
  | checkProposal id =>
    cases registered : audited.service.getProposedBatch id with
    | none =>
      simp only [recordAfter, note, registered] at stocked noted
      exact Noted.unchanged stocked noted
    | some batch =>
      simp only [recordAfter, note, registered] at stocked noted
      split at noted
      · exact Noted.unchanged stocked noted
      · exact Noted.checked registered stocked noted
  | acceptProposal id data =>
    cases registered : audited.service.getProposedBatch id with
    | none =>
      simp only [recordAfter, note, registered] at stocked noted
      exact Noted.unchanged stocked noted
    | some batch =>
      simp only [recordAfter, note, registered] at stocked noted
      exact Noted.accepted stocked (fun entry => mem_commits) noted
  | rejectProposal id =>
    cases registered : audited.service.getProposedBatch id with
    | none =>
      simp only [recordAfter, note, registered] at stocked noted
      exact Noted.unchanged stocked noted
    | some batch =>
      simp only [recordAfter, note, registered] at stocked noted
      exact Noted.rejected stocked noted
  | sendTo peerId message | broadcast message => exact Noted.unchanged stocked noted

end Audited

/-! ## The services of a circuit -/

structure Setup where
  timeout : Nat
  now : TwoPhase.Instant
  serviceId : String
  circuitId : String
  peerServices : List String
  stateRoot : String
  verifier : SignatureVerifier

/-- A newly started service, about which nothing has been noted yet. -/
def Setup.start (setup : Setup) : Participant Audited :=
  let started := Scabbard.started setup.timeout setup.now setup.serviceId setup.circuitId
    setup.peerServices setup.stateRoot
  { engine := started.engine
    service := {
      service := started.service
      audit := { registered := [], prepared := none, committed := [] } } }

/-- One of the services takes a step.  The messages it is given are
arbitrary. -/
def ServicesStep {Index : Type} (formats : Formats)
    (codecs : TwoPhase.Codecs) (setups : Index → Setup) :=
  Interleaved fun index =>
    Participant.Step codecs (Audited.host formats (setups index).verifier)

theorem explained_of_run {Index : Type} {formats : Formats} {codecs : TwoPhase.Codecs}
    {setups : Index → Setup}
    {path : List ((Index → Participant Audited) × (Index × Event Scabbard.Operation))}
    {last : Index → Participant Audited}
    (run : Run (ServicesStep formats codecs setups) (fun index => (setups index).start) path last) :
    ∀ index, (last index).service.Explained formats := by
  refine Interleaved.invariant (fun _ participant => participant.service.Explained formats)
    run (fun _ => rfl) ?_
  intro index before event after explained taken
  exact explained.step taken

end Splinter.ScabbardService
