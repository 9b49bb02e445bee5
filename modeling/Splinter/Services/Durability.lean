import Splinter.Services.Roots

/-!
# What failed calls of a scabbard service leave behind

`commit` takes the pending change out of the state, and then updates the Merkle state, the
`HEAD` entry of the database, the receipts and the history, each of which may fail.
`create_proposal` takes a batch from the queue and then has to prepare it, to send it to the
other services and to tell the engine.
-/

namespace Splinter.ScabbardService

open Library Service Consensus Scabbard
open Services (entryBatches serviceX)

/-- A service, and the entry that its database has under `HEAD`. -/
structure Replica where
  service : Scabbard
  head : Option Bytes

namespace Replica

inductive Event where
  | call (around : Surroundings) (call : Call)
  | operate (operation : Scabbard.Operation)

variable (formats : Formats)

def perform (event : Event) (replica : Replica) : Replica :=
  match event with
  | .call around call =>
    { service := (replica.service.respond formats around call).2
      head :=
        match call with
        | .acceptProposal id _ =>
          match replica.service.getProposedBatch id with
          | some _ => replica.service.shared.state.headAfterCommit around replica.head
          | none => replica.head
        | _ => replica.head }
  | .operate operation => { replica with service := replica.service.operate formats operation }

/-- The Merkle state writes its roots the way `to_hex` does. -/
def Canonical (around : Surroundings) : Prop := ∀ root changes next bytes,
  around.commitState root changes = .ok next → parseHex next = .ok bytes → toHex bytes = next

def Step (before : Replica) (event : Event) (after : Replica) : Prop :=
  after = perform formats event before ∧ ∀ around call, event = .call around call → Canonical around

/-- The `HEAD` entry is the current state root. -/
def Restorable (replica : Replica) : Prop :=
  ∀ bytes, replica.head = some bytes → toHex bytes = replica.service.shared.state.currentStateRoot

/-- If a pending change cannot be committed, nothing has happened, and the proposal can be
accepted again or be rejected. -/
def AllOrNothing (before : Replica) : Event → Prop
  | .call around (.acceptProposal id data) =>
    (before.service.getProposedBatch id).isSome →
      before.service.shared.state.pendingChanges.isSome → ∀ error,
      returnValue (ScabbardState.commit around) before.service.shared.state = .error error →
        finalState (ScabbardState.commit around) before.service.shared.state =
          before.service.shared.state ∧
          perform formats (.call around (.acceptProposal id data)) before = before
  | _ => True

/-- The components around the service let every pending change be committed. -/
def Succeeds (before : Replica) : Event → Prop
  | .call around (.acceptProposal id _) =>
    (before.service.getProposedBatch id).isSome → ∀ signature txnReceipts,
      before.service.shared.state.pendingChanges = some (signature, txnReceipts) →
        ScabbardState.Commits around before.service.shared.state.currentStateRoot txnReceipts
  | _ => True

variable {formats} {before after : Replica} {event : Event}

theorem allOrNothing_iff : AllOrNothing formats before event ↔ Succeeds before event := by
  rcases event with ⟨around, call⟩ | operation
  · cases call with
    | acceptProposal id data =>
      dsimp only [AllOrNothing, Succeeds]
      refine imp_congr_right fun known => ?_
      cases pending : before.service.shared.state.pendingChanges with
      | none => simp
      | some change =>
        obtain ⟨signature, txnReceipts⟩ := change
        have commits := @ScabbardState.commit_of_pending around _ _ _ pending
        unfold Ends at commits
        unfold returnValue finalState
        cases ran : (ScabbardState.commit around).run before.service.shared.state with
        | ok _ next =>
          rw [ran] at commits
          simp [commits.1]
        | error error next =>
          rw [ran] at commits
          -- The pending change is gone, so something has happened.
          have changed : next ≠ before.service.shared.state := by
            rintro rfl
            have lost := commits.2
            rw [pending] at lost
            cases lost
          simp [commits.1, changed]
    | _ => exact Iff.rfl
  · exact Iff.rfl

theorem state_acceptProposal (around : Surroundings) (id : ProposalId) (data : Option Bytes)
    (service : Scabbard) :
    (service.respond formats around (.acceptProposal id data)).2.shared.state =
      match service.getProposedBatch id with
      | some _ => finalState (ScabbardState.commit around) service.shared.state
      | none => service.shared.state := by
  have recorded := congrArg (fun record => record.2.2)
    (record_respond (rfl : service.respond formats around (.acceptProposal id data) = _))
  refine Eq.trans recorded ?_
  unfold recordAfter
  dsimp only
  cases service.getProposedBatch id <;> rfl

theorem Restorable.accept {around : Surroundings} {id : ProposalId} {data : Option Bytes}
    (restorable : Restorable before)
    (succeeds : Succeeds before (.call around (.acceptProposal id data)))
    (canonical : Canonical around) :
    Restorable (perform formats (.call around (.acceptProposal id data)) before) := by
  intro bytes found
  dsimp only [perform] at found ⊢
  rw [state_acceptProposal]
  cases known : before.service.getProposedBatch id with
  | none =>
    rw [known] at found
    exact restorable bytes found
  | some batch =>
    rw [known] at found
    dsimp only [Succeeds] at succeeds
    cases pending : before.service.shared.state.pendingChanges with
    | none =>
      rcases (@ScabbardState.commit_of_none around _ pending).outcome with
        ⟨_, impossible⟩ | ⟨_, same⟩
      · exact impossible.elim
      · dsimp only [ScabbardState.headAfterCommit] at found
        rw [pending] at found
        rw [same]
        exact restorable bytes found
    | some change =>
      obtain ⟨signature, txnReceipts⟩ := change
      have commits := succeeds (by rw [known]; rfl) signature txnReceipts pending
      rcases (ScabbardState.commit_of_pending pending).outcome with
        ⟨_, _, written, entry, parsed, moved⟩ | ⟨_, failed, _⟩
      · rw [entry] at found
        cases found
        exact canonical _ _ _ _ moved parsed
      · exact absurd commits failed

theorem Restorable.step (restorable : Restorable before) (succeeds : Succeeds before event)
    (taken : Step formats before event after) :
    Restorable after := by
  obtain ⟨rfl, canonical⟩ := taken
  rcases event with ⟨around, call⟩ | operation
  · by_cases accepts : ∃ id data, call = .acceptProposal id data
    · obtain ⟨id, data, rfl⟩ := accepts
      exact restorable.accept succeeds (canonical around _ rfl)
    · have kept := root_of_respond (by simpa using accepts)
        (rfl : before.service.respond formats around call = _)
      intro bytes found
      refine Eq.trans (restorable bytes ?_) kept.symm
      cases call with
      | acceptProposal id data => exact absurd ⟨id, data, rfl⟩ accepts
      | _ => exact found
  · intro bytes found
    have kept := @Scabbard.operate_slot formats before.service operation
    have sameRoot : (before.service.operate formats operation).slot.2 = before.service.slot.2 := by
      rw [kept]
      unfold slotAfter
      split <;> rfl
    exact (restorable bytes found).trans (congrArg Prod.fst sameRoot).symm

/-- Each commit is done or leaves nothing behind, and the `HEAD` entry restores the
current root, exactly if no step of a commit fails. -/
theorem commit_durable_iff {first last : Replica} {path : List (Replica × Event)}
    (restorable : Restorable first) (run : Run (Step formats) first path last) :
    Run.Meets (AllOrNothing formats) path ∧ Run.Throughout Restorable path last ↔
      Run.Meets Succeeds path := by
  constructor
  · rintro ⟨nothing, _⟩ visited member
    exact allOrNothing_iff.mp (nothing visited member)
  · intro succeeds
    refine ⟨fun visited member => allOrNothing_iff.mpr (succeeds visited member), ?_⟩
    exact run.guarded restorable (fun _ _ _ held allowed taken => held.step allowed taken) succeeds

/-! ## One batch -/

/-- Service `x` on a root that it has restored, with a batch to propose. -/
def restored : Replica where
  service :=
    { serviceX.start with shared := { serviceX.start.shared with batchQueue := [entryBatch 1] } }
  head := some [0]

theorem restorable_restored : Restorable restored := by
  intro bytes found
  cases found
  decide +kernel

def accepting (storage : Surroundings) : List Event :=
  [.call workingStorage (.createProposal none []),
    .call storage (.acceptProposal ⟨asBytes "0a"⟩ none)]

theorem run_accepting {storage : Surroundings}
    (roots : storage.commitState = workingStorage.commitState) :
    Run (Step entryBatches) restored
      (Run.follow (perform entryBatches) (accepting storage) restored).1
      (Run.follow (perform entryBatches) (accepting storage) restored).2 := by
  have canonical (around : Surroundings)
      (roots : around.commitState = workingStorage.commitState) :
      Canonical around := by
    intro root changes next bytes moved parsed
    simp only [roots, workingStorage] at moved
    split at moved <;> cases moved
    have same := parsed.symm.trans (by decide +kernel : parseHex "0a" = .ok [10])
    cases same
    decide +kernel
  refine .cons ⟨rfl, ?_⟩ (.cons ⟨rfl, ?_⟩ .start)
  · rintro _ _ ⟨⟩
    exact canonical _ rfl
  · rintro _ _ ⟨⟩
    exact canonical _ roots

theorem accepted_root_restorable : ∃ path last, Run (Step entryBatches) restored path last ∧
    last.service.shared.state.currentStateRoot = "0a" ∧
    Run.Meets (AllOrNothing entryBatches) path ∧ Run.Throughout Restorable path last := by
  have run := @run_accepting workingStorage rfl
  refine ⟨_, _, run, by decide +kernel, (commit_durable_iff restorable_restored run).mpr ?_⟩
  intro visited member
  simp only [accepting, Run.follow, List.mem_cons, List.not_mem_nil, or_false] at member
  rcases member with rfl | rfl
  · trivial
  · intro _ signature txnReceipts pending
    have set : some ("01", [⟨"01", [.set "entry" []]⟩]) = some (signature, txnReceipts) :=
      Eq.trans (by decide +kernel) pending
    cases set
    exact ⟨"0a", [10], rfl, by decide +kernel, rfl, rfl, rfl⟩

/-- The database refuses the new `HEAD`: the service is on a root that would not be restored,
the change is lost, and the proposal can neither be accepted again nor be rejected. -/
theorem refused_head_diverges : ∃ path last, Run (Step entryBatches) restored path last ∧
    path.map Prod.snd = accepting { workingStorage with writeStateRoot := fun _ => .error "full" } ∧
    last.service.shared.state.currentStateRoot = "0a" ∧ last.head = some [0] ∧
    ¬ Restorable last ∧ last.service.shared.state.pendingChanges = none ∧
    last.service.getProposedBatch ⟨asBytes "0a"⟩ = none := by
  have run := @run_accepting { workingStorage with writeStateRoot := fun _ => .error "full" } rfl
  refine ⟨_, _, run, rfl, by decide +kernel, by decide +kernel, ?_, by decide +kernel,
    by decide +kernel⟩
  intro restorable
  exact absurd (restorable [0] (by decide +kernel)) (by decide +kernel)

end Replica

/-! ## Batches that cannot be proposed -/

namespace Scabbard

variable (formats : Formats) (around : Surroundings)

/-- `create_proposal`, whose update fails if the engine has dropped its receiver. -/
def createProposalFor (listening : Bool) : EStateM ProposalManagerError Scabbard Unit :=
  fun service =>
    match (createProposal formats around).run service with
    | .ok () after =>
      if listening then
        .ok () after
      else
        .error (.updateSendFailed (after.lastUpdate.getD (.proposalCreated none)))
          { after with consensus := service.consensus }
    | .error error after => .error error after

/-- The batch is executed, and one of its transactions fails. -/
def Invalid (service : Scabbard) (batch : BatchPair) : Prop :=
  around.executor = .ok () ∧ ∃ error, ScabbardState.receipts formats.machine
    (formats.machine.execute service.shared.state.currentStateRoot batch) = .error error

/-- The batch can be prepared and be sent to all services. -/
def Proposes (service : Scabbard) (batch : BatchPair) : Prop :=
  around.executor = .ok () ∧ around.readState = .ok () ∧ service.shared.networkSender = true ∧
    ∃ txnReceipts, ScabbardState.receipts formats.machine
      (formats.machine.execute service.shared.state.currentStateRoot batch) = .ok txnReceipts ∧
      ∀ peer ∈ service.shared.peerServices, around.send peer (formats.scabbardMessage.write
        (service.proposedBatchMessage formats
          (consensusProposal (formats.machine.computeStateId service.shared.state.currentStateRoot
            (ScabbardState.receiptsIntoStateChanges txnReceipts))) batch)) = .ok ()

/-- If a valid batch cannot be proposed, it is still the first in the queue and has not been
sent to anyone, or else the engine has been told of it. -/
def Conserves (listening : Bool) (service : Scabbard) : Prop := ∀ batch rest error,
  service.shared.batchQueue = batch :: rest → ¬ Invalid formats around service batch →
    returnValue (createProposalFor formats around listening) service = .error error →
      let after := finalState (createProposalFor formats around listening) service
      after.shared.batchQueue = service.shared.batchQueue ∧
        after.shared.sentMessages = service.shared.sentMessages ∨
        ∃ proposal channels, service.consensus = some channels ∧
          after.consensus = some (channels.sendUpdate (.proposalCreated (some proposal)))

variable {formats around} {service : Scabbard}

theorem sends_end {Failure : Type} {change : ErrorText → Failure} {message : Bytes}
    (peers : List String) (service : Scabbard) :
    Ends (forM peers fun peer => send around change peer message) service
      (fun _ after => (∀ peer ∈ peers, around.send peer message = .ok ()) ∧
        after.shared.batchQueue = service.shared.batchQueue)
      fun _ after => (¬ ∀ peer ∈ peers, around.send peer message = .ok ()) ∧
        after.shared.batchQueue = service.shared.batchQueue ∧
        after.consensus = service.consensus := by
  induction peers generalizing service with
  | nil => exact ⟨nofun, rfl⟩
  | cons peer peers ih =>
    rw [List.forM_cons, ends_bind]
    unfold send
    cases sent : around.send peer message with
    | error error => simp [sent]
    | ok done =>
      rw [ends_modify]
      refine (ih _).mono ?_ ?_
      · rintro _ after ⟨all, same⟩
        simp [sent, same]
        exact all
      · rintro _ after ⟨some, same, unheard⟩
        simp [sent, same, unheard]
        simpa using some

theorem createFrom_proposes (batch : BatchPair) : Ends (createFrom formats around batch) service
    (fun _ after => Proposes formats around service batch ∧
      after.shared.batchQueue = service.shared.batchQueue)
    fun _ after => ¬ Proposes formats around service batch ∧
      after.shared.batchQueue = service.shared.batchQueue ∧
      after.consensus = service.consensus := by
  unfold createFrom onState ScabbardState.prepareChange
  simp only [ends_bind, ends_zoom, ends_mapError, ends_get, ends_set, ends_pure, ends_fromExcept,
    addProposedBatch, ends_modify, mapError_eq_ok_iff]
  refine ⟨fun _ executed => ⟨fun txnReceipts received => ⟨fun _ read => ?_, ?_⟩, ?_⟩, ?_⟩
  · split
    · rename_i unready
      refine ⟨fun proposes => ?_, rfl, rfl⟩
      cases unready.symm.trans proposes.2.2.1
    · rename_i ready
      rw [ends_bind]
      refine (sends_end _ _).mono ?_ ?_
      · rintro _ after ⟨sent, same⟩
        exact ⟨⟨executed, read, eq_true_of_ne_false ready, txnReceipts, received, sent⟩, same⟩
      · rintro _ after ⟨unsent, same, unheard⟩
        refine ⟨?_, same, unheard⟩
        rintro ⟨_, _, _, others, alsoReceived, sent⟩
        cases received.symm.trans alsoReceived
        exact unsent sent
  · intro failure unread
    refine ⟨fun proposes => ?_, trivial, trivial⟩
    rw [proposes.2.1] at unread
    cases unread
  · intro failure failed
    refine ⟨?_, trivial, trivial⟩
    rintro ⟨_, _, _, others, received, _⟩
    cases failed.symm.trans received
  · intro failure failed
    refine ⟨fun proposes => ?_, trivial, trivial⟩
    rw [proposes.1] at failed
    cases failed

theorem createProposalFor_ends {listening : Bool} {batch : BatchPair} {rest : List BatchPair}
    (queued : service.shared.batchQueue = batch :: rest) :
    Ends (createProposalFor formats around listening) service
      (fun _ _ => listening = true ∧ Proposes formats around service batch)
      fun _ after => ¬ (listening = true ∧ Proposes formats around service batch) ∧
        after.shared.batchQueue = rest ∧ after.consensus = service.consensus := by
  have created := @createFrom_proposes formats around
    { service with shared := { service.shared with batchQueue := rest } } batch
  have ran : (createProposal formats around).run service = (createFrom formats around batch).run
      { service with shared := { service.shared with batchQueue := rest } } := by
    unfold createProposal
    simp only [EStateM.run_bind, EStateM.run_get, queued]
    rfl
  unfold Ends at created ⊢
  rw [← ran] at created
  have unfolded : (createProposalFor formats around listening).run service =
      match (createProposal formats around).run service with
      | .ok () after =>
        if listening then
          .ok () after
        else
          .error (.updateSendFailed (after.lastUpdate.getD (.proposalCreated none)))
            { after with consensus := service.consensus }
      | .error error after => .error error after := rfl
  rw [unfolded]
  cases outcome : (createProposal formats around).run service with
  | ok _ after =>
    rw [outcome] at created
    cases listening with
    | true => exact ⟨rfl, created.1⟩
    | false => exact ⟨nofun, created.2, rfl⟩
  | error error after =>
    rw [outcome] at created
    exact ⟨fun both => created.1 both.2, created.2⟩

/-- A batch is only lost if it can be proposed neither to the services nor to the engine. -/
theorem batch_conserved_iff (formats : Formats) (around : Surroundings) (listening : Bool)
    (service : Scabbard) :
    Conserves formats around listening service ↔
      ∀ batch rest, service.shared.batchQueue = batch :: rest →
        ¬ Invalid formats around service batch →
          listening = true ∧ Proposes formats around service batch := by
  constructor
  · intro conserves batch rest queued valid
    by_contra hindered
    have ends := @createProposalFor_ends formats around service listening batch rest queued
    unfold Ends at ends
    cases ran : (createProposalFor formats around listening).run service with
    | ok _ after =>
      rw [ran] at ends
      exact hindered ends
    | error error after =>
      rw [ran] at ends
      obtain ⟨_, left, unheard⟩ := ends
      have kept := conserves batch rest error queued valid (by rw [returnValue, ran])
      rw [finalState_of_error ran] at kept
      rcases kept with ⟨same, _⟩ | ⟨proposal, channels, connected, told⟩
      · rw [left, queued] at same
        simp at same
      · rw [unheard, connected, Option.some.injEq] at told
        have lengths := congrArg (fun channels => channels.proposalUpdates.length) told
        simp [Channels.sendUpdate] at lengths
  · intro proposed batch rest error queued valid failed
    have ends := @createProposalFor_ends formats around service listening batch rest queued
    unfold Ends at ends
    unfold returnValue at failed
    cases ran : (createProposalFor formats around listening).run service with
    | ok _ after =>
      rw [ran] at failed
      cases failed
    | error error after =>
      rw [ran] at ends
      exact absurd (proposed batch rest queued valid) ends.1

def unreachable : Surroundings := { workingStorage with send := fun _ _ => .error ⟨"disconnected"⟩ }

/-- Service `x` cannot reach `y`: its batch is left among the proposals, of which the engine
does not know. -/
theorem unsent_batch_lost :
    let program := createProposalFor entryBatches unreachable true
    let after := finalState program Replica.restored.service
    after.shared.batchQueue = [] ∧ after.consensus = some ⟨[], []⟩ ∧
      after.getProposedBatch ⟨asBytes "0a"⟩ = some (entryBatch 1) ∧
      ¬ Conserves entryBatches unreachable true Replica.restored.service := by
  refine ⟨by decide +kernel, by decide +kernel, by decide +kernel, fun conserves => ?_⟩
  have kept := conserves (entryBatch 1) [] _ rfl (by rintro ⟨_, _, ⟨⟩⟩) rfl
  rcases kept with ⟨same, _⟩ | ⟨proposal, channels, connected, told⟩
  · exact absurd same (by decide +kernel)
  · cases connected
    have unheard : (finalState (createProposalFor entryBatches unreachable true)
        Replica.restored.service).consensus = some ⟨[], []⟩ := by decide +kernel
    cases unheard.symm.trans told

end Scabbard

end Splinter.ScabbardService
