import Splinter.Scabbard.Audit
import Splinter.Services.PendingChange

/-!
# Verified batches

`add_batches` verifies the batches it puts into the queue, but a batch that
another service proposes is registered, executed and committed without a look
at its signatures.  If all the batches in the proposals that reach a service
are verified, all batches it commits are.
-/

namespace Splinter.ScabbardService

open Library Service Consensus Services Scabbard

/-- `verify_batches` accepts the batch. -/
def Verified (formats : Formats) (verifier : SignatureVerifier) (batch : BatchPair) : Prop :=
  ∀ around : Surroundings, around.verify = verifier →
    Scabbard.verifyBatches formats around [batch] = .ok true

namespace Scabbard

variable {formats : Formats} {around other : Surroundings}

/-! ## What verification depends on -/

theorem andAlso_eq_true_iff (check rest : Except ServiceError Bool) :
    andAlso check rest = .ok true ↔ check = .ok true ∧ rest = .ok true := by
  unfold andAlso
  rw [bind_eq_ok_iff]
  constructor
  · intro both
    obtain ⟨outcome, checked, continued⟩ := both
    cases outcome with
    | true => exact ⟨checked, continued⟩
    | false => cases continued
  · intro both
    exact ⟨true, both.1, both.2⟩

theorem verifyTransactions_congr (same : around.verify = other.verify) (publicKey : Bytes)
    (transactions : List (Bytes × Transaction)) :
    verifyTransactions formats around publicKey transactions =
      verifyTransactions formats other publicKey transactions := by
  induction transactions with
  | nil => rfl
  | cons entry transactions ih =>
    unfold verifyTransactions verifyTransaction verifySigned
    rw [ih, same]

theorem verifyBatch_congr (same : around.verify = other.verify) (batch : BatchPair) :
    verifyBatch formats around batch = verifyBatch formats other batch := by
  unfold verifyBatch verifySigned
  rw [verifyTransactions_congr same, same]

theorem verified_of_verifyBatch {batch : BatchPair}
    (checked : verifyBatch formats around batch = .ok true) :
    Verified formats around.verify batch := by
  intro other same
  unfold verifyBatches
  rw [andAlso_eq_true_iff, verifyBatch_congr same]
  exact ⟨checked, rfl⟩

theorem verified_of_verifyBatches {batches : List BatchPair}
    (checked : verifyBatches formats around batches = .ok true) :
    ∀ batch ∈ batches, Verified formats around.verify batch := by
  induction batches with
  | nil => nofun
  | cons first batches ih =>
    obtain ⟨verified, rest⟩ := (andAlso_eq_true_iff _ _).mp checked
    intro batch member
    rcases List.mem_cons.mp member with rfl | later
    · exact verified_of_verifyBatch verified
    · exact ih rest batch later

end Scabbard

/-! ## What a service keeps -/

variable {formats : Formats} {verifier : SignatureVerifier} {codecs : TwoPhase.Codecs}

structure Audited.Vouched (formats : Formats) (verifier : SignatureVerifier)
    (audited : Audited) : Prop where
  queued : ∀ batch ∈ audited.service.shared.batchQueue, Verified formats verifier batch
  registered : ∀ id batch, audited.service.getProposedBatch id = some batch →
    Verified formats verifier batch
  prepared : ∀ batch, audited.audit.prepared = some batch → Verified formats verifier batch
  committed : ∀ entry ∈ audited.audit.committed, Verified formats verifier entry.2

/-- A message registers only batches that `verify_batches` accepts. -/
def CarriesVerified (formats : Formats) (verifier : SignatureVerifier)
    (event : Event Scabbard.Operation) : Prop :=
  ∀ operation id batch, event = .operation operation →
    Scabbard.registration formats operation = some (id, batch) → Verified formats verifier batch

namespace Audited

variable {after audited : Audited} {operation : Scabbard.Operation}

theorem Vouched.of_stock {queue : List BatchPair}
    {batches : Finmap fun _ : ProposalId => BatchPair} {audit : Audit}
    (stocked : after.stock = (queue, batches)) (noted : after.audit = audit)
    (queued : ∀ batch ∈ queue, Verified formats verifier batch)
    (registered : ∀ id batch, batches.lookup id = some batch → Verified formats verifier batch)
    (prepared : ∀ batch, audit.prepared = some batch → Verified formats verifier batch)
    (committed : ∀ entry ∈ audit.committed, Verified formats verifier entry.2) :
    after.Vouched formats verifier where
  queued := by
    rw [batchQueue_of_stock stocked]
    exact queued
  registered := by
    intro id batch found
    rw [getProposedBatch_of_stock stocked] at found
    exact registered id batch found
  prepared := by
    rw [noted]
    exact prepared
  committed := by
    rw [noted]
    exact committed

theorem Vouched.respond {around : Surroundings} {call : Call} {answer : Answer}
    (vouched : audited.Vouched formats verifier)
    (responded : audited.respond formats around call = (answer, after)) :
    after.Vouched formats verifier := by
  have noted := noted_of_respond responded
  cases noted with
  | unchanged stocked noted =>
    exact .of_stock stocked noted vouched.queued vouched.registered
      vouched.prepared vouched.committed
  | discarded queued stocked noted =>
    have verified := vouched.queued
    rw [queued, List.forall_mem_cons] at verified
    exact .of_stock stocked noted verified.2 vouched.registered vouched.prepared vouched.committed
  | proposed queued stocked noted =>
    have verified := vouched.queued
    rw [queued, List.forall_mem_cons] at verified
    refine .of_stock stocked noted verified.2 ?_ ?_ vouched.committed
    · intro id batch found
      rcases lookup_of_insert found with known | ⟨_, rfl⟩
      · exact vouched.registered id batch known
      · exact verified.1
    · intro batch prepared
      cases prepared
      exact verified.1
  | checked registered stocked noted =>
    refine .of_stock stocked noted vouched.queued vouched.registered ?_ vouched.committed
    intro batch prepared
    cases prepared
    exact vouched.registered _ _ registered
  | accepted stocked added noted =>
    refine .of_stock stocked noted vouched.queued ?_ nofun ?_
    · intro id batch found
      exact vouched.registered id batch (lookup_of_erase found)
    · intro entry member
      rcases List.mem_append.mp member with earlier | new
      · exact vouched.committed entry earlier
      · exact vouched.prepared entry.2 (added entry new).2
  | rejected stocked noted =>
    refine .of_stock stocked noted vouched.queued ?_ nofun vouched.committed
    intro id batch found
    exact vouched.registered id batch (lookup_of_erase found)

theorem verified_of_queued {batch : BatchPair}
    (queued : batch ∈ Scabbard.queuedBatches formats (operation.withVerifier verifier)) :
    Verified formats verifier batch := by
  cases operation with
  | handleMessage context messageBytes => cases queued
  | addBatches around batches =>
    simp only [Scabbard.Operation.withVerifier, queuedBatches] at queued
    split at queued
    · rename_i checked
      exact verified_of_verifyBatches checked batch queued
    · cases queued

theorem Vouched.operate (vouched : audited.Vouched formats verifier)
    (carries : CarriesVerified formats verifier (.operation operation)) :
    (audited.operate formats (operation.withVerifier verifier)).Vouched formats verifier := by
  have stocked : (audited.operate formats (operation.withVerifier verifier)).stock = _ :=
    stock_operate audited _
  rw [registration_withVerifier] at stocked
  constructor
  · rw [batchQueue_of_stock stocked]
    intro batch member
    rcases List.mem_append.mp member with earlier | new
    · exact vouched.queued batch earlier
    · exact verified_of_queued new
  · intro id batch found
    rw [getProposedBatch_of_stock stocked] at found
    split at found
    · exact vouched.registered id batch found
    · rename_i other proposed registered
      rcases lookup_of_insert found with known | ⟨_, rfl⟩
      · exact vouched.registered id batch known
      · exact carries operation other batch rfl registered
  · exact vouched.prepared
  · exact vouched.committed

theorem Vouched.step {before after : Participant Audited} {event : Event Scabbard.Operation}
    (vouched : before.service.Vouched formats verifier)
    (carries : CarriesVerified formats verifier event)
    (taken : before.Step codecs (host formats verifier) event after) :
    after.service.Vouched formats verifier := by
  cases event with
  | operation operation =>
    obtain ⟨_, operated⟩ := taken
    rw [operated]
    exact vouched.operate carries
  | engine record =>
    obtain ⟨_, channels, remaining, _, _, answered⟩ := taken
    have fed : Vouched formats verifier
        ((host formats verifier).withChannels remaining before.service) :=
      ⟨vouched.queued, vouched.registered, vouched.prepared, vouched.committed⟩
    refine answered.invariant ?_ fed
    intro call answer between next responded held
    obtain ⟨around, computed⟩ := responded
    exact held.respond computed

end Audited

/-! ## Runs of the services -/

/-- In a run in which every proposal that a service is told of carries a batch
it verifies, it verifies all the batches it commits. -/
theorem committed_batches_verified {Index : Type} (formats : Formats) (codecs : TwoPhase.Codecs)
    (setups : Index → Setup)
    (path : List ((Index → Participant Audited) × (Index × Event Scabbard.Operation)))
    (last : Index → Participant Audited)
    (run : Run (ServicesStep formats codecs setups) (fun index => (setups index).start) path last)
    (carries : Run.Meets
        (fun _ label =>
          CarriesVerified formats (setups label.1).verifier label.2)
        path) :
    ∀ index, ∀ entry ∈ (last index).service.audit.committed,
      Verified formats (setups index).verifier entry.2 := by
  have vouched : ∀ index, (last index).service.Vouched formats (setups index).verifier := by
    refine Interleaved.guarded
        (fun index participant =>
          participant.service.Vouched formats (setups index).verifier)
        (fun index _ event =>
          CarriesVerified formats (setups index).verifier event)
        run ?_ ?_ carries
    · intro index
      exact ⟨nofun, nofun, nofun, nofun⟩
    · intro index before event after held carried taken
      exact held.step carried taken
  intro index entry member
  exact (vouched index).committed entry member

/-! ## Two services -/

section TwoServices

inductive Side where
  | x
  | y
  deriving DecidableEq

def Side.serviceId : Side → String
  | .x => "x"
  | .y => "y"

def Side.setup (verifier : SignatureVerifier) (side : Side) : Setup where
  timeout := 30
  now := 0
  serviceId := side.serviceId
  circuitId := "circuit"
  peerServices :=
    match side with
    | .x => ["y"]
    | .y => ["x"]
  stateRoot := "00"
  verifier := verifier

def auditedResponder (verifier : SignatureVerifier) :
    Responder (Audited.host entryBatches verifier) where
  respond call audited := some (audited.respond entryBatches workingStorage call)
  operate operation audited := audited.operate entryBatches (operation.withVerifier verifier)
  answers responded := ⟨_, Option.some.inj responded⟩
  operates _ _ := rfl

abbrev Moment := Side × ((Side → Participant Audited) → Option (Stimulus Scabbard.Operation))

/-- The service `y` is stimulated. -/
def toY (stimulus : Stimulus Scabbard.Operation) : Moment := (.y, fun _ => some stimulus)

theorem exists_run_of_services (verifier : SignatureVerifier) (moments : List Moment)
    (check : List ((Side → Participant Audited) × (Side × Event Scabbard.Operation)) →
      (Side → Participant Audited) → Bool)
    (checked : Interleaved.passes
      (fun _ participant stimulus =>
        Participant.advance .protobuf (auditedResponder verifier) participant stimulus)
      (fun side => (side.setup verifier).start) moments check =
      true) :
    ∃ path last, Run (ServicesStep entryBatches .protobuf (Side.setup verifier))
      (fun side => (side.setup verifier).start) path last ∧
      check path last = true := by
  refine Interleaved.exists_run ?_ checked
  intro side before stimulus event after advanced
  exact Participant.step_of_advance .protobuf (auditedResponder verifier) advanced

/-- The service `y` is told of a batch, is asked to verify it, and learns that
it is to be applied. -/
def committingAtY (batch : BatchPair) : List Moment :=
  let proposal := Scabbard.consensusProposal "0a"
  let told (message : TwoPhase.TwoPhaseMessage) := toldByX
    (serviceX.consensusEnvelope entryBatches
      (TwoPhase.Codecs.protobuf.twoPhaseMessage.write message))
  [toldByX
    (entryBatches.scabbardMessage.write
      (serviceX.proposedBatchMessage entryBatches proposal batch)),
    nextUpdate 0, told (TwoPhase.verificationRequest proposal.id),
    nextMessage 0, nextUpdate 0,
    told (TwoPhase.resultMessage proposal.id .apply), nextMessage 0].map toY

def rejectingVerifier : SignatureVerifier := fun _ _ _ => .ok false

/-- A batch whose signature is not valid is committed. -/
theorem unverified_batch_committed : ∃ path last,
      Run (ServicesStep entryBatches .protobuf (Side.setup rejectingVerifier))
          (fun side => (side.setup rejectingVerifier).start) path last ∧
        ∃ entry ∈ (last .y).service.audit.committed,
          ¬ Verified entryBatches rejectingVerifier entry.2 := by
  obtain ⟨path, last, run, checked⟩ :=
    exists_run_of_services rejectingVerifier (committingAtY (entryBatch 1))
      (fun _ last =>
        (last .y).service.audit.committed = [((consensusProposal "0a").id, entryBatch 1)])
      (by decide +kernel)
  refine ⟨path, last, run, ((consensusProposal "0a").id, entryBatch 1), ?_, ?_⟩
  · rw [of_decide_eq_true checked]
    exact List.mem_singleton.mpr rfl
  · intro verified
    have accepted := verified { workingStorage with verify := rejectingVerifier } rfl
    have refused : verifyBatches entryBatches { workingStorage with verify := rejectingVerifier }
            [entryBatch 1] = .ok false := by
      decide +kernel
    rw [refused] at accepted
    cases accepted

/-- The proposals that are handled carry the batch. -/
def carriesBatch (batch : BatchPair)
    (visited : (Side → Participant Audited) × (Side × Event Scabbard.Operation)) :
    Bool :=
  match visited.2.2 with
  | .engine _ => true
  | .operation operation =>
    match Scabbard.registration entryBatches operation with
    | none => true
    | some (_, carried) => carried = batch

theorem carriesVerified_of_carriesBatch {verifier : SignatureVerifier} {batch : BatchPair}
    {visited : (Side → Participant Audited) × (Side × Event Scabbard.Operation)}
    (verified : Verified entryBatches verifier batch)
    (carries : carriesBatch batch visited = true) :
    CarriesVerified entryBatches verifier visited.2.2 := by
  intro operation id carried handled registered
  unfold carriesBatch at carries
  simp only [handled, registered] at carries
  rw [of_decide_eq_true carries]
  exact verified

def acceptingVerifier : SignatureVerifier := fun _ _ _ => .ok true

theorem committed_batches_verified_at_y : ∃ path last,
      Run (ServicesStep entryBatches .protobuf (Side.setup acceptingVerifier))
          (fun side => (side.setup acceptingVerifier).start) path last ∧
        (last .y).service.audit.committed ≠ [] ∧
        ∀ side, ∀ entry ∈ (last side).service.audit.committed,
          Verified entryBatches acceptingVerifier entry.2 := by
  obtain ⟨path, last, run, checked⟩ :=
    exists_run_of_services acceptingVerifier (committingAtY (entryBatch 1))
      (fun path last =>
        path.all (carriesBatch (entryBatch 1)) && (last .y).service.audit.committed ≠ [])
      (by decide +kernel)
  obtain ⟨carried, committed⟩ := Bool.and_eq_true_iff.mp checked
  have checks : verifyBatch entryBatches
          { workingStorage with verify := acceptingVerifier } (entryBatch 1) =
        .ok true := by
    decide +kernel
  have verified := verified_of_verifyBatch checks
  refine ⟨path, last, run, of_decide_eq_true committed, ?_⟩
  refine committed_batches_verified entryBatches .protobuf
      (Side.setup acceptingVerifier) path last run ?_
  intro visited member
  exact carriesVerified_of_carriesBatch verified (List.all_eq_true.mp carried visited member)

end TwoServices

end Splinter.ScabbardService
