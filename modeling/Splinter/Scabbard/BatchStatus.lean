import Mathlib.Data.Finset.Card
import Mathlib.Data.Finset.Sort
import Mathlib.Data.List.MinMax
import Mathlib.Data.String.Basic
import Splinter.Library.Maps
import Splinter.Library.Run
import Splinter.Scabbard.State

/-!
# The status of a batch

What `get_batch_info` says about a batch, compared with what has happened to the
batch since it was last added.  `effect` says what a call does to the history of
batches; everything below is about these effects.
-/

namespace Splinter.ScabbardService

open Library ScabbardState BatchHistory
open Circuits (TextMap)

def BatchHistory.getBatchInfo (now : Nat) (signature : String)
    (batches : BatchHistory) : BatchInfo :=
  match batches.history.lookup signature with
  | some info => info
  | none => { id := signature, status := .unknown, timestamp := now }

/-- The batch that is taken out of a full history has the least timestamp, as
`min_by_key` has it. -/
def Surroundings.ChoosesOldest (around : Surroundings) : Prop :=
  ∀ history : TextMap BatchInfo, history ≠ ∅ → ∃ oldest info, around.oldest history = some oldest ∧
    history.lookup oldest = some info ∧ ∀ other info', history.lookup other = some info' →
      info.timestamp ≤ info'.timestamp

/-- The key with the least timestamp, the first of them in the order of the
keys. -/
def oldestBatch (history : TextMap BatchInfo) : Option String :=
  (history.keys.sort (· ≤ ·)).argmin fun key =>
    ((history.lookup key).map BatchInfo.timestamp).getD 0

theorem choosesOldest_of_eq {around : Surroundings} (oldest : around.oldest = oldestBatch) :
    around.ChoosesOldest := by
  intro history nonempty
  rw [oldest]
  cases chosen : oldestBatch history with
  | none =>
    have none := List.argmin_eq_none.mp chosen
    refine absurd (Finmap.ext_lookup fun key => ?_) nonempty
    rw [Finmap.lookup_empty, Finmap.lookup_eq_none]
    intro member
    rw [← Finmap.mem_keys, ← Finset.mem_sort (· ≤ ·), none] at member
    cases member
  | some key =>
    have member := List.argmin_mem chosen
    rw [Finset.mem_sort, Finmap.mem_keys, Finmap.mem_iff] at member
    obtain ⟨info, found⟩ := member
    refine ⟨key, info, rfl, found, ?_⟩
    intro other info' present
    have listed : other ∈ history.keys.sort (· ≤ ·) := by
      rw [Finset.mem_sort, Finmap.mem_keys]
      exact Finmap.mem_of_lookup_eq_some present
    have least := List.le_of_mem_argmin listed chosen
    simpa [found, present] using least

/-! ## Calls and their effects -/

inductive StateCall where
  | addBatch (signature : String)
  | prepareChange (batch : BatchPair)
  | commit
  | rollback

/-- A call, with what the components around the state do during it. -/
structure StateEvent where
  machine : Machine
  around : Surroundings
  choosesOldest : around.ChoosesOldest
  call : StateCall

def StateEvent.perform (event : StateEvent) (state : ScabbardState) : ScabbardState :=
  match event.call with
  | .addBatch signature =>
    { state with batchHistory := state.batchHistory.addBatch event.around signature }
  | .prepareChange batch =>
    finalState (ScabbardState.prepareChange event.machine event.around batch) state
  | .commit => finalState (ScabbardState.commit event.around) state
  | .rollback => finalState ScabbardState.rollback state

/-- What a call does to the history of batches. -/
inductive HistoryEffect where
  | added (signature : String)
  | executed (signature : String) (results : List TransactionExecutionResult)
  | committed (signature : String)
  | nothing
  deriving DecidableEq

/-- A batch counts as executed if the executor gives results, and as committed
if `commit` returns `Ok`. -/
def StateEvent.effect (event : StateEvent) (state : ScabbardState) : HistoryEffect :=
  match event.call with
  | .addBatch signature => .added signature
  | .prepareChange batch =>
    match event.around.executor with
    | .ok _ =>
      .executed batch.batch.headerSignature (event.machine.execute state.currentStateRoot batch)
    | .error _ => .nothing
  | .commit =>
    match returnValue (ScabbardState.commit event.around) state,
      state.pendingChanges with
    | .ok _, some (signature, _) => .committed signature
    | _, _ => .nothing
  | .rollback => .nothing

def BatchHistory.apply (around : Surroundings) (batches : BatchHistory) :
    HistoryEffect → BatchHistory
  | .added signature => batches.addBatch around signature
  | .executed signature results => batches.updateBatchStatus signature (.ofResults results)
  | .committed signature => batches.commit signature
  | .nothing => batches

theorem batchHistory_prepareChange (machine : Machine) (around : Surroundings)
    (batch : BatchPair) (state : ScabbardState) :
    (finalState (ScabbardState.prepareChange machine around batch) state).batchHistory =
      match around.executor with
      | .ok _ =>
        state.batchHistory.updateBatchStatus batch.batch.headerSignature
          (.ofResults (machine.execute state.currentStateRoot batch))
      | .error _ => state.batchHistory := by
  cases executor : around.executor with
  | error failure =>
    have ends : EndsIn (prepareChange machine around batch) state fun after =>
        after.batchHistory = state.batchHistory := by
      unfold prepareChange
      simp [executor, ends_fromExcept, Except.mapError]
    exact ends.finalState
  | ok _ =>
    have ends : EndsIn (prepareChange machine around batch) state fun after =>
        after.batchHistory = state.batchHistory.updateBatchStatus batch.batch.headerSignature
          (.ofResults (machine.execute state.currentStateRoot batch)) := by
      unfold prepareChange
      simp only [ends_bind, ends_fromExcept, ends_get, ends_set, ends_pure,
        executor, Except.mapError, reduceCtorEq, false_imp_iff,
        implies_true, and_self]
    exact ends.finalState

theorem batchHistory_commit (around : Surroundings) (state : ScabbardState) :
    (finalState (ScabbardState.commit around) state).batchHistory =
      match returnValue (ScabbardState.commit around) state,
        state.pendingChanges with
      | .ok _, some (signature, _) => state.batchHistory.commit signature
      | _, _ => state.batchHistory := by
  have ends : Ends (ScabbardState.commit around) state
      (fun _ after =>
        ∃ signature txnReceipts, state.pendingChanges = some (signature, txnReceipts) ∧
          after.batchHistory = state.batchHistory.commit signature)
      (fun _ after => after.batchHistory = state.batchHistory) := by
    unfold ScabbardState.commit
    rw [ends_bind, ends_get, ends_bind, ends_set]
    cases pending : state.pendingChanges with
    | none => rfl
    | some change =>
      obtain ⟨signature, txnReceipts⟩ := change
      unfold ScabbardState.commitChanges ScabbardState.writeCurrentStateRoot
      simp only [ends_bind, ends_fromExcept, ends_get, ends_modify, implies_true, and_true]
      intro _ _ _ _ _ _ _ _ _ _
      exact ⟨signature, txnReceipts, rfl, rfl⟩
  unfold Ends at ends
  unfold finalState returnValue
  cases ran : (ScabbardState.commit around).run state with
  | ok _ after =>
    rw [ran] at ends
    obtain ⟨signature, txnReceipts, pending, history⟩ := ends
    rw [pending]
    exact history
  | error _ after =>
    rw [ran] at ends
    exact ends

theorem batchHistory_perform (event : StateEvent) (state : ScabbardState) :
    (event.perform state).batchHistory =
      state.batchHistory.apply event.around (event.effect state) := by
  unfold StateEvent.perform StateEvent.effect
  cases event.call with
  | addBatch signature => rfl
  | prepareChange batch =>
    rw [batchHistory_prepareChange]
    split <;> rfl
  | commit =>
    rw [batchHistory_commit]
    split <;> rfl
  | rollback => rfl

/-! ## What has happened to a batch -/

/-- What has happened to a batch since it was last added. -/
inductive Fate where
  | added
  | prepared (results : List TransactionExecutionResult)
  | committed
  deriving DecidableEq

def BatchStatus.isValid : BatchStatus → Bool
  | .valid _ => true
  | _ => false

def BatchStatus.isCommitted : BatchStatus → Bool
  | .committed _ => true
  | _ => false

def Fate.Tells : Fate → BatchStatus → Prop
  | .added, status => status = .pending
  | .prepared results, status => status = .ofResults results
  | .committed, status => status.isCommitted = true

def fatesAfter (fates : String → Fate) : HistoryEffect → String → Fate
  | .added signature => Function.update fates signature .added
  | .executed signature results =>
    if fates signature = .committed then
      fates
    else
      Function.update fates signature (.prepared results)
  | .committed signature => Function.update fates signature .committed
  | .nothing => fates

/-- A state, with what has happened to each batch. -/
structure Followed where
  state : ScabbardState
  fates : String → Fate

namespace Followed

def new (currentStateRoot : String) : Followed where
  state := .new currentStateRoot
  fates := fun _ => .added

def perform (event : StateEvent) (followed : Followed) : Followed where
  state := event.perform followed.state
  fates := fatesAfter followed.fates (event.effect followed.state)

def Step (before : Followed) (event : StateEvent) (after : Followed) : Prop :=
  after = before.perform event

/-- The history tells the truth about every batch that is in it. -/
def Truthful (followed : Followed) : Prop :=
  ∀ signature ∈ followed.state.batchHistory.history, ∀ now, (followed.fates signature).Tells
    (followed.state.batchHistory.getBatchInfo now signature).status

/-- A batch that has a result is executed with the same result again, and a
batch is committed only if it is valid, or has been committed before. -/
def Consistent (followed : Followed) (event : StateEvent) : Prop :=
  match event.effect followed.state with
  | .executed signature results =>
    ∀ info ∈ followed.state.batchHistory.history.lookup signature,
      info.status = .pending ∨ info.status.isCommitted = true ∨ info.status = .ofResults results
  | .committed signature =>
    ∀ info ∈ followed.state.batchHistory.history.lookup signature,
      info.status.isValid = true ∨ info.status.isCommitted = true
  | .added _ => True
  | .nothing => True

instance (followed : Followed) (event : StateEvent) : Decidable (followed.Consistent event) := by
  unfold Consistent
  split <;> infer_instance

/-- A batch that is taken out of the history made it too large and is no younger
than any other. -/
def EvictsOldest (followed : Followed) (event : StateEvent) : Prop := ∀ signature info,
    followed.state.batchHistory.history.lookup signature = some info →
    signature ∉ (event.perform followed.state).batchHistory.history →
      followed.state.batchHistory.history.keys.card = followed.state.batchHistory.limit ∧
        ∀ other info', followed.state.batchHistory.history.lookup other = some info' →
          info.timestamp ≤ info'.timestamp

theorem truthful_iff {followed : Followed} : followed.Truthful ↔ ∀ signature info,
    followed.state.batchHistory.history.lookup signature = some info →
      (followed.fates signature).Tells info.status := by
  constructor
  · intro truthful signature info found
    have told := truthful signature (Finmap.mem_of_lookup_eq_some found) 0
    rw [getBatchInfo, found] at told
    exact told
  · intro told signature member now
    obtain ⟨info, found⟩ := Finmap.mem_iff.mp member
    rw [getBatchInfo, found]
    exact told signature info found

end Followed

/-! ## The effects on the history -/

def BatchStatus.afterCommit : BatchStatus → BatchStatus
  | .valid transactions => .committed transactions
  | status => status

namespace BatchHistory

structure Revised (before after : BatchHistory) (signature : String)
    (revise : BatchStatus → BatchStatus) : Prop where
  limit : after.limit = before.limit
  lookup : ∀ other, after.history.lookup other =
    if other = signature then
      (before.history.lookup signature).map fun info =>
        { info with status := revise info.status }
    else
      before.history.lookup other

variable (batches : BatchHistory) (signature : String)

theorem revised_setStatus {info : BatchInfo} (revise : BatchStatus → BatchStatus)
    (found : batches.history.lookup signature = some info) :
    Revised batches (batches.setStatus signature info (revise info.status)) signature revise := by
  refine ⟨rfl, ?_⟩
  intro other
  rw [found]
  exact lookup_insert_eq batches.history signature other _

theorem revised_self {revise : BatchStatus → BatchStatus}
    (same : ∀ info, batches.history.lookup signature = some info →
      revise info.status = info.status) :
    Revised batches batches signature revise := by
  refine ⟨rfl, ?_⟩
  intro other
  split
  · rename_i here
    rw [here]
    cases found : batches.history.lookup signature with
    | none => rfl
    | some info => rw [Option.map_some, same info found]
  · rfl

theorem revised_updateBatchStatus (status : BatchStatus) :
    Revised batches (batches.updateBatchStatus signature status) signature
      fun earlier => if earlier = .pending then status else earlier := by
  unfold updateBatchStatus
  cases found : batches.history.lookup signature with
  | none =>
    refine revised_self batches signature ?_
    intro info present
    rw [found] at present
    cases present
  | some info =>
    dsimp only
    split
    · rename_i pending
      have revised := revised_setStatus batches signature
        (fun earlier => if earlier = .pending then status else earlier)
        found
      rw [if_pos pending] at revised
      exact revised
    · rename_i other
      refine revised_self batches signature ?_
      intro present same
      cases (found.symm.trans same)
      exact if_neg other

theorem revised_commit : Revised batches (batches.commit signature) signature
    BatchStatus.afterCommit := by
  unfold commit
  cases found : batches.history.lookup signature with
  | none =>
    refine revised_self batches signature ?_
    intro info present
    rw [found] at present
    cases present
  | some info =>
    dsimp only
    have revised := revised_setStatus batches signature BatchStatus.afterCommit found
    split
    · rename_i transactions valid
      rw [valid] at revised
      exact revised
    · rename_i other
      refine revised_self batches signature ?_
      intro present same
      cases (found.symm.trans same)
      unfold BatchStatus.afterCommit
      split
      · rename_i transactions valid
        exact absurd valid (other transactions)
      · rfl

theorem lookup_addBatch {around : Surroundings} {other : String} {info : BatchInfo}
    (found : (batches.addBatch around signature).history.lookup other = some info) :
    (batches.history.insert signature
      ⟨signature, .pending, around.now⟩).lookup other = some info := by
  unfold addBatch at found
  dsimp only at found
  split at found
  · split at found
    · exact lookup_of_erase found
    · exact found
  · exact found

end BatchHistory

/-! ## Truth -/

namespace Followed

variable {followed : Followed} {event : StateEvent} {signature : String} {effect : HistoryEffect}

theorem history_perform (happened : event.effect followed.state = effect) :
    (followed.perform event).state.batchHistory =
      followed.state.batchHistory.apply event.around effect := by
  rw [← happened]
  exact batchHistory_perform event followed.state

theorem fates_perform (happened : event.effect followed.state = effect) :
    (followed.perform event).fates = fatesAfter followed.fates effect := by
  rw [← happened]
  rfl

theorem revised_of_executed {results : List TransactionExecutionResult}
    (happened : event.effect followed.state = .executed signature results) :
    followed.state.batchHistory.Revised (followed.perform event).state.batchHistory signature
      fun earlier =>
        if earlier = .pending then .ofResults results else earlier := by
  rw [history_perform happened]
  exact revised_updateBatchStatus ..

theorem revised_of_committed (happened : event.effect followed.state = .committed signature) :
    followed.state.batchHistory.Revised (followed.perform event).state.batchHistory signature
      BatchStatus.afterCommit := by
  rw [history_perform happened]
  exact revised_commit ..

theorem truthful_of_added (truthful : followed.Truthful)
    (happened : event.effect followed.state = .added signature) :
    (followed.perform event).Truthful := by
  rw [truthful_iff] at truthful ⊢
  intro other info found
  rw [history_perform happened] at found
  have inserted := lookup_addBatch _ _ found
  rw [lookup_insert_eq] at inserted
  rw [fates_perform happened, fatesAfter]
  split at inserted
  · rename_i same
    cases inserted
    rw [same, Function.update_self]
    rfl
  · rename_i different
    rw [Function.update_of_ne different]
    exact truthful other info inserted

theorem truthful_revised_iff {before after : Followed} {revise : BatchStatus → BatchStatus}
    (truthful : before.Truthful)
    (fates : ∀ other, other ≠ signature → after.fates other = before.fates other)
    (revised : before.state.batchHistory.Revised after.state.batchHistory signature revise) :
    after.Truthful ↔ ∀ info, before.state.batchHistory.history.lookup signature = some info →
      (after.fates signature).Tells (revise info.status) := by
  rw [truthful_iff] at truthful ⊢
  constructor
  · intro told info found
    refine told signature { info with status := revise info.status } ?_
    rw [revised.lookup, if_pos rfl, found]
    rfl
  · intro told other info found
    rw [revised.lookup] at found
    split at found
    · rename_i same
      obtain ⟨earlier, present, rfl⟩ := Option.map_eq_some_iff.mp found
      rw [same]
      exact told earlier present
    · rename_i different
      rw [fates other different]
      exact truthful other info found

end Followed

theorem ofResults_cases (results : List TransactionExecutionResult) :
    (∃ transactions, BatchStatus.ofResults results = .invalid transactions) ∨
      ∃ transactions, BatchStatus.ofResults results = .valid transactions := by
  unfold BatchStatus.ofResults
  dsimp only
  split
  · exact Or.inl ⟨_, rfl⟩
  · exact Or.inr ⟨_, rfl⟩

theorem Fate.tells_executed_iff {fate : Fate} {status : BatchStatus}
    {results : List TransactionExecutionResult} (told : fate.Tells status) :
    (if fate = .committed then fate else .prepared results).Tells
      (if status = .pending then .ofResults results else status) ↔
      status = .pending ∨ status.isCommitted = true ∨ status = .ofResults results := by
  cases fate with
  | added =>
    obtain rfl : status = .pending := told
    simp [Tells]
  | prepared earlier =>
    obtain rfl : status = .ofResults earlier := told
    rcases ofResults_cases earlier with ⟨_, shape⟩ | ⟨_, shape⟩ <;>
      simp [Tells, shape, BatchStatus.isCommitted]
  | committed =>
    have committed : status.isCommitted = true := told
    have different : status ≠ .pending := by
      intro pending
      rw [pending] at committed
      cases committed
    simp [Tells, committed, different]

namespace Followed

variable {followed : Followed} {event : StateEvent} {signature : String}

theorem truthful_perform_iff (truthful : followed.Truthful) (event : StateEvent) :
    (followed.perform event).Truthful ↔ followed.Consistent event := by
  unfold Consistent
  cases effect : event.effect followed.state with
  | added signature => exact iff_of_true (truthful_of_added truthful effect) trivial
  | executed signature results =>
    have fates := fates_perform effect
    have others (other : String) (different : other ≠ signature) :
        (followed.perform event).fates other = followed.fates other := by
      rw [fates, fatesAfter]
      split
      · rfl
      · exact Function.update_of_ne different _ _
    have here : (followed.perform event).fates signature =
        if followed.fates signature = .committed then
          followed.fates signature
        else
          .prepared results := by
      rw [fates, fatesAfter]
      split
      · rfl
      · exact Function.update_self ..
    rw [truthful_revised_iff truthful others (revised_of_executed effect)]
    refine forall_congr' fun info => imp_congr_right fun found => ?_
    rw [here]
    exact Fate.tells_executed_iff (truthful_iff.mp truthful signature info found)
  | committed signature =>
    have fates := fates_perform effect
    have others (other : String) (different : other ≠ signature) :
        (followed.perform event).fates other = followed.fates other := by
      rw [fates]
      exact Function.update_of_ne different _ _
    have here : (followed.perform event).fates signature = .committed := by
      rw [fates]
      exact Function.update_self ..
    rw [truthful_revised_iff truthful others (revised_of_committed effect)]
    refine forall_congr' fun info => imp_congr_right fun _ => ?_
    rw [here]
    cases info.status <;>
      simp [Fate.Tells, BatchStatus.afterCommit, BatchStatus.isValid, BatchStatus.isCommitted]
  | nothing =>
    refine iff_of_true ?_ trivial
    rw [truthful_iff] at truthful ⊢
    rw [history_perform effect, fates_perform effect]
    exact truthful

end Followed

/-! ## The size of the history -/

def BatchHistory.Bounded (batches : BatchHistory) : Prop :=
  batches.history.keys.card ≤ batches.limit

namespace BatchHistory

variable {batches after : BatchHistory} {around : Surroundings} {signature : String}
  {revise : BatchStatus → BatchStatus}

theorem Revised.keys (revised : Revised batches after signature revise) :
    after.history.keys = batches.history.keys := by
  ext other
  rw [Finmap.mem_keys, Finmap.mem_keys, ← Finmap.lookup_isSome,
    ← Finmap.lookup_isSome, revised.lookup]
  split
  · rename_i same
    rw [same, Option.isSome_map]
  · rfl

theorem Revised.bounded (revised : Revised batches after signature revise)
    (bounded : batches.Bounded) :
    after.Bounded := by
  unfold Bounded
  rw [revised.keys, revised.limit]
  exact bounded

/-- The history with a new pending batch, before room is made for it. -/
def withPending (batches : BatchHistory) (around : Surroundings) (signature : String) :=
  batches.history.insert signature ⟨signature, .pending, around.now⟩

theorem card_withPending_le : (batches.withPending around signature).keys.card ≤
    batches.history.keys.card + 1 := by
  unfold withPending
  rw [keys_insert_eq]
  exact Finset.card_insert_le signature batches.history.keys

theorem lookup_withPending (bounded : batches.Bounded)
    (full : batches.limit < (batches.withPending around signature).keys.card)
    {other : String} {info : BatchInfo} (old : batches.history.lookup other = some info) :
    (batches.withPending around signature).lookup other = some info := by
  unfold withPending at full ⊢
  have new : signature ∉ batches.history.keys := by
    intro old
    rw [keys_insert_eq, Finset.insert_eq_of_mem old] at full
    exact Nat.not_lt_of_le bounded full
  rw [lookup_insert_eq, if_neg]
  · exact old
  · intro same
    rw [same] at old
    exact new (Finmap.mem_keys.mpr (Finmap.mem_of_lookup_eq_some old))

theorem addBatch_eq (chooses : around.ChoosesOldest) :
    (batches.withPending around signature).keys.card ≤ batches.limit ∧
      (batches.addBatch around signature).history = batches.withPending around signature ∨
      batches.limit < (batches.withPending around signature).keys.card ∧ ∃ oldest first,
        (batches.withPending around signature).lookup oldest = some first ∧
          (∀ other info, (batches.withPending around signature).lookup other = some info →
            first.timestamp ≤ info.timestamp) ∧
          (batches.addBatch around signature).history =
            (batches.withPending around signature).erase oldest := by
  unfold addBatch
  dsimp only
  rw [card_entries]
  by_cases full : (batches.withPending around signature).keys.card > batches.limit
  · have some : batches.withPending around signature ≠ ∅ := by
      intro empty
      rw [empty] at full
      exact Nat.not_lt_zero _ full
    obtain ⟨oldest, first, chosen, found, least⟩ := chooses _ some
    unfold withPending at full chosen
    rw [if_pos full, chosen]
    exact Or.inr ⟨full, oldest, first, found, least, rfl⟩
  · unfold withPending at full
    rw [if_neg full]
    exact Or.inl ⟨Nat.le_of_not_lt full, rfl⟩

theorem limit_addBatch : (batches.addBatch around signature).limit = batches.limit := by
  unfold addBatch
  dsimp only
  split
  · split <;> rfl
  · rfl

theorem addBatch_cases (chooses : around.ChoosesOldest) (bounded : batches.Bounded) :
    (batches.addBatch around signature).Bounded ∧ ∀ evicted info,
      batches.history.lookup evicted = some info →
      evicted ∉ (batches.addBatch around signature).history →
        batches.history.keys.card = batches.limit ∧
          ∀ other info', batches.history.lookup other = some info' →
            info.timestamp ≤ info'.timestamp := by
  have size : (batches.withPending around signature).keys.card ≤ batches.history.keys.card + 1 :=
    card_withPending_le
  have held : batches.history.keys.card ≤ batches.limit := bounded
  unfold Bounded
  rw [limit_addBatch]
  rcases addBatch_eq chooses with
    ⟨fits, shape⟩ | ⟨full, oldest, first, found, least, shape⟩
  · rw [shape]
    refine ⟨fits, ?_⟩
    intro evicted info present gone
    have old := Finmap.mem_of_lookup_eq_some present
    exact absurd (Finmap.mem_insert.mpr (Or.inr old)) gone
  · rw [shape]
    have kept (other : String) (info : BatchInfo) (old : batches.history.lookup other = some info) :
        (batches.withPending around signature).lookup other = some info :=
      lookup_withPending bounded full old
    constructor
    · rw [Finmap.keys_erase, Finset.card_erase_of_mem
        (Finmap.mem_keys.mpr (Finmap.mem_of_lookup_eq_some found))]
      omega
    · intro evicted info present gone
      have same : evicted = oldest := by
        by_contra different
        refine gone (Finmap.mem_erase.mpr ⟨different, ?_⟩)
        exact Finmap.mem_of_lookup_eq_some (kept evicted info present)
      rw [← same, kept evicted info present] at found
      cases found
      refine ⟨by omega, ?_⟩
      intro other info' old
      exact least other info' (kept other info' old)

end BatchHistory

namespace Followed

variable {followed : Followed}

theorem bounded_perform (bounded : followed.state.batchHistory.Bounded) (event : StateEvent) :
    (followed.perform event).state.batchHistory.Bounded ∧ followed.EvictsOldest event := by
  have unchanged
      (same : (followed.perform event).state.batchHistory.history.keys =
        followed.state.batchHistory.history.keys) :
      followed.EvictsOldest event := by
    intro signature info found gone
    have member := Finmap.mem_of_lookup_eq_some found
    rw [← Finmap.mem_keys, ← same, Finmap.mem_keys] at member
    exact absurd member gone
  cases effect : event.effect followed.state with
  | added signature =>
    unfold EvictsOldest
    rw [batchHistory_perform, history_perform effect, effect]
    exact addBatch_cases event.choosesOldest bounded
  | executed signature results =>
    have revised := revised_of_executed effect
    exact ⟨revised.bounded bounded, unchanged revised.keys⟩
  | committed signature =>
    have revised := revised_of_committed effect
    exact ⟨revised.bounded bounded, unchanged revised.keys⟩
  | nothing =>
    have history := history_perform effect
    unfold apply at history
    rw [history]
    exact ⟨bounded, unchanged (by rw [history])⟩

/-- In every run the history keeps its limit and loses only oldest batches; and
it is truthful all along exactly if all calls are consistent. -/
theorem batch_status_truthful_iff {currentStateRoot : String} {path : List (Followed × StateEvent)}
    {last : Followed} (run : Run Step (new currentStateRoot) path last) :
    (Run.Throughout Truthful path last ↔ Run.Meets Consistent path) ∧
      Run.Throughout (fun followed => followed.state.batchHistory.Bounded) path last ∧
        Run.Meets EvictsOldest path := by
  have truthful : (new currentStateRoot).Truthful := by
    intro signature member
    exact absurd member Finmap.notMem_empty
  have bounded : Run.Throughout (fun followed => followed.state.batchHistory.Bounded) path
        last := by
    refine run.throughout (Nat.zero_le _) ?_
    intro before event after held step
    rw [step]
    exact (bounded_perform held event).1
  refine ⟨?_, bounded, ?_⟩
  · refine run.forall_states_iff _ _ truthful ?_
    intro before event after held step
    rw [step]
    exact truthful_perform_iff held event
  · refine run.meets_of_throughout bounded ?_
    intro before event _ held _
    exact (bounded_perform held event).2

end Followed

/-! ## Batches that are added again or change their result -/

/-- A machine with the given results for every batch. -/
def machineWith (results : List TransactionExecutionResult) : Machine :=
  { entryMachine with execute := fun _ _ => results }

def calling (results : List TransactionExecutionResult) (call : StateCall) : StateEvent :=
  ⟨machineWith results, { workingStorage with oldest := oldestBatch }, choosesOldest_of_eq rfl,
    call⟩

def batchB : BatchPair := { entryBatch 1 with batch.headerSignature := "b" }

def success : TransactionExecutionResult := .valid ⟨"t", [.set "entry" []]⟩

def failure : TransactionExecutionResult := .invalid ⟨"t", "failed", []⟩

namespace Followed

/-- A batch that is added again before it is committed stays pending, and one
that was invalid at first stays invalid. -/
theorem committed_batches_mistold :
    (∃ path last, Run Step (new "00") path last ∧ last.fates "b" = .committed ∧
        (last.state.batchHistory.getBatchInfo 0 "b").status = .pending) ∧
    ∃ path last transactions, Run Step (new "00") path last ∧ last.fates "b" = .committed ∧
        (last.state.batchHistory.getBatchInfo 0 "b").status = .invalid transactions := by
  have resubmitted := Run.run_follow perform
      [calling [success] (.addBatch "b"), calling [success] (.prepareChange batchB),
        calling [success] (.addBatch "b"), calling [success] .commit]
      (new "00")
  have reexecuted := Run.run_follow perform
      [calling [success] (.addBatch "b"), calling [failure] (.prepareChange batchB),
        calling [success] (.prepareChange batchB), calling [success] .commit]
      (new "00")
  exact
    ⟨⟨_, _, resubmitted, by decide +kernel, by decide +kernel⟩,
      ⟨_, _, [⟨"t", "failed", []⟩], reexecuted, by decide +kernel, by decide +kernel⟩⟩

/-- The status of a batch that is added, prepared twice and committed. -/
theorem committed_batch_told : ∃ path last, Run Step (new "00") path last ∧
      last.fates "b" = .committed ∧ Run.Throughout Truthful path last := by
  have run := Run.run_follow perform
      [calling [success] (.addBatch "b"), calling [success] (.prepareChange batchB),
        calling [success] (.prepareChange batchB), calling [success] .commit]
      (new "00")
  exact ⟨_, _, run, by decide +kernel, (batch_status_truthful_iff run).1.mpr (by decide +kernel)⟩

end Followed

end Splinter.ScabbardService
