import Splinter.Scabbard.Verification

/-!
# The batch of a proposal

A proposal is named after the state root it leads to, and registering a batch
replaces the one registered under the same name.  All services commit the same
batch for a proposal if no two batches have been registered under one name.
-/

namespace Splinter.ScabbardService

open Library Service Consensus Services TwoPhase TwoPhaseEngine Audited

variable {formats : Formats} {verifier : SignatureVerifier} {codecs : TwoPhase.Codecs}

namespace Audited

/-! ## Registered and committed batches -/

/-- Every batch in the map and every committed batch has been registered for
its proposal. -/
structure Logged (audited : Audited) : Prop where
  registered : ∀ id batch, audited.service.getProposedBatch id = some batch →
    (id, batch) ∈ audited.audit.registered
  committed : ∀ entry ∈ audited.audit.committed, entry ∈ audited.audit.registered

/-- The change that is prepared comes from a batch of the proposal. -/
def PreparedFor (audited : Audited) (id : ProposalId) : Prop :=
  ∀ batch, audited.audit.prepared = some batch → (id, batch) ∈ audited.audit.registered

variable {audited after : Audited} {around : Surroundings} {call : Call} {answer : Answer}

theorem registered_of_respond (responded : audited.respond formats around call = (answer, after)) :
    audited.audit.registered ⊆ after.audit.registered := by
  cases noted_of_respond responded with
  | proposed _ _ noted =>
    rw [noted]
    exact List.subset_append_left _ _
  | unchanged _ noted | discarded _ _ noted | checked _ _ noted
  | accepted _ _ noted | rejected _ noted =>
    rw [noted]
    exact List.Subset.refl _

theorem Logged.respond (logged : audited.Logged)
    (accepts : ∀ id data, call = .acceptProposal id data → audited.PreparedFor id)
    (responded : audited.respond formats around call = (answer, after)) :
    after.Logged := by
  cases noted_of_respond responded with
  | unchanged stocked noted | discarded _ stocked noted
  | checked _ stocked noted =>
    refine ⟨fun id batch found => ?_, ?_⟩
    · rw [getProposedBatch_of_stock stocked] at found
      rw [noted]
      exact logged.registered id batch found
    · rw [noted]
      exact logged.committed
  | proposed queued stocked noted =>
    refine ⟨fun id batch found => ?_, fun entry member => ?_⟩
    · rw [getProposedBatch_of_stock stocked] at found
      rw [noted]
      rcases lookup_of_insert found with known | ⟨rfl, rfl⟩
      · exact List.mem_append_left _ (logged.registered id batch known)
      · exact List.mem_append_right _ (List.mem_singleton.mpr rfl)
    · rw [noted] at member ⊢
      exact List.mem_append_left _ (logged.committed entry member)
  | accepted stocked added noted =>
    refine ⟨fun id batch found => ?_, fun entry member => ?_⟩
    · rw [getProposedBatch_of_stock stocked] at found
      rw [noted]
      exact logged.registered id batch (lookup_of_erase found)
    · rw [noted] at member ⊢
      rcases List.mem_append.mp member with earlier | new
      · exact logged.committed entry earlier
      · obtain ⟨sameId, prepared⟩ := added entry new
        have known := accepts _ _ rfl entry.2 prepared
        rw [← sameId] at known
        exact known
  | rejected stocked noted =>
    refine ⟨fun id batch found => ?_, ?_⟩
    · rw [getProposedBatch_of_stock stocked] at found
      rw [noted]
      exact logged.registered id batch (lookup_of_erase found)
    · rw [noted]
      exact logged.committed

theorem PreparedFor.respond {id : ProposalId} (prepared : audited.PreparedFor id)
    (evaluating : Evaluating id call)
    (responded : audited.respond formats around call = (answer, after)) :
    after.PreparedFor id := by
  unfold PreparedFor
  cases noted_of_respond responded with
  | unchanged _ noted =>
    rw [noted]
    exact prepared
  | discarded _ _ _ | proposed _ _ _ | checked _ _ _ => exact evaluating.elim
  | accepted _ _ noted | rejected _ noted =>
    rw [noted]
    nofun

theorem preparedFor_of_check {id : ProposalId} (logged : audited.Logged)
    (responded : audited.respond formats around (.checkProposal id) = (.ok (), after)) :
    after.PreparedFor id := by
  have executes : Ends (Scabbard.checkProposal formats around id) audited.service
      (fun _ _ =>
        ∃ batch root, audited.service.getProposedBatch id = some batch ∧
          Scabbard.executedRoot formats around audited.service.shared.state batch = some root)
      fun _ _ => True := by
    unfold Scabbard.checkProposal
    rw [ends_bind, ends_get]
    split
    · trivial
    · rename_i batch registered
      unfold Scabbard.onState
      rw [ends_bind, ends_zoom, ends_mapError]
      refine (ends_run _ _).mono (fun root state ran => ?_) fun _ _ _ => trivial
      have executed : Scabbard.executedRoot formats around audited.service.shared.state
          batch = some root := by
        unfold Scabbard.executedRoot
        rw [ran]
      split
      · exact ⟨batch, root, registered, executed⟩
      · exact ⟨batch, root, registered, executed⟩
  obtain ⟨answered, _⟩ := Prod.mk.inj responded
  obtain ⟨batch, root, registered, executed⟩ := returned_of_answer executes (Prod.ext answered rfl)
  have noted : after.audit = audited.note formats around (.checkProposal id) :=
    (state_respond responded).2
  simp only [note, registered, executed] at noted
  intro prepared same
  rw [noted] at same ⊢
  cases same
  exact logged.registered id _ registered

theorem registered_of_operate (audited : Audited) (operation : Scabbard.Operation) :
    audited.audit.registered ⊆ (audited.operate formats operation).audit.registered :=
  List.subset_append_left _ _

theorem Logged.operate (logged : audited.Logged) (operation : Scabbard.Operation) :
    (audited.operate formats operation).Logged := by
  have grown : audited.audit.registered ⊆ (audited.operate formats operation).audit.registered :=
    registered_of_operate audited operation
  refine ⟨fun id batch found => ?_, fun entry member => ?_⟩
  · have stocked : (audited.operate formats operation).stock = _ := stock_operate audited operation
    rw [getProposedBatch_of_stock stocked] at found
    split at found
    · exact grown (logged.registered id batch found)
    · rename_i other proposed registered
      rcases lookup_of_insert found with known | ⟨rfl, rfl⟩
      · exact grown (logged.registered id batch known)
      · refine List.mem_append_right _ ?_
        rw [registered]
        exact List.mem_singleton.mpr rfl
  · exact grown (logged.committed entry member)

end Audited

/-! ## What a service with its engine keeps -/

/-- The log is complete, and the batch of a pending change has been registered
for the proposal under evaluation. -/
structure Tracked (participant : Participant Audited) : Prop where
  kept : participant.engine.WellKept
  logged : participant.service.Logged
  prepared : ∀ id, participant.engine.Evaluates id → participant.service.PreparedFor id

variable {after before : Participant Audited} {id : ProposalId} {event : Event Scabbard.Operation}
  {exchanges : List Exchange} {audited : Audited}

theorem logged_while_evaluating {before after : Audited} (logged : before.Logged)
    (prepared : before.PreparedFor id) (calls : ∀ exchange ∈ exchanges, Evaluating id exchange.1)
    (answered : Interaction.Answered (Audited.host formats verifier).Answers before
      exchanges after) :
    after.Logged ∧ after.PreparedFor id := by
  refine answered.guarded (fun audited => audited.Logged ∧ audited.PreparedFor id)
    (Evaluating id) calls ?_ ⟨logged, prepared⟩
  intro call answer between next evaluating responded held
  obtain ⟨around, computed⟩ := responded
  refine ⟨held.1.respond ?_ computed, held.2.respond evaluating computed⟩
  intro other data accepts
  rw [accepts] at evaluating
  have same : other = id := evaluating
  rw [same]
  exact held.2

theorem logged_without_accepting {before after : Audited} (logged : before.Logged)
    (calls : ∀ exchange ∈ exchanges, ∀ id data, exchange.1 ≠ .acceptProposal id data)
    (answered : Interaction.Answered (Audited.host formats verifier).Answers before
      exchanges after) :
    after.Logged := by
  refine answered.guarded Audited.Logged
    (fun call => ∀ id data, call ≠ .acceptProposal id data) calls ?_ logged
  intro call answer between next others responded held
  obtain ⟨around, computed⟩ := responded
  exact held.respond (fun id data accepts => (others id data accepts).elim) computed

theorem Tracked.operation {operation : Scabbard.Operation} (tracked : Tracked before)
    (taken : before.Step codecs (Audited.host formats verifier) (.operation operation) after) :
    Tracked after := by
  obtain ⟨same, operated⟩ := taken
  refine ⟨?_, ?_, fun id evaluates batch prepared => ?_⟩
  · rw [same]
    exact tracked.kept
  · rw [operated]
    exact tracked.logged.operate _
  · rw [same] at evaluates
    rw [operated] at prepared ⊢
    exact registered_of_operate _ _ (tracked.prepared id evaluates batch prepared)

theorem Tracked.step (tracked : Tracked before)
    (taken : before.Step codecs (Audited.host formats verifier) event after) :
    Tracked after := by
  cases event with
  | operation operation => exact tracked.operation taken
  | engine record =>
    obtain ⟨⟨returned, trace⟩, channels, remaining, _, _, answered⟩ := taken
    have transition := transition_of_trace trace
    have kept := tracked.kept.transition transition
    have fed : Audited.Logged ((host formats verifier).withChannels remaining before.service) :=
      ⟨tracked.logged.registered, tracked.logged.committed⟩
    by_cases evaluating : ∃ id, before.engine.Evaluates id
    · obtain ⟨id, evaluates⟩ := evaluating
      have calls := evaluating_of_transition tracked.kept transition evaluates
      obtain ⟨logged, prepared⟩ := logged_while_evaluating fed (tracked.prepared id evaluates) calls
        answered
      refine ⟨kept, logged, fun other continues => ?_⟩
      obtain ⟨proposal, stays, rfl⟩ := continues
      rcases continued_of_transition tracked.kept transition stays with
        checked | ⟨evaluated, _⟩
      · rw [checked] at calls
        exact (calls _ (List.mem_singleton.mpr rfl)).elim
      · rw [eq_of_evaluates evaluated evaluates]
        exact prepared
    · have others : ∀ exchange ∈ record.exchanges, ∀ id data,
          exchange.1 ≠ .acceptProposal id data := by
        intro exchange member id data accepts
        have accepted : (.acceptProposal id data, exchange.2) ∈ record.exchanges := by
          rw [← accepts]
          exact member
        exact evaluating ⟨id, evaluates_of_accept transition accepted⟩
      have logged := logged_without_accepting fed others answered
      refine ⟨kept, logged, fun other begins => ?_⟩
      obtain ⟨proposal, starts, rfl⟩ := begins
      rcases continued_of_transition tracked.kept transition starts with
        checked | ⟨evaluated, _⟩
      · rw [checked] at answered
        simp only [Interaction.answered_cons_iff, Interaction.answered_nil_iff] at answered
        obtain ⟨between, ⟨around, computed⟩, rfl⟩ := answered
        exact preparedFor_of_check fed computed
      · exact (evaluating ⟨_, evaluated⟩).elim

/-! ## Batches that stay registered -/

def DecidesProposal (event : Event Scabbard.Operation) (id : ProposalId) : Prop :=
  ∃ record, event = .engine record ∧ ∃ exchange ∈ record.exchanges,
    (∃ data, exchange.1 = .acceptProposal id data) ∨ exchange.1 = .rejectProposal id

/-- A registered batch stays registered unless its proposal is decided. -/
def KeepsProposed (before after : Audited) (event : Event Scabbard.Operation) : Prop :=
  ∀ id batch, before.service.getProposedBatch id = some batch →
    after.service.getProposedBatch id = some batch ∨ DecidesProposal event id

theorem registered_step (taken : before.Step codecs (Audited.host formats verifier) event after) :
    before.service.audit.registered ⊆ after.service.audit.registered := by
  cases event with
  | operation operation =>
    rw [taken.2]
    exact registered_of_operate _ _
  | engine record =>
    obtain ⟨_, channels, remaining, _, _, answered⟩ := taken
    have grown : ∀ call answer between next,
        (host formats verifier).Answers call between answer next →
        before.service.audit.registered ⊆ between.audit.registered →
        before.service.audit.registered ⊆ next.audit.registered := by
      intro call answer between next responded earlier
      obtain ⟨around, computed⟩ := responded
      exact List.Subset.trans earlier (registered_of_respond computed)
    exact answered.invariant grown (List.Subset.refl _)

theorem Audited.isSome_respond {after : Audited} {around : Surroundings} {call : Call}
    {answer : Answer} (others : ∀ data, call ≠ .acceptProposal id data)
    (other : call ≠ .rejectProposal id)
    (registered : (audited.service.getProposedBatch id).isSome = true)
    (responded : audited.respond formats around call = (answer, after)) :
    (after.service.getProposedBatch id).isSome = true := by
  cases noted_of_respond responded with
  | unchanged stocked _ | discarded _ stocked _ | checked _ stocked _ =>
    rw [getProposedBatch_of_stock stocked]
    exact registered
  | @proposed _ _ _ _ proposed _ stocked _ =>
    rw [getProposedBatch_of_stock stocked]
    by_cases same : id = proposed
    · rw [same, Finmap.lookup_insert]
      rfl
    · rw [Finmap.lookup_insert_of_ne _ same]
      exact registered
  | @accepted decided data _ stocked _ _ =>
    have different : id ≠ decided := by
      intro same
      exact others data (by rw [same])
    rw [getProposedBatch_of_stock stocked, Finmap.lookup_erase_ne different]
    exact registered
  | @rejected decided stocked _ =>
    have different : id ≠ decided := by
      intro same
      exact other (by rw [same])
    rw [getProposedBatch_of_stock stocked, Finmap.lookup_erase_ne different]
    exact registered

theorem Audited.isSome_operate (operation : Scabbard.Operation)
    (registered : (audited.service.getProposedBatch id).isSome = true) :
    ((audited.operate formats operation).service.getProposedBatch id).isSome = true := by
  have stocked : (audited.operate formats operation).stock = _ := stock_operate audited operation
  rw [getProposedBatch_of_stock stocked]
  split
  · exact registered
  · rename_i other batch _
    by_cases same : id = other
    · rw [same, Finmap.lookup_insert]
      rfl
    · rw [Finmap.lookup_insert_of_ne _ same]
      exact registered

theorem isSome_step (taken : before.Step codecs (Audited.host formats verifier) event after)
    (registered : (before.service.service.getProposedBatch id).isSome = true)
    (undecided : ¬ DecidesProposal event id) :
    (after.service.service.getProposedBatch id).isSome = true := by
  cases event with
  | operation operation =>
    rw [taken.2]
    exact isSome_operate _ registered
  | engine record =>
    obtain ⟨_, channels, remaining, _, _, answered⟩ := taken
    have calls : ∀ exchange ∈ record.exchanges, (∀ data, exchange.1 ≠ .acceptProposal id data) ∧
        exchange.1 ≠ .rejectProposal id := by
      intro exchange member
      refine ⟨fun data accepts => ?_, fun rejects => ?_⟩
      · exact undecided ⟨record, rfl, exchange, member, Or.inl ⟨data, accepts⟩⟩
      · exact undecided ⟨record, rfl, exchange, member, Or.inr rejects⟩
    refine answered.guarded
      (fun audited =>
        (audited.service.getProposedBatch id).isSome = true)
      (fun call =>
        (∀ data, call ≠ .acceptProposal id data) ∧ call ≠ .rejectProposal id)
      calls ?_ registered
    intro call answer between next others responded held
    obtain ⟨around, computed⟩ := responded
    exact isSome_respond others.1 others.2 held computed

/-! ## Runs of the services -/

section Runs

variable {Index : Type}

/-- No two batches have been registered under one name. -/
def Unambiguous (system : Index → Participant Audited) : Prop := ∀ left right id batch other,
    (id, batch) ∈ (system left).service.audit.registered →
      (id, other) ∈ (system right).service.audit.registered → batch = other

/-- No two services have committed different batches for a proposal. -/
def CommitsSame (system : Index → Participant Audited) : Prop := ∀ left right id batch other,
    (id, batch) ∈ (system left).service.audit.committed →
      (id, other) ∈ (system right).service.audit.committed → batch = other

theorem tracked_of_run {setups : Index → Setup}
    {path : List ((Index → Participant Audited) × (Index × Event Scabbard.Operation))}
    {last : Index → Participant Audited}
    (run : Run (ServicesStep formats codecs setups) (fun index => (setups index).start) path last) :
    ∀ index, Tracked (last index) := by
  refine Interleaved.invariant (fun _ => Tracked) run ?_ ?_
  · intro index
    refine ⟨Node.wellKept_boot _ _ _ _, ⟨nofun, nofun⟩, ?_⟩
    intro id _
    nofun
  · intro index before event after tracked taken
    exact tracked.step taken

/-- In a run and a step after it, such that no two batches have been registered
under one name: the services commit the same batches, and no registered batch
is lost in the step. -/
theorem commits_same_of_unambiguous
    (formats : Formats) (codecs : TwoPhase.Codecs) (setups : Index → Setup)
    (path : List ((Index → Participant Audited) × (Index × Event Scabbard.Operation)))
    (before after : Index → Participant Audited) (label : Index × Event Scabbard.Operation)
    (run : Run (ServicesStep formats codecs setups) (fun index => (setups index).start) path before)
    (taken : ServicesStep formats codecs setups before label after)
    (unambiguous : Unambiguous after) :
    CommitsSame after ∧ ∀ index, KeepsProposed (before index).service (after index).service
          label.2 := by
  have earlier := tracked_of_run run
  have tracked := tracked_of_run (run.snoc taken)
  refine ⟨?_, fun index => ?_⟩
  · intro left right id batch other ours theirs
    exact unambiguous left right id batch other ((tracked left).logged.committed _ ours)
        ((tracked right).logged.committed _ theirs)
  · intro id batch registered
    by_cases moving : index = label.1
    · subst moving
      by_cases decided : DecidesProposal label.2 id
      · exact Or.inr decided
      · left
        have stays := isSome_step taken.1 (Option.isSome_of_eq_some registered) decided
        obtain ⟨other, found⟩ := Option.isSome_iff_exists.mp stays
        have logged := registered_step taken.1 ((earlier _).logged.registered id batch registered)
        have same := unambiguous _ _ id batch other logged
            ((tracked _).logged.registered id other found)
        rw [same]
        exact found
    · rw [taken.2 index moving]
      exact Or.inl registered

/-- Whatever the services are told: a service commits only batches that have been registered
for the accepted proposal, and its pending change is the result of one batch on its current
root, one that has been registered for the proposal under evaluation. -/
theorem batches_accounted_for (formats : Formats) (codecs : TwoPhase.Codecs)
    (setups : Index → Setup)
    (path : List ((Index → Participant Audited) × (Index × Event Scabbard.Operation)))
    (last : Index → Participant Audited)
    (run : Run (ServicesStep formats codecs setups) (fun index => (setups index).start) path last)
    (index : Index) :
    (last index).service.audit.committed ⊆ (last index).service.audit.registered ∧
      (last index).service.Explained formats ∧
      ∀ id, (last index).engine.Evaluates id → (last index).service.PreparedFor id := by
  have tracked := tracked_of_run run index
  refine ⟨?_, explained_of_run run index, tracked.prepared⟩
  intro entry member
  exact tracked.logged.committed entry member

end Runs

/-- Service `y` has checked a batch, and its change is pending. -/
theorem batch_accounted_for_at_y : ∃ path last,
    Run (ServicesStep entryBatches .protobuf (Side.setup acceptingVerifier))
        (fun side => (side.setup acceptingVerifier).start) path last ∧
      (last .y).service.service.shared.state.Pending entryBatches.machine (entryBatch 1) := by
  obtain ⟨path, last, run, checked⟩ :=
    exists_run_of_services acceptingVerifier ((committingAtY (entryBatch 1)).take 4)
      (fun _ last => (last .y).service.audit.prepared = some (entryBatch 1)) (by decide +kernel)
  have explained := (batches_accounted_for _ _ _ path last run .y).2.1
  rw [Audited.Explained, of_decide_eq_true checked] at explained
  exact ⟨path, last, run, explained⟩

/-! ## Two batches under one name -/

section TwoBatches

def DeliversSent {Index : Type} (setups : Index → Setup) (system : Index → Participant Audited)
    (label : Index × Event Scabbard.Operation) : Prop :=
  ∀ context messageBytes, label.2 = .operation (.handleMessage context messageBytes) → ∃ sender,
    context.sender = (setups sender).serviceId ∧ ((setups label.1).serviceId, messageBytes) ∈
      (system sender).service.service.shared.sentMessages

def deliver (sender recipient : Side) (position : Nat) : Moment :=
  (recipient, fun system =>
    match (system sender).service.service.shared.sentMessages[position]? with
    | none => none
    | some sent => some (.operation (.handleMessage ⟨sender.serviceId, "circuit", ""⟩ sent.2)))

def submit (side : Side) (batch : BatchPair) : Moment :=
  (side, fun _ => some (.operation (.addBatches workingStorage [batch])))

def does (side : Side) (stimulus : Stimulus Scabbard.Operation) : Moment :=
  (side, fun _ => some stimulus)

def asks : Stimulus Scabbard.Operation := .engine 0 fun _ => some .getNextProposal

/-- Both services propose a batch that sets the entry, and are told of the batch of
the other. -/
def proposingBoth : List Moment :=
  [submit .x (entryBatch 1), submit .y (entryBatch 2), does .x asks,
    does .y asks, deliver .x .y 0, deliver .y .x 0]

/-- Then the services agree on the one proposal there is. -/
def agreeingOnBoth : List Moment := proposingBoth ++
    [does .x (nextUpdate 0), does .x (nextUpdate 0), does .x (nextUpdate 0),
      does .y (nextUpdate 0), does .y (nextUpdate 0), deliver .x .y 1,
      does .y (nextMessage 0), does .y (nextUpdate 0), deliver .y .x 1,
      does .x (nextMessage 0), deliver .x .y 2, does .y (nextMessage 0)]

def deliversSent (visited : (Side → Participant Audited) × (Side × Event Scabbard.Operation)) :
    Bool :=
  match visited.2.2 with
  | .operation (.handleMessage context messageBytes) =>
    [Side.x, Side.y].any fun sender =>
      context.sender = sender.serviceId ∧ (visited.2.1.serviceId, messageBytes) ∈
        (visited.1 sender).service.service.shared.sentMessages
  | _ => true

theorem deliversSent_of_check {verifier : SignatureVerifier}
    {visited : (Side → Participant Audited) × (Side × Event Scabbard.Operation)}
    (checked : deliversSent visited = true) :
    DeliversSent (Side.setup verifier) visited.1 visited.2 := by
  intro context messageBytes handled
  unfold deliversSent at checked
  rw [handled] at checked
  obtain ⟨sender, _, sent⟩ := List.any_eq_true.mp checked
  exact ⟨sender, of_decide_eq_true sent⟩

/-- The name under which both batches are proposed. -/
def sharedId : ProposalId := (Scabbard.consensusProposal "0a").id

/-- In the last step service `x` handles a message and has another batch
registered afterwards. -/
def replaces (step : Option ((Side → Participant Audited) × (Side × Event Scabbard.Operation)))
    (last : Side → Participant Audited) : Bool :=
  match step with
  | some (before, _, .operation _) =>
    (before .x).service.service.getProposedBatch sharedId = some (entryBatch 1) ∧
      (last .x).service.service.getProposedBatch sharedId = some (entryBatch 2)
  | _ => false

theorem not_keepsProposed_of_replaces {before last : Side → Participant Audited}
    {label : Side × Event Scabbard.Operation}
    (replaced : replaces (some (before, label)) last = true) :
    ¬ KeepsProposed (before .x).service (last .x).service label.2 := by
  obtain ⟨side, event⟩ := label
  cases event with
  | engine record => cases replaced
  | operation operation =>
    intro keeps
    obtain ⟨registered, afterwards⟩ := of_decide_eq_true replaced
    rcases keeps _ _ registered with kept | ⟨_, impossible, _⟩
    · rw [afterwards] at kept
      exact absurd (Option.some.inj kept) (by decide)
    · cases impossible

/-- Two honest services commit different batches for one proposal; and a
registered batch is replaced by another. -/
theorem services_commit_different_batches :
    (∃ path last, Run (ServicesStep entryBatches .protobuf (Side.setup acceptingVerifier))
          (fun side => (side.setup acceptingVerifier).start) path last ∧
        Run.Meets (DeliversSent (Side.setup acceptingVerifier)) path ∧
        ¬ CommitsSame last) ∧
      ∃ path before label after, Run
            (ServicesStep entryBatches .protobuf (Side.setup acceptingVerifier))
            (fun side => (side.setup acceptingVerifier).start) path before ∧
          ServicesStep entryBatches .protobuf (Side.setup acceptingVerifier) before label after ∧
          Run.Meets (DeliversSent (Side.setup acceptingVerifier)) (path ++ [(before, label)]) ∧
          ¬ KeepsProposed (before .x).service (after .x).service label.2 := by
  constructor
  · obtain ⟨path, last, run, checked⟩ := exists_run_of_services acceptingVerifier agreeingOnBoth
        (fun path last =>
          path.all deliversSent &&
            ((last .x).service.audit.committed = [(sharedId, entryBatch 2)] ∧
              (last .y).service.audit.committed = [(sharedId, entryBatch 1)]))
        (by decide +kernel)
    obtain ⟨delivered, committed⟩ := Bool.and_eq_true_iff.mp checked
    refine ⟨path, last, run, ?_, ?_⟩
    · intro visited member
      exact deliversSent_of_check (List.all_eq_true.mp delivered visited member)
    · intro same
      obtain ⟨atX, atY⟩ := of_decide_eq_true committed
      have equal := same .x .y sharedId (entryBatch 2) (entryBatch 1)
          (by rw [atX]; exact List.mem_singleton.mpr rfl)
          (by rw [atY]; exact List.mem_singleton.mpr rfl)
      exact absurd equal (by decide)
  · obtain ⟨path, last, run, checked⟩ := exists_run_of_services acceptingVerifier proposingBoth
        (fun path last =>
          path.all deliversSent && replaces path.getLast? last)
        (by decide +kernel)
    obtain ⟨delivered, replaced⟩ := Bool.and_eq_true_iff.mp checked
    cases run with
    | start => cases replaced
    | @snoc path before after label earlier taken =>
      rw [List.getLast?_concat] at replaced
      refine ⟨path, before, label, last, earlier, taken, ?_, ?_⟩
      · intro visited member
        exact deliversSent_of_check (List.all_eq_true.mp delivered visited member)
      · exact not_keepsProposed_of_replaces replaced

/-- Service `x` proposes a batch, and both services commit it. -/
def agreeingOnOne : List Moment :=
  [submit .x (entryBatch 1), does .x asks, deliver .x .y 0,
    does .x (nextUpdate 0), does .x (nextUpdate 0), does .y (nextUpdate 0),
    deliver .x .y 1, does .y (nextMessage 0), does .y (nextUpdate 0),
    deliver .y .x 0, does .x (nextMessage 0), deliver .x .y 2,
    does .y (nextMessage 0)]

theorem unambiguous_of_check {system : Side → Participant Audited} {entry : ProposalId × BatchPair}
    (checked :
      ([Side.x, Side.y].all fun side =>
        (system side).service.audit.registered.all (· = entry)) = true) :
    Unambiguous system := by
  have same (side : Side) (other : ProposalId × BatchPair)
      (member : other ∈ (system side).service.audit.registered) :
      other = entry := by
    have listed : side ∈ [Side.x, Side.y] := by
      cases side <;> decide
    have all := List.all_eq_true.mp checked side listed
    exact of_decide_eq_true (List.all_eq_true.mp all other member)
  intro left right id batch other ours theirs
  have equal := (same left _ ours).trans (same right _ theirs).symm
  exact congrArg Prod.snd equal

theorem services_commit_one_batch : ∃ path before label after,
      Run (ServicesStep entryBatches .protobuf (Side.setup acceptingVerifier))
          (fun side => (side.setup acceptingVerifier).start) path before ∧
        ServicesStep entryBatches .protobuf (Side.setup acceptingVerifier) before label after ∧
        Unambiguous after ∧
        (∀ side, (after side).service.audit.committed = [(sharedId, entryBatch 1)]) ∧
        CommitsSame after ∧
        ∀ side, KeepsProposed (before side).service (after side).service label.2 := by
  obtain ⟨path, last, run, checked⟩ := exists_run_of_services acceptingVerifier agreeingOnOne
      (fun path last =>
        path.getLast?.isSome &&
          (([Side.x, Side.y].all fun side =>
            (last side).service.audit.registered.all (· = (sharedId, entryBatch 1))) &&
            [Side.x, Side.y].all fun side =>
              (last side).service.audit.committed = [(sharedId, entryBatch 1)]))
      (by decide +kernel)
  obtain ⟨moved, checks⟩ := Bool.and_eq_true_iff.mp checked
  obtain ⟨registered, committed⟩ := Bool.and_eq_true_iff.mp checks
  have unambiguous := unambiguous_of_check registered
  cases run with
  | start => cases moved
  | @snoc path before after label earlier taken =>
    refine
      ⟨path, before, label, last, earlier, taken, unambiguous, ?_,
        commits_same_of_unambiguous entryBatches .protobuf
          (Side.setup acceptingVerifier) path before last label earlier
          taken unambiguous⟩
    intro side
    have listed : side ∈ [Side.x, Side.y] := by
      cases side <;> decide
    exact of_decide_eq_true (List.all_eq_true.mp committed side listed)

end TwoBatches

end Splinter.ScabbardService
