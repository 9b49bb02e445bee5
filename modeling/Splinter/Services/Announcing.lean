import Splinter.Admin.Ledger
import Splinter.Services.PendingChange

/-!
# Announcing only what has been committed

The admin service answers `accept_proposal` with `Ok` also when `commit` has
failed; the failure goes to the engine as a proposal update.  An audited service
keeps a list of the changes that `commit` has returned `Ok` for, and each step
has its own surroundings.
-/

namespace Splinter.Admin

open Library Service Consensus TwoPhase Services AdminServiceShared

namespace AdminService

variable (formats : Formats)

/-- The change that `accept_proposal` commits, if `commit` returns `Ok`. -/
def committedChange (around : Surroundings) (id : ProposalId)
    (service : AdminService) : Option CircuitProposalContext :=
  match service.pendingConsensusProposal id with
  | some (proposal, _) =>
    if proposal.id = id then
      match (AdminServiceShared.commit formats around).run service.shared with
      | .ok _ _ => service.shared.pendingChanges
      | .error _ _ => none
    else
      none
  | none => none

theorem commit_of_none {around : Surroundings} {shared : AdminServiceShared}
    (empty : shared.pendingChanges = none) :
    (AdminServiceShared.commit formats around).run shared =
      .error .noPendingChanges { shared with pendingChanges := none } := by
  have reading (program : AdminServiceShared → Method Unit) :
      (get >>= program).run shared = (program shared).run shared := rfl
  unfold AdminServiceShared.commit
  rw [reading, empty]
  rfl

variable (around : Surroundings)

/-- The proposal is registered, and the change that is pending can be committed
in the surroundings. -/
def Acceptable (id : ProposalId) (service : AdminService) : Prop :=
  (∃ proposal payload, service.pendingConsensusProposal id = some (proposal, payload) ∧
    proposal.id = id) ∧
    ∃ context, service.shared.pendingChanges = some context ∧
      Committable formats around context service.shared

theorem committedChange_cases (id : ProposalId) (service : AdminService) :
    (∃ context, committedChange formats around id service = some context ∧
      service.shared.pendingChanges = some context ∧ Acceptable formats around id service) ∨
      committedChange formats around id service = none ∧
        ¬ Acceptable formats around id service := by
  unfold committedChange Acceptable
  cases registered : service.pendingConsensusProposal id with
  | none =>
    refine Or.inr ⟨rfl, ?_⟩
    rintro ⟨⟨_, _, impossible, _⟩, _⟩
    cases impossible
  | some pair =>
    dsimp only
    by_cases own : pair.1.id = id
    · rw [if_pos own]
      cases pending : service.shared.pendingChanges with
      | none =>
        rw [commit_of_none formats pending]
        refine Or.inr ⟨rfl, ?_⟩
        rintro ⟨_, _, impossible, _⟩
        cases impossible
      | some context =>
        have ends := commit_returns formats around pending
        unfold Returns Ends at ends
        cases ran : (commit formats around).run service.shared with
        | ok _ after =>
          rw [ran] at ends
          exact Or.inl ⟨context, rfl, rfl, ⟨pair.1, pair.2, rfl, own⟩, context, rfl, ends⟩
        | error _ after =>
          rw [ran] at ends
          refine Or.inr ⟨rfl, fun acceptable => ends ?_⟩
          obtain ⟨_, _, same, committable⟩ := acceptable
          cases same
          exact committable
    · rw [if_neg own]
      refine Or.inr ⟨rfl, fun acceptable => own ?_⟩
      obtain ⟨⟨_, _, same, named⟩, _⟩ := acceptable
      cases same
      exact named

/-! ## Audited services -/

/-- A service with the changes that have been committed for proposals. -/
structure Audited where
  service : AdminService
  committed : List (ProposalId × CircuitProposalContext)

/-- What a call adds to the changes that have been committed. -/
def noted (call : Call) (service : AdminService) : List (ProposalId × CircuitProposalContext) :=
  match call with
  | .acceptProposal id _ => (committedChange formats around id service).toList.map (id, ·)
  | _ => []

def auditedHost : Host Audited Operation where
  channels audited := audited.service.consensus
  withChannels channels audited :=
    { audited with service := { audited.service with consensus := some channels } }
  Answers call before answer after := respond formats around call before.service =
    some (answer, after.service) ∧
    after.committed = before.committed ++ noted formats around call before.service
  Operates operation before after := after =
    ⟨operate formats operation before.service, before.committed⟩

/-- An event with the surroundings in which it happens. -/
abbrev Situated := Surroundings × Event Operation

def Step (before : Participant Audited) (situated : Situated) (after : Participant Audited) :
    Prop :=
  before.Step formats.twoPhase (auditedHost formats situated.1) situated.2 after

def auditedStart (timeout : Nat) (now : TwoPhase.Instant)
    (peers : List PeerId) (nodeId : String) (openProposals : OpenProposals)
    (splinterState : Circuits.SplinterState) : Participant Audited where
  engine := .startup timeout now ⟨asBytes (adminServiceId nodeId)⟩ peers
  service := ⟨(AdminService.new nodeId openProposals splinterState).start, []⟩

def ChangeOf (id : ProposalId) (context : CircuitProposalContext) : Prop :=
  ∃ shared around payload change, PayloadOf formats id payload ∧
    AdminServiceShared.proposedChange formats around shared payload = .ok change ∧
    change.context = context

/-- A change of the proposal has been committed. -/
def Committed (participant : Participant Audited) (id : ProposalId) : Prop :=
  ∃ context, (id, context) ∈ participant.service.committed ∧ ChangeOf formats id context

/-- A received APPLY result ends the evaluation of its proposal. -/
def Leaves (id : ProposalId) (before : Participant Audited) (record : Record)
    (after : Participant Audited) : Prop :=
  (∃ message, record.input = .handleConsensusMsg message ∧
    meaning formats.twoPhase message.message = .result id .apply) ∧
    before.engine.Evaluates id ∧ after.engine.state = .idle

/-- A proposal for which APPLY is announced has been committed, and so has a
proposal for which a received APPLY ends the evaluation. -/
def Truthful (before : Participant Audited) (event : Event Operation)
    (after : Participant Audited) : Prop :=
  ∀ record, event = .engine record → ∀ id,
    (∃ sent, (resultCall formats.twoPhase id .apply, sent) ∈ record.exchanges) ∨
      Leaves formats id before record after →
      Committed formats after id

/-- The engine asks for a proposal to be accepted. -/
def AsksToAccept (event : Event Operation) (id : ProposalId) : Prop :=
  ∃ record answer, event = .engine record ∧ (.acceptProposal id none, answer) ∈ record.exchanges

/-! ## What a step commits -/

/-- The calls of the engine have accepted no proposal, or one. -/
inductive Outcome (around : Surroundings) (fed : Audited) (exchanges : List Exchange)
    (after : Audited) : Prop
  | unasked : (∀ id data answer, (.acceptProposal id data, answer) ∉ exchanges) →
    after.committed = fed.committed →
    Outcome around fed exchanges after
  | accepted (id : ProposalId) : (.acceptProposal id none, .ok ()) ∈ exchanges →
    (∀ other data answer, (.acceptProposal other data, answer) ∈ exchanges → other = id) →
    after.committed = fed.committed ++
      (committedChange formats around id fed.service).toList.map (id, ·) →
    Outcome around fed exchanges after

section Outcomes

variable {formats} {around : Surroundings} {fed after : Audited} {exchanges : List Exchange}

theorem committed_of_unasked
    (answered : Interaction.Answered (auditedHost formats around).Answers fed exchanges after)
    (unasked : ∀ id data answer, (.acceptProposal id data, answer) ∉ exchanges) :
    after.committed = fed.committed := by
  refine answered.guarded (fun audited => audited.committed = fed.committed)
    (fun call => ∀ id data, call ≠ .acceptProposal id data) ?_ ?_ rfl
  · rintro ⟨call, answer⟩ member id data rfl
    exact unasked id data answer member
  · rintro call answer before reached other ⟨_, noting⟩ same
    rw [noting, ← same]
    cases call with
    | acceptProposal id data => exact absurd rfl (other id data)
    | _ => exact List.append_nil _

theorem outcome_of_transition {codecs : TwoPhase.Codecs} {now : TwoPhase.Instant}
    {input : TwoPhaseEngine.Input} {engine reached : TwoPhaseEngine}
    (transition : TwoPhaseEngine.Transition codecs now engine input exchanges reached)
    (answered : Interaction.Answered (auditedHost formats around).Answers fed exchanges after) :
    Outcome formats around fed exchanges after := by
  rcases unasked_or_accepted answered transition with
    unasked | ⟨id, answer, between, accepts, sole, ⟨responded, noting⟩, announced⟩
  · exact .unasked unasked (committed_of_unasked answered unasked)
  · have kept : after.committed = between.committed := by
      rcases announced with rfl | ⟨_, _, sent⟩
      · rfl
      · exact sent.trans (List.append_nil _)
    cases answer with
    | error error =>
      obtain ⟨_, impossible⟩ := failed_of_answer (acceptProposal_ends formats around fed.service id)
        (Option.some.inj responded)
      exact impossible.elim
    | ok _ => exact .accepted id accepts sole (kept.trans noting)

end Outcomes

/-! ## Whose change is committed -/

/-- What every audited participant keeps: a change that is pending while a
proposal is evaluated, and every change that has been committed, is the change
of its proposal. -/
structure Clean (participant : Participant Audited) : Prop where
  kept : participant.engine.WellKept
  sound : participant.service.service.Sound formats
  own : ∀ proposal, participant.engine.state = .evaluatingProposal proposal → ∀ context,
    participant.service.service.shared.pendingChanges = some context →
      ChangeOf formats proposal.proposalId context
  noted : ∀ entry ∈ participant.service.committed, ChangeOf formats entry.1 entry.2

section Cleanliness

variable {formats} {id : ProposalId} {exchanges : List Exchange}

theorem Prepared.changeOf {service : AdminService} {context : CircuitProposalContext}
    (prepared : service.Prepared formats id)
    (pending : service.shared.pendingChanges = some context) :
    ChangeOf formats id context := by
  obtain ⟨_, around, payload, change, own, computed, kept⟩ := prepared
  exact
    ⟨service.shared, around, payload, change, own, computed,
      Option.some.inj (kept.symm.trans pending)⟩

theorem pending_of_continued {codecs : TwoPhase.Codecs} {input : TwoPhaseEngine.Input}
    {before after : AdminService} (continued : Continued codecs input id exchanges)
    (answered : Interaction.Answered (host formats).Answers before exchanges after) :
    after.shared.pendingChanges = before.shared.pendingChanges ∨
      after.shared.pendingChanges = none := by
  refine Continued.keeps answered
    (fun service =>
      service.shared.pendingChanges = before.shared.pendingChanges ∨
        service.shared.pendingChanges = none)
    continued (Or.inl rfl) ?_ ?_ ?_ ?_
  · rintro call answer after network ⟨around, responded⟩
    exact Or.inl (congrArg (fun kept => kept.shared.pendingChanges)
      (unmailed_of_network network responded))
  · rintro error after ⟨around, responded⟩
    obtain ⟨_, impossible⟩ := failed_of_answer (acceptProposal_ends formats around before id)
      (Option.some.inj responded)
    exact impossible.elim
  · rintro other error after ⟨around, responded⟩
    obtain ⟨_, _, same⟩ := failed_of_answer (rejectProposal_ends before other)
      (Option.some.inj responded)
    rw [same]
    exact Or.inl rfl
  · rintro other after _ ⟨around, responded⟩
    exact Or.inr
      (returned_of_answer (rejectProposal_ends before other) (Option.some.inj responded)).2

theorem pending_of_operate (operation : Operation) (service : AdminService) :
    (operate formats operation service).shared.pendingChanges = service.shared.pendingChanges := by
  have kept := congrArg pendingChanges (kept_operate formats operation service)
  exact kept

variable {before after : Participant Audited} {situated : Situated}

theorem answered_of_audited {around : Surroundings} {fed reached : Audited}
    (answered : Interaction.Answered (auditedHost formats around).Answers fed exchanges reached) :
    Interaction.Answered (host formats).Answers fed.service exchanges reached.service :=
  answered.project Audited.service fun _ _ _ _ responded => ⟨around, responded.1⟩

section EngineSteps

variable {now : TwoPhase.Instant} {input : TwoPhaseEngine.Input}
  {exchanges : List Exchange} {engine : TwoPhaseEngine} {channels : Channels}
  {around : Surroundings} {reached : Audited} (clean : Clean formats before)
  (transition : TwoPhaseEngine.Transition formats.twoPhase now before.engine input exchanges engine)
  (answered : Interaction.Answered (auditedHost formats around).Answers
    ((auditedHost formats around).withChannels channels before.service) exchanges reached)

include clean transition answered

theorem Clean.own_of_transition {proposal : TwoPhaseProposal}
    (evaluating : engine.state = .evaluatingProposal proposal) {context : CircuitProposalContext}
    (pending : reached.service.shared.pendingChanges = some context) :
    ChangeOf formats proposal.proposalId context := by
  have plain := answered_of_audited answered
  rcases checked_or_continued plain clean.kept transition evaluating with
    ⟨around, responded⟩ | ⟨⟨current, evaluates, sameId⟩, continued⟩
  · have sound : Sound formats
        ((auditedHost formats around).withChannels channels before.service).service :=
      clean.sound
    have prepared := returned_of_answer sound.checkProposal_prepares (Option.some.inj responded)
    exact prepared.changeOf pending
  · rcases pending_of_continued continued plain with same | lost
    · rw [← sameId]
      exact clean.own current evaluates context (same.symm.trans pending)
    · rw [lost] at pending
      cases pending

theorem Clean.noted_of_transition :
    ∀ entry ∈ reached.committed, ChangeOf formats entry.1 entry.2 := by
  intro entry member
  cases outcome_of_transition transition answered with
  | unasked _ same =>
    rw [same] at member
    exact clean.noted entry member
  | accepted id accepts _ committed =>
    rw [committed, List.mem_append] at member
    rcases member with earlier | now
    · exact clean.noted entry earlier
    · obtain ⟨context, chosen, rfl⟩ := List.mem_map.mp now
      obtain ⟨current, evaluating, rfl⟩ := evaluates_of_accept transition accepts
      rcases committedChange_cases formats around current.proposalId _ with
        ⟨_, same, pending, _⟩ | ⟨uncommitted, _⟩
      · rw [same] at chosen
        cases List.mem_singleton.mp chosen
        exact clean.own current evaluating context pending
      · rw [uncommitted] at chosen
        cases chosen

end EngineSteps

theorem Clean.step (clean : Clean formats before)
    (step : Step formats before situated after) : Clean formats after := by
  obtain ⟨around, event⟩ := situated
  cases event with
  | operation operation =>
    obtain ⟨sameEngine, operated⟩ := step
    obtain ⟨engine, service⟩ := after
    obtain rfl : engine = before.engine := sameEngine
    obtain rfl := operated
    refine ⟨clean.kept, clean.sound.operate operation, ?_, clean.noted⟩
    intro proposal evaluating context pending
    rw [pending_of_operate] at pending
    exact clean.own proposal evaluating context pending
  | engine record =>
    obtain ⟨⟨returned, trace⟩, channels, remaining, _, _, answered⟩ := step
    have transition := TwoPhaseEngine.transition_of_trace trace
    refine
      ⟨clean.kept.transition transition, ?_, fun _ evaluating _ pending =>
        clean.own_of_transition transition answered evaluating pending,
        clean.noted_of_transition transition answered⟩
    exact (answered_of_audited answered).invariant
      (fun _ _ _ _ ⟨_, responded⟩ sound => sound.respond responded)
      clean.sound

theorem clean_of_run {timeout : Nat} {now : TwoPhase.Instant} {peers : List PeerId}
    {nodeId : String} {openProposals : OpenProposals} {splinterState : Circuits.SplinterState}
    {path : List (Participant Audited × Situated)}
    (run : Run (Step formats)
      (auditedStart timeout now peers nodeId openProposals splinterState) path before) :
    Clean formats before := by
  refine run.invariant ?_ fun _ _ _ clean step => clean.step step
  refine ⟨Node.wellKept_boot _ _ _ _, ?_, ?_, ?_⟩
  · intro id proposal payload found
    cases found
  · intro proposal evaluating
    cases evaluating
  · exact List.forall_mem_nil _

theorem told_iff_accepts {record : Record}
    (transition : TwoPhaseEngine.Transition formats.twoPhase record.now before.engine
      record.input record.exchanges after.engine) :
    (∃ sent, (resultCall formats.twoPhase id .apply, sent) ∈ record.exchanges) ∨
      Leaves formats id before record after ↔
      (.acceptProposal id none, .ok ()) ∈ record.exchanges := by
  obtain ⟨now, input, exchanges⟩ := record
  constructor
  · rintro (⟨sent, announced⟩ | ⟨⟨message, rfl, applies⟩, evaluates, idle⟩)
    · exact accepts_of_announced transition announced
    · obtain ⟨answer, shape, _⟩ := transition.of_apply applies evaluates
      subst shape
      cases answer with
      | ok _ => exact List.mem_singleton.mpr rfl
      | error error =>
        obtain ⟨_, evaluating, _⟩ := evaluates_of_acceptFailed transition
          (List.mem_singleton.mpr rfl) evaluates
        rw [idle] at evaluating
        cases evaluating
  · intro accepts
    cases TwoPhaseEngine.accepting_of_transition transition accepts with
    | announced => exact Or.inl ⟨_, List.mem_cons_of_mem _ (List.mem_singleton.mpr rfl)⟩
    | told shape told idle =>
      exact Or.inr ⟨⟨_, shape, told⟩, evaluates_of_accept transition accepts, idle⟩
    | failed => simp at accepts

end Cleanliness

/-- In every step of every run, an APPLY result is borne out by what has been
committed exactly if each proposal that is accepted is acceptable in the
surroundings of the step or has been committed before. -/
theorem truthful_iff_acceptable {timeout : Nat} {now : TwoPhase.Instant} {peers : List PeerId}
    {nodeId : String} {openProposals : OpenProposals} {splinterState : Circuits.SplinterState}
    {path : List (Participant Audited × Situated)} {around : Surroundings}
    {before after : Participant Audited} {event : Event Operation}
    (run : Run (Step formats)
      (auditedStart timeout now peers nodeId openProposals splinterState) path before)
    (step : Step formats before (around, event) after) :
    Truthful formats before event after ↔ ∀ id, AsksToAccept event id →
      Acceptable formats around id before.service.service ∨ Committed formats before id := by
  have clean := clean_of_run run
  have cleanAfter := clean.step step
  cases event with
  | operation operation =>
    constructor
    · rintro _ id ⟨_, _, impossible, _⟩
      cases impossible
    · intro _ record impossible
      cases impossible
  | engine record =>
    change before.Step formats.twoPhase (auditedHost formats around) _ after at step
    obtain ⟨⟨returned, trace⟩, channels, remaining, _, _, answered⟩ := step
    have transition := TwoPhaseEngine.transition_of_trace trace
    have outcome := outcome_of_transition transition answered
    have cases := committedChange_cases formats around
    constructor
    · rintro truthful id ⟨_, _, same, asked⟩
      cases same
      cases outcome with
      | unasked unasked _ => exact (unasked _ _ _ asked).elim
      | accepted accepted accepts sole committed =>
        obtain rfl := sole _ _ _ asked
        obtain ⟨context, member, own⟩ :=
          truthful _ rfl id ((told_iff_accepts transition).mpr accepts)
        rw [committed, List.mem_append] at member
        rcases member with earlier | now
        · exact Or.inr ⟨context, earlier, own⟩
        · rcases cases id
              ((auditedHost formats around).withChannels remaining before.service).service with
            ⟨_, _, _, acceptable⟩ | ⟨uncommitted, _⟩
          · exact Or.inl acceptable
          · rw [uncommitted] at now
            cases now
    · intro acceptable _ same id told
      cases same
      have accepts := (told_iff_accepts transition).mp told
      cases outcome with
      | unasked unasked _ => exact (unasked _ _ _ accepts).elim
      | accepted accepted _ sole committed =>
        obtain rfl := sole _ _ _ accepts
        rcases acceptable id ⟨_, _, rfl, accepts⟩ with now | ⟨context, earlier, own⟩
        · rcases cases id
              ((auditedHost formats around).withChannels remaining before.service).service with
            ⟨context, chosen, _⟩ | ⟨_, refused⟩
          · have member : (id, context) ∈ after.service.committed := by
              rw [committed, chosen]
              exact List.mem_append_right _ (List.mem_singleton.mpr rfl)
            exact ⟨context, member, cleanAfter.noted _ member⟩
          · exact (refused now).elim
        · refine ⟨context, ?_, own⟩
          rw [committed]
          exact List.mem_append_left _ earlier

/-! ## A coordinator and a participant whose commits fail -/

section Failing

open Protos (CircuitManagementPayload)

def audited (around : Surroundings) : Responder (auditedHost .standard around) where
  respond call audited :=
    match respond .standard around call audited.service with
    | none => none
    | some (answer, after) =>
      some (answer, ⟨after, audited.committed ++ noted .standard around call audited.service⟩)
  operate operation audited := ⟨operate .standard operation audited.service, audited.committed⟩
  answers responded := by
    split at responded
    · cases responded
    · rename_i answered
      cases responded
      exact ⟨answered, rfl⟩
  operates _ _ := rfl

/-- The stored proposal of node `b` for a circuit with node `a`. -/
def opened : OpenProposals :=
  let request := createPayload (simpleCircuit "c" ["a", "b"]) (asBytes "b") "b" [1]
  let commits := proposeAndCommit .working request
  (SharedCall.performAll .standard commits (emptyNode "b")).2.openProposals

/-- The vote with which node `a` completes the votes on the circuit. -/
def lastVote : CircuitManagementPayload := voteOf ["a", "b"] "a" .accept

/-- The MEMBER_READY message of a node cannot be sent, while others can. -/
def losesReady (nodeId : String) : Surroundings :=
  { Surroundings.working with
    send := fun _ message =>
      if message = Protos.Codecs.protobuf.adminMessage.write (memberReadyMessage "c" nodeId) then
        .error ⟨"down"⟩
      else
        .ok () }

/-- Node `a` coordinates the verification of its vote. -/
def coordinating : List (Stimulus Operation) :=
  [.operation (.submitCircuitChange .working lastVote),
    .engine 0 fun _ => some .getNextProposal, nextUpdate 0, nextUpdate 0,
    told "b" (envelope "b" (verificationResponse (proposalIdOf lastVote) .verified))]

/-- Node `b` verifies the vote and is told to apply it. -/
def participating : List (Stimulus Operation) :=
  [told "a" (announcement opened "a" lastVote), nextUpdate 0,
    told "a" (envelope "a" (verificationRequest (proposalIdOf lastVote))),
    nextMessage 0, nextUpdate 0,
    told "a" (envelope "a" (resultMessage (proposalIdOf lastVote) .apply))]

def startAt (nodeId : String) : Participant Audited :=
  auditedStart 30 0 [] nodeId opened (.new .new)

variable {around : Surroundings} {first last : Participant Audited}

theorem exists_situated_step {stimuli : List (Stimulus Operation)} {stimulus : Stimulus Operation}
    {check : Participant Audited → Event Operation → Participant Audited → Bool}
    (reached : first.reaches .protobuf (audited around) stimuli stimulus check = true) :
    ∃ path before event after, Run (Step .standard) first path before ∧
      Step .standard before (around, event) after ∧ check before event after = true := by
  obtain ⟨path, before, event, after, run, step, checked⟩ := Participant.exists_step _ _ reached
  exact ⟨_, before, event, after, run.relabel (around, ·) fun _ _ _ taken => taken, step, checked⟩

def Announced (event : Event Operation) : Prop := ∃ record sent, event = .engine record ∧
    (resultCall .protobuf (proposalIdOf lastVote) .apply, sent) ∈ record.exchanges

def announces : Event Operation → Bool
  | .engine record =>
    record.exchanges.any fun exchange =>
      exchange.1 = resultCall .protobuf (proposalIdOf lastVote) .apply
  | .operation _ => false

variable {event : Event Operation}

theorem announced_of_announces (checked : announces event = true) : Announced event := by
  cases event with
  | operation operation => cases checked
  | engine record =>
    obtain ⟨⟨call, sent⟩, member, same⟩ := List.any_eq_true.mp checked
    obtain rfl := of_decide_eq_true same
    exact ⟨record, sent, rfl, member⟩

/-- A received APPLY result ends the evaluation of the vote. -/
def Left (before : Participant Audited) (event : Event Operation)
    (after : Participant Audited) : Prop :=
  ∃ record, event = .engine record ∧ Leaves .standard (proposalIdOf lastVote) before record after

def leaves (before : Participant Audited) (event : Event Operation)
    (after : Participant Audited) : Bool :=
  match event with
  | .operation _ => false
  | .engine record =>
    match record.input with
    | .handleConsensusMsg message =>
      meaning .protobuf message.message = .result (proposalIdOf lastVote) .apply &&
        before.engine.evaluatingProposal (proposalIdOf lastVote) && after.engine.state = .idle
    | _ => false

theorem left_of_leaves {before after : Participant Audited}
    (checked : leaves before event after = true) :
    Left before event after := by
  unfold leaves at checked
  split at checked
  · cases checked
  · rename_i record
    split at checked
    · rename_i message input
      simp only [Bool.and_eq_true, decide_eq_true_eq,
        TwoPhaseEngine.evaluatingProposal_eq_true_iff] at checked
      obtain ⟨⟨received, evaluates⟩, idle⟩ := checked
      exact ⟨record, rfl, ⟨message, input, received⟩, evaluates, idle⟩
    · cases checked

/-- The coordinator announces APPLY, and a participant ends the evaluation,
although nothing has been committed at either node. -/
theorem apply_without_commit :
    (∃ path before event after, Run (Step .standard) (startAt "a") path before ∧
      Step .standard before (losesReady "a", event) after ∧
      Announced event ∧ after.service.committed = []) ∧
      ∃ path before event after, Run (Step .standard) (startAt "b") path before ∧
        Step .standard before (losesReady "b", event) after ∧
        Left before event after ∧ after.service.committed = [] := by
  have announcing : (startAt "a").reaches .protobuf (audited (losesReady "a")) coordinating
        (nextMessage 0) (fun _ event after =>
          announces event && after.service.committed.isEmpty) = true := by
    decide +kernel
  have leaving : (startAt "b").reaches .protobuf (audited (losesReady "b")) participating
        (nextMessage 0) (fun before event after =>
          leaves before event after && after.service.committed.isEmpty) = true := by
    decide +kernel
  constructor
  · obtain ⟨path, before, event, after, run, step, checked⟩ := exists_situated_step announcing
    obtain ⟨announced, empty⟩ := Bool.and_eq_true_iff.mp checked
    exact
      ⟨path, before, event, after, run, step, announced_of_announces announced,
        List.isEmpty_iff.mp empty⟩
  · obtain ⟨path, before, event, after, run, step, checked⟩ := exists_situated_step leaving
    obtain ⟨left, empty⟩ := Bool.and_eq_true_iff.mp checked
    exact ⟨path, before, event, after, run, step, left_of_leaves left, List.isEmpty_iff.mp empty⟩

/-- Every proposal that the engine asks for has been found acceptable. -/
def accepting (before : Participant Audited) : Event Operation → Bool
  | .operation _ => true
  | .engine record => record.exchanges.all fun exchange =>
    match exchange.1 with
    | .acceptProposal id _ => (committedChange .standard .working id before.service.service).isSome
    | _ => true

/-- If all messages can be sent, the coordinator has committed what it
announces. -/
theorem apply_after_commit : ∃ path before event after,
    Run (Step .standard) (startAt "a") path before ∧
      Step .standard before (.working, event) after ∧
      Announced event ∧ Committed .standard after (proposalIdOf lastVote) := by
  have announcing : (startAt "a").reaches .protobuf (audited .working) coordinating
        (nextMessage 0) (fun before event _ => announces event && accepting before event) =
          true := by
    decide +kernel
  obtain ⟨path, before, event, after, run, step, checked⟩ := exists_situated_step announcing
  obtain ⟨announced, acceptable⟩ := Bool.and_eq_true_iff.mp checked
  obtain ⟨record, sent, rfl, member⟩ := announced_of_announces announced
  refine ⟨path, before, _, after, run, step, ⟨record, sent, rfl, member⟩, ?_⟩
  refine (truthful_iff_acceptable .standard run step).mpr ?_ record rfl _ (Or.inl ⟨sent, member⟩)
  rintro id ⟨_, _, same, accepts⟩
  cases same
  rcases committedChange_cases .standard .working id before.service.service with
    ⟨_, _, _, found⟩ | ⟨uncommitted, _⟩
  · exact Or.inl found
  · have found := List.all_eq_true.mp acceptable _ accepts
    simp only [uncommitted] at found
    cases found

end Failing

end AdminService

end Splinter.Admin
