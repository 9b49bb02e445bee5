import Splinter.Service.Channels
import Splinter.TwoPhase.History

/-!
# An engine inside a service

A service feeds its engine through two channels, answers its calls, and is changed
by other operations in between.  `Slotted` is for services that keep the change of
at most one proposal at a time.
-/

namespace Splinter.Services

open Library
open Service (Channels)
open Consensus TwoPhase TwoPhaseEngine Interaction

variable {Service Operation : Type}

/-- The channels of a service to its engine, how the service answers the
engine, and what else happens to the service. -/
structure Host (Service Operation : Type) where
  channels : Service → Option Channels
  withChannels : Channels → Service → Service
  Answers : Call → Service → Answer → Service → Prop
  Operates : Operation → Service → Service → Prop

structure Participant (Service : Type) where
  engine : TwoPhaseEngine
  service : Service

/-- A handler call of the engine, or an operation on the service. -/
inductive Event (Operation : Type) where
  | engine (record : Record)
  | operation (operation : Operation)

/-- One event; the service answers the calls the engine makes. -/
def Participant.Step (codecs : TwoPhase.Codecs) (host : Host Service Operation)
    (before : Participant Service) (event : Event Operation) (after : Participant Service) : Prop :=
  match event with
  | .engine record =>
    (∃ returned, Interaction.Trace (handle codecs record.now record.input before.engine)
      record.exchanges (returned, after.engine)) ∧
      ∃ channels remaining, host.channels before.service = some channels ∧
        channels.receive record.input = some remaining ∧
        Interaction.Answered host.Answers
          (host.withChannels remaining before.service) record.exchanges
          after.service
  | .operation operation =>
    after.engine = before.engine ∧ host.Operates operation before.service after.service

/-- One event, with the surroundings in which the service answers. -/
def Participant.SituatedStep {Around : Type} (codecs : TwoPhase.Codecs)
    (hosts : Around → Host Service Operation) (before : Participant Service)
    (situated : Around × Event Operation) (after : Participant Service) : Prop :=
  before.Step codecs (hosts situated.1) situated.2 after

/-! ## The calls of an engine that goes on evaluating -/

/-- The calls made when a proposal was and stays under evaluation. -/
inductive Continued (codecs : TwoPhase.Codecs) (input : Input)
    (id : ProposalId) : List Exchange → Prop
  | silent : Continued codecs input id []
  | sent {call : Call} {answer : Answer} : isNetworkCall call = true →
    Continued codecs input id [(call, answer)]
  | acceptFailed {error : ConsensusEngineError} :
    Continued codecs input id [(.acceptProposal id none, .error error)]
  | rejectFailed {other : ProposalId} {error : ConsensusEngineError} :
    Continued codecs input id [(.rejectProposal other, .error error)]
  | rejectedOther {message : ConsensusMessage} {other : ProposalId} :
    input = .handleConsensusMsg message →
    meaning codecs message.message = .result other .reject →
    other ≠ id →
    Continued codecs input id [(.rejectProposal other, .ok ())]

variable {codecs : TwoPhase.Codecs} {now : Instant}
  {engine after : TwoPhaseEngine} {input : Input} {exchanges : List Exchange}
  {id decided : ProposalId} {result : ProposalResult} {proposal : TwoPhaseProposal}
  {data : Option Bytes} {answer : Answer}

theorem continued_of_completion {current : TwoPhaseProposal}
    (completion : Completion codecs engine id result exchanges after)
    (evaluates : engine.state = .evaluatingProposal current) (sameId : current.proposalId = id)
    (evaluating : after.state = .evaluatingProposal proposal) :
    Continued codecs input proposal.proposalId exchanges := by
  have before := completion.state_cases evaluating
  have same := evaluates.symm.trans before
  injection same with equal
  subst equal
  subst sameId
  cases completion with
  | announced _ => simp [settle] at evaluating
  | refused decided =>
    cases result with
    | apply =>
      injection decided with call
      subst call
      exact Continued.acceptFailed
    | reject =>
      injection decided with call
      subst call
      exact Continued.rejectFailed
    | unsetResult => cases decided

/-- The calls of an engine that evaluates the proposal: it prepares no other
and accepts no other. -/
def Evaluating (id : ProposalId) : Call → Prop
  | .createProposal _ _ | .checkProposal _ => False
  | .acceptProposal other _ => other = id
  | _ => True

theorem evaluating_of_completion (completion : Completion codecs engine id result exchanges after) :
    ∀ exchange ∈ exchanges, Evaluating id exchange.1 := by
  cases completion with
  | refused decided | announced decided => cases result <;> cases decided <;> simp [Evaluating]

theorem evaluating_of_transition (kept : engine.WellKept)
    (transition : Transition codecs now engine input exchanges after)
    (evaluates : engine.Evaluates id) :
    ∀ exchange ∈ exchanges, Evaluating id exchange.1 := by
  obtain ⟨current, evaluating, rfl⟩ := evaluates
  cases transition with
  | timedOut same _ completion | voteCompleted _ same _ completion
  | voteFailed _ same completion | invalidRejected same _ completion =>
    injection same.symm.trans evaluating with equal
    subst equal
    exact evaluating_of_completion completion
  | applied _ same | applyFailed _ same =>
    injection same.symm.trans evaluating with equal
    subst equal
    simp [Evaluating]
  | drained idle _ _ | drainFailed idle _ _ | coordinated idle _ _
  | creationRequested idle _ | creationFailed idle _ =>
    rw [idle] at evaluating
    cases evaluating
  | requested _ same found | requestFailed _ same found =>
    have member := mem_backloggedIds_of_find? found
    rw [proposalId_of_find? found, ← same _ evaluating] at member
    exact (kept.separate _ ⟨_, evaluating, rfl⟩ member).elim
  | proposalCoordinated _ _ _ _ _ free _ _ => exact (free _ evaluating).elim
  | _ => simp [Evaluating]

/-- An engine that evaluates a proposal has just checked it successfully, or
has evaluated it before and made few calls. -/
theorem continued_of_transition (kept : engine.WellKept)
    (transition : Transition codecs now engine input exchanges after)
    (evaluating : after.state = .evaluatingProposal proposal) :
    exchanges = [(.checkProposal proposal.proposalId, .ok ())] ∨
      engine.Evaluates proposal.proposalId ∧
        Continued codecs input proposal.proposalId exchanges := by
  rcases transition.evaluates_cases ⟨_, evaluating, rfl⟩ with evaluates | checked
  · refine Or.inr ⟨evaluates, ?_⟩
    have calls := evaluating_of_transition kept transition evaluates
    cases transition with
    | ignored _ | requestBacklogged _ _ | proposalBacklogged _ _ _ _ _ _
    | voteCounted _ _ _ => exact .silent
    | verificationRequested _ _ | verifiedSent _ _ | failedSent _ _ => exact .sent rfl
    | timedOut current _ completion | voteFailed _ current completion
    | invalidRejected current _ completion =>
      exact continued_of_completion completion current rfl evaluating
    | voteCompleted _ _ _ completion => exact continued_of_completion completion rfl rfl evaluating
    | applyFailed _ current =>
      injection current.symm.trans evaluating with equal
      subst equal
      exact .acceptFailed
    | @rejectedOther message other received foreign =>
      refine .rejectedOther rfl received fun same => ?_
      rw [(evaluatingProposal_eq_true_iff _ _).mpr ⟨_, evaluating, same.symm⟩] at foreign
      cases foreign
    | rejectFailed _ | emptyRejectFailed _ _ _ => exact .rejectFailed
    | coordinated _ _ coordination | proposalCoordinated _ _ _ _ _ _ _ coordination =>
      cases coordination <;> simp [Evaluating] at calls
    | applied _ _ | rejected _ _ | nothingCreated _ | emptyRejected _ _ _ => cases evaluating
    | _ => simp [Evaluating] at calls
  · exact Or.inl checked

variable {other : ProposalId} {error : ConsensusEngineError} {sent : Answer}

theorem rejects_of_other_result {message : ConsensusMessage}
    (transition : Transition codecs now engine (.handleConsensusMsg message) exchanges after)
    (received : meaning codecs message.message = .result other .reject)
    (evaluating : engine.state = .evaluatingProposal proposal)
    (different : other ≠ proposal.proposalId) :
    after = engine ∧ ∃ answer, exchanges = [(.rejectProposal other, answer)] := by
  cases transition with
  | ignored ignores =>
    simp only [Ignores, received] at ignores
  | rejectedOther told _ | rejectFailed told =>
    injection received.symm.trans told with same
    exact ⟨rfl, _, by rw [same]⟩
  | rejected told current =>
    injection received.symm.trans told with same
    injection current.symm.trans evaluating with equal
    rw [same, equal] at different
    exact (different rfl).elim
  | requestBacklogged told _ | requested told _ _ | requestFailed told _ _
  | voteCounted told _ _ | voteCompleted told _ _ _ | voteFailed told _ _
  | applied told _ | applyFailed told _ => cases received.symm.trans told

theorem eq_of_completion_acceptFailed
    (completion : Completion codecs engine decided result exchanges after)
    (failed : (.acceptProposal id none, .error error) ∈ exchanges) :
    after = engine := by
  cases completion with
  | refused _ => rfl
  | announced _ => simp at failed

variable (transition : Transition codecs now engine input exchanges after)
include transition

theorem evaluates_of_acceptFailed (failed : (.acceptProposal id none, .error error) ∈ exchanges)
    (evaluates : engine.Evaluates id) :
    after.Evaluates id := by
  obtain ⟨current, evaluating, sameId⟩ := evaluates
  cases transition with
  | timedOut _ _ completion | voteFailed _ _ completion
  | invalidRejected _ _ completion =>
    have unchanged := eq_of_completion_acceptFailed completion failed
    exact ⟨current, by rw [unchanged]; exact evaluating, sameId⟩
  | voteCompleted _ counting _ completion =>
    have unchanged := eq_of_completion_acceptFailed completion failed
    injection counting.symm.trans evaluating with equal
    subst equal
    exact ⟨_, congrArg TwoPhaseEngine.state unchanged, sameId⟩
  | coordinated idle _ _ =>
    rw [idle] at evaluating
    cases evaluating
  | proposalCoordinated _ _ _ _ _ free _ _ => exact (free _ evaluating).elim
  | applyFailed _ _ => exact ⟨current, evaluating, sameId⟩
  | _ => simp at failed

theorem evaluates_of_accept (accepts : (.acceptProposal id data, answer) ∈ exchanges) :
    engine.Evaluates id := by
  have noData := transition.acceptProposal_data accepts
  subst noData
  have decided := transition.of_decision (acceptCall id) accepts
  cases decided with
  | own proposal sameId decides _ =>
    cases decides with
    | verified evaluating _ _ => exact ⟨proposal, evaluating, sameId⟩
  | told _ _ _ evaluates => exact evaluates rfl
  | unverifiable _ impossible => cases impossible

omit transition in
theorem accepts_of_completion (completion : Completion codecs engine decided result exchanges after)
    (announced : (resultCall codecs id .apply, sent) ∈ exchanges) :
    (.acceptProposal id none, .ok ()) ∈ exchanges := by
  cases completion with
  | refused decision =>
    have same := (Prod.mk.inj (List.mem_singleton.mp announced)).1
    rw [← same] at decision
    cases result <;> cases decision
  | announced decision =>
    rcases List.mem_cons.mp announced with same | later
    · rw [← (Prod.mk.inj same).1] at decision
      cases result <;> cases decision
    · have same := (Prod.mk.inj (List.mem_singleton.mp later)).1
      obtain ⟨rfl, rfl⟩ := (resultCall_inj _ _ _ _ _).mp same
      cases decision
      exact List.mem_cons_self ..

theorem accepts_of_announced (announced : (resultCall codecs id .apply, sent) ∈ exchanges) :
    (.acceptProposal id none, .ok ()) ∈ exchanges := by
  cases transition with
  | timedOut _ _ completion | voteCompleted _ _ _ completion
  | voteFailed _ _ completion | invalidRejected _ _ completion =>
    exact accepts_of_completion completion announced
  | coordinated _ _ coordination
  | proposalCoordinated _ _ _ _ _ _ _ coordination =>
    cases coordination with
    | started => simp [resultCall] at announced
    | rejected completion =>
      rcases List.mem_cons.mp announced with impossible | later
      · simp [resultCall] at impossible
      · exact List.mem_cons_of_mem _ (accepts_of_completion completion later)
  | verificationRequested _ _ =>
    have same := (Prod.mk.inj (List.mem_singleton.mp announced)).1
    exact (requestCall_ne_resultCall _ _ _ _ same.symm).elim
  | _ => simp [resultCall] at announced

omit transition

/-! ## What the calls of an engine do to a service -/

section Answers

variable {host : Host Service Operation} {before reached : Service}
  (answered : Interaction.Answered host.Answers before exchanges reached)

include answered

theorem Continued.keeps {id : ProposalId} (holds : Service → Prop)
    (continued : Continued codecs input id exchanges) (initially : holds before)
    (sent : ∀ call answer after, isNetworkCall call = true →
      host.Answers call before answer after → holds after)
    (acceptFailed : ∀ error after,
      host.Answers (.acceptProposal id none) before (.error error) after → holds after)
    (rejectFailed : ∀ other error after,
      host.Answers (.rejectProposal other) before (.error error) after → holds after)
    (rejectedOther : ∀ other after, other ≠ id →
      host.Answers (.rejectProposal other) before (.ok ()) after → holds after) :
    holds reached := by
  cases continued with
  | silent =>
    rw [answered_nil_iff] at answered
    rw [answered]
    exact initially
  | sent network =>
    rw [answered_singleton_iff] at answered
    exact sent _ _ _ network answered
  | acceptFailed =>
    rw [answered_singleton_iff] at answered
    exact acceptFailed _ _ answered
  | rejectFailed =>
    rw [answered_singleton_iff] at answered
    exact rejectFailed _ _ _ answered
  | rejectedOther _ _ different =>
    rw [answered_singleton_iff] at answered
    exact rejectedOther _ _ different answered

theorem checked_or_continued {proposal : TwoPhaseProposal} (kept : engine.WellKept)
    (transition : Transition codecs now engine input exchanges after)
    (evaluating : after.state = .evaluatingProposal proposal) :
    host.Answers (.checkProposal proposal.proposalId) before (.ok ()) reached ∨
      engine.Evaluates proposal.proposalId ∧
        Continued codecs input proposal.proposalId exchanges := by
  rcases continued_of_transition kept transition evaluating with
    checked | continued
  · rw [checked, answered_singleton_iff] at answered
    exact Or.inl answered
  · exact Or.inr continued

/-- Nothing is accepted in a step, or the manager has been told to accept the
proposal under evaluation, and the result may have been announced. -/
theorem unasked_or_accepted (transition : Transition codecs now engine input exchanges after) :
    (∀ id data answer, (.acceptProposal id data, answer) ∉ exchanges) ∨ ∃ id answer between,
      (.acceptProposal id none, answer) ∈ exchanges ∧
        (∀ other data answer, (.acceptProposal other data, answer) ∈ exchanges → other = id) ∧
        host.Answers (.acceptProposal id none) before answer between ∧
        (reached = between ∨ ∃ sent, host.Answers (resultCall codecs id .apply) between sent
          reached) := by
  by_cases asked : ∃ id data answer, (.acceptProposal id data, answer) ∈ exchanges
  · obtain ⟨id, data, answer, member⟩ := asked
    have accepting := accepting_of_transition transition member
    have sole : ∀ other data answer,
        (.acceptProposal other data, answer) ∈ exchanges → other = id :=
      fun _ _ _ other => (accepting.sole other).1
    right
    cases accepting with
    | announced =>
      rw [answered_cons_iff] at answered
      obtain ⟨between, responded, rest⟩ := answered
      rw [answered_singleton_iff] at rest
      exact ⟨id, _, between, List.mem_cons_self .., sole, responded, Or.inr ⟨_, rest⟩⟩
    | told _ _ _ | failed =>
      rw [answered_singleton_iff] at answered
      exact ⟨id, _, reached, List.mem_singleton.mpr rfl, sole, answered, Or.inl rfl⟩
  · simp only [not_exists] at asked
    exact Or.inl asked

end Answers

/-! ## Services with a single slot -/

/-- A service that keeps the change of one proposal: `Prepared service id`
says that the change it keeps is the change of the proposal `id`.  It knows the
`Registered` proposals, and the storage around it `Commits` its change.  An
operation keeps the change if it is `Harmless`.  `Sound` is an invariant of the
service. -/
structure Slotted {Around : Type} (hosts : Around → Host Service Operation) where
  Sound : Service → Prop
  Prepared : Service → ProposalId → Prop
  Registered : Service → ProposalId → Prop
  Commits : Around → Service → Prop
  Harmless : Operation → Service → ProposalId → Prop
  fed : ∀ {around channels service after},
    (hosts around).withChannels channels service = after →
      Sound after = Sound service ∧ Prepared after = Prepared service ∧
        Registered after = Registered service ∧ Commits around after = Commits around service
  sound_answered : ∀ {around call answer before after},
    (hosts around).Answers call before answer after → Sound before → Sound after
  sound_operated : ∀ {around operation before after},
    (hosts around).Operates operation before after → Sound before → Sound after
  checked : ∀ {around id before after}, Sound before →
    (hosts around).Answers (.checkProposal id) before (.ok ()) after → Prepared after id
  rejected : ∀ {around id before after},
    (hosts around).Answers (.rejectProposal id) before (.ok ()) after →
      Registered before id ∧ ∀ other, ¬ Prepared after other
  rejectFailed : ∀ {around id error before after},
    (hosts around).Answers (.rejectProposal id) before (.error error) after →
      ¬ Registered before id ∧ ∀ other, Prepared before other → Prepared after other
  accepted : ∀ {around id before after}, Prepared before id →
    (hosts around).Answers (.acceptProposal id none) before (.ok ()) after → Commits around before
  acceptFailed : ∀ {around id error before after}, Prepared before id →
    (hosts around).Answers (.acceptProposal id none) before (.error error) after →
      ¬ Commits around before ∧ ¬ Prepared after id
  sent : ∀ {around call answer id before after}, isNetworkCall call = true →
    (hosts around).Answers call before answer after → Prepared before id → Prepared after id
  operated : ∀ {around operation id before after},
    (hosts around).Operates operation before after → Prepared before id →
      (Prepared after id ↔ Harmless operation before id)

namespace Slotted

variable {Around : Type} {hosts : Around → Host Service Operation} (slotted : Slotted hosts)

/-- The service keeps the change of the proposal under evaluation. -/
def Holds (participant : Participant Service) : Prop :=
  ∀ proposal, participant.engine.state = .evaluatingProposal proposal →
    slotted.Prepared participant.service proposal.proposalId

/-- A REJECT result is for the proposal or for one that is not registered, and the
proposal is accepted only if its change can be committed. -/
def Calm (codecs : TwoPhase.Codecs) (around : Around) (service : Service) (input : Input)
    (exchanges : List Exchange) (id : ProposalId) : Prop :=
  (∀ message other, input = .handleConsensusMsg message →
    meaning codecs message.message = .result other .reject →
    other ≠ id → ¬ slotted.Registered service other) ∧
    ∀ answer, (.acceptProposal id none, answer) ∈ exchanges → slotted.Commits around service

/-- While a proposal is evaluated, the inputs of the engine are calm and every
operation is harmless. -/
def Undisturbed (codecs : TwoPhase.Codecs)
    (participant : Participant Service) (situated : Around × Event Operation) : Prop :=
  ∀ proposal, participant.engine.state = .evaluatingProposal proposal →
    match situated.2 with
    | .engine record =>
      slotted.Calm codecs situated.1 participant.service record.input record.exchanges
        proposal.proposalId
    | .operation operation => slotted.Harmless operation participant.service proposal.proposalId

section EngineSteps

variable {around : Around} {before reached : Service}
  (answered : Interaction.Answered (hosts around).Answers before exchanges reached)

include answered

theorem prepared_of_continued {id : ProposalId} (continued : Continued codecs input id exchanges)
    (prepared : slotted.Prepared before id)
    (calm : slotted.Calm codecs around before input exchanges id) :
    slotted.Prepared reached id := by
  cases continued with
  | silent =>
    rw [answered_nil_iff] at answered
    rw [answered]
    exact prepared
  | sent network =>
    rw [answered_singleton_iff] at answered
    exact slotted.sent network answered prepared
  | acceptFailed =>
    rw [answered_singleton_iff] at answered
    have refused := (slotted.acceptFailed prepared answered).1
    exact (refused (calm.2 _ (List.mem_singleton.mpr rfl))).elim
  | rejectFailed =>
    rw [answered_singleton_iff] at answered
    exact (slotted.rejectFailed answered).2 id prepared
  | rejectedOther shape received different =>
    rw [answered_singleton_iff] at answered
    have registered := (slotted.rejected answered).1
    exact (calm.1 _ _ shape received different registered).elim

include transition

theorem prepared_of_calm {proposal : TwoPhaseProposal} (kept : engine.WellKept)
    (sound : slotted.Sound before)
    (held : ∀ current, engine.state = .evaluatingProposal current →
      slotted.Prepared before current.proposalId ∧
        slotted.Calm codecs around before input exchanges current.proposalId)
    (evaluating : after.state = .evaluatingProposal proposal) :
    slotted.Prepared reached proposal.proposalId := by
  rcases checked_or_continued answered kept transition evaluating with
    checked | ⟨⟨current, evaluates, sameId⟩, continued⟩
  · exact slotted.checked sound checked
  · obtain ⟨prepared, calm⟩ := held current evaluates
    rw [sameId] at prepared calm
    exact slotted.prepared_of_continued answered continued prepared calm

theorem calm_of_afterwards {proposal : TwoPhaseProposal}
    (prepared : slotted.Prepared before proposal.proposalId)
    (evaluating : engine.state = .evaluatingProposal proposal)
    (afterwards : ∀ current, after.state = .evaluatingProposal current →
      slotted.Prepared reached current.proposalId) :
    slotted.Calm codecs around before input exchanges proposal.proposalId := by
  constructor
  · rintro message other rfl received different registered
    obtain ⟨unchanged, answer, rejects⟩ :=
      rejects_of_other_result transition received evaluating different
    rw [rejects, answered_singleton_iff] at answered
    have keeps := afterwards proposal (by rw [unchanged]; exact evaluating)
    cases answer with
    | ok _ => exact (slotted.rejected answered).2 _ keeps
    | error _ => exact (slotted.rejectFailed answered).1 registered
  · intro answer accepts
    cases accepting_of_transition transition accepts with
    | announced =>
      rw [answered_cons_iff] at answered
      obtain ⟨_, accepted, _⟩ := answered
      exact slotted.accepted prepared accepted
    | told _ _ _ =>
      rw [answered_singleton_iff] at answered
      exact slotted.accepted prepared answered
    | failed =>
      -- the engine goes on evaluating a proposal whose change is lost
      rw [answered_singleton_iff] at answered
      obtain ⟨current, stays, sameId⟩ := evaluates_of_acceptFailed transition
        (List.mem_singleton.mpr rfl) ⟨proposal, evaluating, rfl⟩
      have keeps := afterwards current stays
      rw [sameId] at keeps
      exact absurd keeps (slotted.acceptFailed prepared answered).2

end EngineSteps

def Kept (participant : Participant Service) : Prop :=
  participant.engine.WellKept ∧ slotted.Sound participant.service

variable {before after : Participant Service} {situated : Around × Event Operation}

theorem kept_step (kept : slotted.Kept before)
    (step : before.SituatedStep codecs hosts situated after) :
    slotted.Kept after := by
  obtain ⟨wellKept, sound⟩ := kept
  obtain ⟨around, record | operation⟩ := situated
  · obtain ⟨⟨returned, trace⟩, channels, remaining, _, _, answered⟩ := step
    refine ⟨wellKept.transition (transition_of_trace trace), ?_⟩
    refine answered.invariant (fun _ _ _ _ => slotted.sound_answered) ?_
    rw [(slotted.fed rfl).1]
    exact sound
  · obtain ⟨same, operated⟩ := step
    refine ⟨?_, slotted.sound_operated operated sound⟩
    rw [same]
    exact wellKept

theorem holds_iff_undisturbed (kept : slotted.Kept before) (held : slotted.Holds before)
    (step : before.SituatedStep codecs hosts situated after) :
    slotted.Holds after ↔ slotted.Undisturbed codecs before situated := by
  obtain ⟨wellKept, sound⟩ := kept
  obtain ⟨around, record | operation⟩ := situated
  · obtain ⟨⟨returned, trace⟩, channels, remaining, _, _, answered⟩ := step
    have transition := transition_of_trace trace
    obtain ⟨sameSound, samePrepared, sameRegistered, sameCommits⟩ :=
      @slotted.fed around remaining before.service _ rfl
    rw [← sameSound] at sound
    unfold Holds at held
    unfold Undisturbed Calm
    rw [← samePrepared] at held
    rw [← sameRegistered, ← sameCommits]
    constructor
    · intro holds proposal evaluating
      exact slotted.calm_of_afterwards transition answered (held proposal evaluating)
        evaluating holds
    · intro calm proposal
      exact slotted.prepared_of_calm transition answered wellKept sound
        fun current evaluates => ⟨held current evaluates, calm current evaluates⟩
  · obtain ⟨same, operated⟩ := step
    unfold Holds Undisturbed
    rw [same]
    refine forall_congr' fun proposal => imp_congr_right fun evaluating => ?_
    exact slotted.operated operated (held proposal evaluating)

/-- The runs in which the service always keeps the change of the proposal
under evaluation are exactly the undisturbed ones. -/
theorem throughout_holds_iff {first last : Participant Service}
    {path : List (Participant Service × (Around × Event Operation))}
    (run : Run (Participant.SituatedStep codecs hosts) first path last) (kept : slotted.Kept first)
    (idle : first.engine.state = .idle) :
    Run.Throughout slotted.Holds path last ↔ Run.Meets (slotted.Undisturbed codecs) path := by
  have held : slotted.Holds first := by
    intro proposal evaluating
    rw [idle] at evaluating
    cases evaluating
  exact Run.throughout_iff slotted.Kept slotted.Holds (slotted.Undisturbed codecs) run kept held
    (fun _ _ _ => slotted.kept_step)
    fun _ _ _ keeps holds step =>
      slotted.holds_iff_undisturbed keeps holds step

end Slotted

end Splinter.Services
