import Splinter.TwoPhase.Simulation
import Splinter.TwoPhase.Wire

/-!
# No proposal is displaced or lost

A proposal that the engine has taken in must be kept until the manager is told the
decision about it.  One is lost when a proposal without verifiers turns the engine
idle, and when a backlogged proposal is taken out for a backlogged request and
`check_proposal` fails.
-/

namespace Splinter.TwoPhase

open Library Consensus
open TwoPhaseProposal (hasId hasCoordinator)

/-- The consensus data of the proposal is an empty list of verifiers. -/
def NamesNoVerifier (codecs : Codecs) (proposal : Proposal) : Prop := proposal.consensusData ≠ [] ∧
    ∃ required, codecs.requiredVerifiers.parse proposal.consensusData = .ok required ∧
      required.verifiers = []

namespace TwoPhaseEngine

theorem verifiers_eq_empty_iff (codecs : Codecs) (engine : TwoPhaseEngine) (proposal : Proposal) :
    engine.verifiers codecs proposal = .ok ∅ ↔ NamesNoVerifier codecs proposal := by
  unfold verifiers NamesNoVerifier
  by_cases absent : proposal.consensusData = []
  · rw [if_pos absent]
    constructor
    · intro empty
      injection empty with empty
      exact (Finset.insert_ne_empty _ _ empty).elim
    · rintro ⟨present, _⟩
      exact (present absent).elim
  · rw [if_neg absent]
    cases codecs.requiredVerifiers.parse proposal.consensusData with
    | error error => simp [Except.map]
    | ok required => simp [Except.map, absent]

section Arrival

variable {codecs : Codecs} {now : Instant} {engine after : TwoPhaseEngine}
  {update : ProposalUpdate} {proposal : Proposal}
  {current : TwoPhaseProposal} {exchanges : List Exchange}

theorem Transition.evaluation_of_arrival
    (transition : Transition codecs now engine (.handleProposalUpdate update) exchanges after)
    (arrives : handed update = some proposal)
    (evaluating : engine.state = .evaluatingProposal current) :
    (after.state = engine.state ∧ after.coordinatorTimeout = engine.coordinatorTimeout) ∨
      engine.isBacklogged proposal.id = false ∧ NamesNoVerifier codecs proposal := by
  cases transition with
  | ignored _ | emptyRejectFailed _ _ _ | proposalBacklogged _ _ _ _ _ _ => exact Or.inl ⟨rfl, rfl⟩
  | emptyRejected delivered fresh empty =>
    cases (delivered.symm.trans arrives)
    exact Or.inr ⟨fresh, (verifiers_eq_empty_iff _ _ _).mp empty⟩
  | proposalCoordinated _ _ _ _ _ free _ _ => exact (free current evaluating).elim
  | nothingCreated _ | verificationRequested _ _ | verifiedSent _ _
  | invalidRejected _ _ _ | failedSent _ _ => cases arrives

theorem handleProposalUpdate_of_handed (arrives : handed update = some proposal) :
    handleProposalUpdate codecs now update engine = handleProposal codecs now proposal engine := by
  cases update with
  | proposalCreated created =>
    obtain rfl : created = some proposal := arrives
    rfl
  | proposalReceived received _ =>
    cases arrives
    rfl
  | _ => cases arrives

theorem trace_of_namesNoVerifier (arrives : handed update = some proposal)
    (fresh : engine.isBacklogged proposal.id = false) (nameless : NamesNoVerifier codecs proposal) :
    Interaction.Trace (handleProposalUpdate codecs now update engine)
      [(.rejectProposal proposal.id, .ok ())]
      (.ok (), { engine with state := .idle }) := by
  have empty := (verifiers_eq_empty_iff codecs engine proposal).mpr nameless
  rw [handleProposalUpdate_of_handed arrives]
  unfold handleProposal
  rw [if_neg (by rw [fresh]; decide), empty]
  simp only [Finset.not_nonempty_empty, dite_false]
  rw [trace_attempt_iff]
  exact Or.inr ⟨[], rfl, (trace_finish_iff _ _ _).mpr ⟨rfl, rfl⟩⟩

/-- The proposal under evaluation, its votes and the timer survive the arrival
of another proposal, whatever the manager answers, exactly if the other one is
in the backlog already or does not come with an empty list of verifiers. -/
theorem evaluation_kept_iff (codecs : Codecs) (now : Instant) (engine : TwoPhaseEngine)
    (current : TwoPhaseProposal) (update : ProposalUpdate) (proposal : Proposal)
    (evaluating : engine.state = .evaluatingProposal current)
    (arrives : handed update = some proposal) (_other : proposal.id ≠ current.proposalId) :
    (∀ exchanges outcome, Interaction.Trace (handleProposalUpdate codecs now update engine)
          exchanges outcome →
        outcome.2.state = .evaluatingProposal current ∧
          outcome.2.coordinatorTimeout = engine.coordinatorTimeout) ↔
      engine.isBacklogged proposal.id = true ∨ ¬ NamesNoVerifier codecs proposal := by
  constructor
  · intro kept
    by_contra displaced
    rw [not_or, Bool.not_eq_true, not_not] at displaced
    obtain ⟨idle, _⟩ := kept _ _ (trace_of_namesNoVerifier arrives displaced.1 displaced.2)
    cases idle
  · intro harmless exchanges outcome trace
    have transition : Transition codecs now engine (.handleProposalUpdate update) exchanges
          outcome.2 :=
      transition_of_trace trace
    rcases transition.evaluation_of_arrival arrives evaluating with
      ⟨state, timer⟩ | ⟨fresh, nameless⟩
    · exact ⟨state.trans evaluating, timer⟩
    · rcases harmless with backlogged | named
      · rw [fresh] at backlogged
        cases backlogged
      · exact (named nameless).elim

def evaluatingOwn : TwoPhaseEngine :=
  { startup 30000 0 ⟨[1]⟩ [] with
    state := .evaluatingProposal (TwoPhaseProposal.new ⟨[7]⟩ ⟨[1]⟩ {⟨[1]⟩} (by simp)) }

/-- A proposal whose consensus data has one unknown field. -/
def namelessProposal : Proposal := { Proposal.default with id := ⟨[8]⟩, consensusData := [16, 1] }

theorem evaluation_kept_of_no_data : evaluatingOwn.Evaluates ⟨[7]⟩ ∧
      ∀ exchanges outcome, Interaction.Trace
          (handleProposalUpdate .protobuf 0
            (.proposalCreated (some { Proposal.default with id := ⟨[8]⟩ })) evaluatingOwn)
          exchanges outcome →
        outcome.2.state = evaluatingOwn.state ∧
          outcome.2.coordinatorTimeout = evaluatingOwn.coordinatorTimeout :=
  ⟨⟨_, rfl, rfl⟩, (evaluation_kept_iff .protobuf 0 evaluatingOwn _ _ _ rfl rfl (by decide)).mpr
    (Or.inr fun nameless => nameless.1 rfl)⟩

/-- The proposal without verifiers is rejected, and the evaluation of the other
one ends. -/
theorem evaluation_displaced : evaluatingOwn.Evaluates ⟨[7]⟩ ∧ namelessProposal.id ≠ ⟨[7]⟩ ∧
      Interaction.Trace
        (handleProposalUpdate .protobuf 0 (.proposalReceived namelessProposal ⟨[2]⟩) evaluatingOwn)
        [(.rejectProposal ⟨[8]⟩, .ok ())] (.ok (), { evaluatingOwn with state := .idle }) := by
  have nameless : NamesNoVerifier .protobuf namelessProposal :=
    ⟨nofun, ⟨[]⟩, by decide +kernel, rfl⟩
  exact ⟨⟨_, rfl, rfl⟩, by decide, trace_of_namesNoVerifier rfl rfl nameless⟩

end Arrival

/-! ## Custody of the proposals -/

/-- The proposals about which the manager is told a decision. -/
def decidedIds (exchanges : List Exchange) : List ProposalId := exchanges.filterMap fun exchange =>
    match exchange.1 with
    | .acceptProposal id _ | .rejectProposal id => some id
    | _ => none

/-- A failing check for a backlogged request, or the rejection of another
proposal without verifiers, makes the engine forget the proposal. -/
def Loses (codecs : Codecs) (engine : TwoPhaseEngine) (input : Input)
    (exchanges : List Exchange) (id : ProposalId) : Prop :=
  (input = .handleBackloggedVerificationRequest ∧
    ∃ error, (.checkProposal id, .error error) ∈ exchanges) ∨
    engine.Evaluates id ∧ ∃ update proposal,
      input = .handleProposalUpdate update ∧ handed update = some proposal ∧
        proposal.id ≠ id ∧ proposal.id ∉ engine.backloggedIds ∧
        NamesNoVerifier codecs proposal ∧ (.rejectProposal proposal.id, .ok ()) ∈ exchanges

section Custody

variable {codecs : Codecs} {now : Instant} {engine after : TwoPhaseEngine}
  {input : Input} {exchanges : List Exchange} {id : ProposalId}
  {proposal : TwoPhaseProposal} {update : ProposalUpdate}

theorem mem_backloggedIds_or_eq {wanted : TwoPhaseProposal → Bool}
    (found : engine.proposalBacklog.find? wanted = some proposal)
    (member : id ∈ engine.backloggedIds) :
    id ∈ (engine.withoutBacklogged wanted).backloggedIds ∨ id = proposal.proposalId := by
  obtain ⟨candidate, held, rfl⟩ := List.mem_map.mp member
  rcases mem_eraseP_or_eq_of_find? found held with kept | same
  · exact Or.inl (List.mem_map_of_mem kept)
  · exact Or.inr (congrArg _ same)

theorem Completion.keeps_or_decided {subject : ProposalId} {result : ProposalResult}
    (completion : Completion codecs engine subject result exchanges after)
    (own : ∀ other, engine.Evaluates other → other = subject) (keeps : engine.Keeps id) :
    after.Keeps id ∨ id ∈ decidedIds exchanges := by
  cases completion with
  | refused _ => exact Or.inl keeps
  | announced decided =>
    rcases keeps with evaluates | member
    · obtain rfl := own id evaluates
      cases result <;> cases decided <;> simp [decidedIds]
    · exact Or.inl (Or.inr member)

theorem Coordination.keeps_or_decided
    (coordination : Coordination codecs now engine proposal exchanges after)
    (held : id ∈ engine.backloggedIds ∨ id = proposal.proposalId) :
    after.Keeps id ∨ id ∈ decidedIds exchanges := by
  cases coordination with
  | started =>
    rcases held with member | rfl
    · exact Or.inl (Or.inr member)
    · exact Or.inl (Or.inl ⟨proposal, rfl, rfl⟩)
  | rejected completion =>
    rcases held with member | rfl
    · have remains : id ∈ after.backloggedIds := by
        rw [backloggedIds, completion.proposalBacklog_eq]
        exact member
      exact Or.inl (Or.inr remains)
    · cases completion with
      | refused decided | announced decided =>
        cases decided
        simp [decidedIds]

theorem Transition.keeps_or_decided
    (transition : Transition codecs now engine input exchanges after) (keeps : engine.Keeps id) :
    after.Keeps id ∨ id ∈ decidedIds exchanges ∨ Loses codecs engine input exchanges id := by
  have own {proposal : TwoPhaseProposal} (evaluating : engine.state = .evaluatingProposal proposal)
      (other : ProposalId) (evaluates : engine.Evaluates other) :
      other = proposal.proposalId :=
    eq_of_evaluates evaluates (evaluates_of_state evaluating)
  have completed {settled : TwoPhaseEngine} {subject : ProposalId} {result : ProposalResult}
      (completion : Completion codecs settled subject result exchanges after)
      (own : ∀ other, settled.Evaluates other → other = subject)
      (keeps : settled.Keeps id) :
      after.Keeps id ∨ id ∈ decidedIds exchanges ∨ Loses codecs engine input exchanges id :=
    (completion.keeps_or_decided own keeps).imp_right Or.inl
  have backlogged (free : ∀ current, engine.state ≠ .evaluatingProposal current) :
      id ∈ engine.backloggedIds := by
    rcases keeps with ⟨current, evaluating, _⟩ | member
    · exact (free current evaluating).elim
    · exact member
  cases transition with
  | timedOut evaluating _ completion => exact completed completion (own evaluating) keeps
  | voteFailed _ evaluating completion | invalidRejected evaluating _ completion =>
    exact completed completion (own evaluating) keeps
  | voteCompleted _ evaluating _ completion =>
    refine completed completion ?_ ?_
    · rintro other ⟨counted, ⟨⟩, rfl⟩
      rfl
    · rcases keeps with evaluates | member
      · rw [own evaluating id evaluates]
        exact Or.inl ⟨_, rfl, rfl⟩
      · exact Or.inr member
  | voteCounted _ evaluating _ | verificationRequested evaluating _ =>
    rcases keeps with evaluates | member
    · rw [own evaluating id evaluates]
      exact Or.inl (Or.inl ⟨_, rfl, rfl⟩)
    · exact Or.inl (Or.inr member)
  | drained idle _ found =>
    rcases mem_backloggedIds_or_eq found (backlogged (by simp [idle])) with member | rfl
    · exact Or.inl (Or.inr member)
    · exact Or.inl (Or.inl ⟨_, rfl, rfl⟩)
  | drainFailed idle _ found =>
    rcases mem_backloggedIds_or_eq found (backlogged (by simp [idle])) with member | rfl
    · exact Or.inl (Or.inr member)
    · rw [proposalId_of_find? found]
      exact Or.inr (Or.inr (Or.inl ⟨rfl, _, List.mem_singleton.mpr rfl⟩))
  | coordinated idle found coordination =>
    have held := mem_backloggedIds_or_eq found (backlogged (by simp [idle]))
    exact (coordination.keeps_or_decided held).imp_right Or.inl
  | proposalCoordinated _ _ _ _ _ free _ coordination =>
    exact (coordination.keeps_or_decided (Or.inl (backlogged free))).imp_right Or.inl
  | requested _ same found =>
    have remains := proposalId_of_find? found
    rcases keeps with ⟨current, evaluating, rfl⟩ | member
    · rw [same current evaluating]
      exact Or.inl (Or.inl ⟨_, rfl, remains⟩)
    · rcases mem_backloggedIds_or_eq found member with kept | rfl
      · exact Or.inl (Or.inr kept)
      · exact Or.inl (Or.inl ⟨_, rfl, rfl⟩)
  | applied _ evaluating | rejected _ evaluating =>
    rcases keeps with evaluates | member
    · rw [own evaluating id evaluates]
      exact Or.inr (Or.inl (by simp [decidedIds]))
    · exact Or.inl (Or.inr member)
  | creationRequested idle _ => exact Or.inl (Or.inr (backlogged (by simp [idle])))
  | nothingCreated waiting => exact Or.inl (Or.inr (backlogged (by simp [waiting])))
  | @emptyRejected _ proposal delivered fresh empty =>
    rcases keeps with evaluates | member
    · refine Or.inr ?_
      by_cases same : id = proposal.id
      · exact Or.inl (by simp [decidedIds, same])
      · rw [isBacklogged_eq_false_iff] at fresh
        exact Or.inr (Or.inr ⟨evaluates, _, _, rfl, delivered, Ne.symm same, fresh,
          (verifiers_eq_empty_iff _ _ _).mp empty, List.mem_singleton.mpr rfl⟩)
    · exact Or.inl (Or.inr member)
  | proposalBacklogged _ _ _ _ _ _ =>
    rcases keeps with evaluates | member
    · exact Or.inl (Or.inl evaluates)
    · exact Or.inl (Or.inr ((mem_backloggedIds_backlog _ _ _).mpr (Or.inl member)))
  | _ => exact Or.inl keeps

theorem Transition.not_keeps_of_loses (kept : engine.WellKept)
    (transition : Transition codecs now engine input exchanges after)
    (loses : Loses codecs engine input exchanges id) :
    ¬ after.Keeps id ∧ id ∉ decidedIds exchanges := by
  rcases loses with ⟨rfl, error, failed⟩ |
    ⟨evaluates, update, proposal, rfl, arrives, other, _, _, refused⟩
  · cases transition with
    | ignored _ => cases failed
    | drained _ _ _ => simp at failed
    | drainFailed idle _ found =>
      simp only [List.mem_singleton, Prod.mk.injEq, Call.checkProposal.injEq] at failed
      obtain ⟨rfl, _⟩ := failed
      have absent := notMem_withoutBacklogged kept found
      rw [proposalId_of_find? found] at absent
      refine ⟨?_, by simp [decidedIds]⟩
      rintro (⟨current, evaluating, _⟩ | member)
      · simp [withoutBacklogged, idle] at evaluating
      · exact absent member
  · cases transition with
    | emptyRejected delivered _ _ =>
      cases (delivered.symm.trans arrives)
      refine ⟨?_, by simpa [decidedIds] using Ne.symm other⟩
      rintro (⟨_, ⟨⟩, _⟩ | member)
      exact kept.separate id evaluates member
    | proposalCoordinated _ _ _ _ _ free _ _ =>
      obtain ⟨current, evaluating, _⟩ := evaluates
      exact (free current evaluating).elim
    | ignored _ | proposalBacklogged _ _ _ _ _ _ => cases refused
    | emptyRejectFailed _ _ _ => simp at refused
    | nothingCreated _ | verificationRequested _ _ | verifiedSent _ _ | invalidRejected _ _ _
    | failedSent _ _ => cases arrives

theorem readable_of_returned {proposal : Proposal} (arrives : handed update = some proposal)
    (fresh : engine.isBacklogged proposal.id = false)
    (trace : Interaction.Trace (handleProposalUpdate codecs now update engine) exchanges
      (.ok (), after)) :
    ∃ verifiers, engine.verifiers codecs proposal = .ok verifiers := by
  rw [handleProposalUpdate_of_handed arrives] at trace
  unfold handleProposal at trace
  rw [if_neg (by rw [fresh]; decide)] at trace
  cases shape : engine.verifiers codecs proposal with
  | error error =>
    rw [shape] at trace
    cases ((Interaction.trace_done_iff _ _ _).mp trace).2
  | ok verifiers => exact ⟨verifiers, rfl⟩

theorem Transition.keeps_of_handed {proposal : Proposal} {verifiers : Finset PeerId}
    (transition : Transition codecs now engine (.handleProposalUpdate update) exchanges after)
    (arrives : handed update = some proposal)
    (readable : engine.verifiers codecs proposal = .ok verifiers)
    (isNew : ¬ engine.Keeps proposal.id) :
    after.Keeps proposal.id ∨ proposal.id ∈ decidedIds exchanges := by
  have same {other : Proposal} (delivered : handed update = some other) : other = proposal :=
    Option.some.inj (delivered.symm.trans arrives)
  cases transition with
  | ignored ignores =>
    have known : engine.isBacklogged proposal.id = true ∨
        (∃ error, engine.verifiers codecs proposal = .error error) ∨
        ∃ verifiers, engine.verifiers codecs proposal = .ok verifiers ∧ verifiers.Nonempty ∧
          engine.evaluatingProposal proposal.id = true := by
      cases update with
      | proposalCreated created =>
        obtain rfl : created = some proposal := arrives
        exact ignores
      | proposalReceived received _ =>
        cases arrives
        exact ignores
      | _ => cases arrives
    rcases known with backlogged | ⟨error, unreadable⟩ | ⟨_, _, _, evaluating⟩
    · exact (isNew (Or.inr ((isBacklogged_iff _ _).mp backlogged))).elim
    · cases readable.symm.trans unreadable
    · exact (isNew (Or.inl ((evaluatingProposal_eq_true_iff _ _).mp evaluating))).elim
  | emptyRejected delivered _ _ | emptyRejectFailed delivered _ _ =>
    rw [same delivered]
    exact Or.inr (by simp [decidedIds])
  | proposalBacklogged delivered _ _ sameId _ _ =>
    rw [← same delivered, ← sameId]
    exact Or.inl (Or.inr ((mem_backloggedIds_backlog _ _ _).mpr (Or.inr rfl)))
  | proposalCoordinated delivered _ _ sameId _ _ _ coordination =>
    rw [← same delivered]
    exact coordination.keeps_or_decided (Or.inr sameId.symm)
  | nothingCreated _ | verificationRequested _ _ | verifiedSent _ _ | invalidRejected _ _ _
  | failedSent _ _ => cases arrives

end Custody

instance (engine : TwoPhaseEngine) (id : ProposalId) : Decidable (engine.Keeps id) :=
  decidable_of_iff (engine.evaluatingProposal id = true ∨ id ∈ engine.backloggedIds)
    (or_congr_left (evaluatingProposal_eq_true_iff engine id))

end TwoPhaseEngine

open TwoPhaseEngine

/-- A handler call with what it asked and what it returned. -/
structure Handling where
  now : Instant
  input : Input
  exchanges : List Exchange
  returned : Except ConsensusEngineError Unit

/-- An engine, with the proposals it has taken in about which the manager has
not been told a decision since. -/
structure Custodian where
  engine : TwoPhaseEngine
  pending : List ProposalId

namespace Custodian

/-- A proposal is taken in if it is new and the handler returns normally. -/
def taken (engine : TwoPhaseEngine) (handling : Handling) : List ProposalId :=
  match handedId handling.input, handling.returned with
  | some arrived, .ok () => if engine.Keeps arrived then [] else [arrived]
  | _, _ => []

def account (custodian : Custodian) (handling : Handling) : List ProposalId :=
  (custodian.pending ++ taken custodian.engine handling).filter fun id =>
    id ∉ decidedIds handling.exchanges

def Step (codecs : Codecs) (before : Custodian) (handling : Handling) (after : Custodian) : Prop :=
  Interaction.Trace (handle codecs handling.now handling.input before.engine) handling.exchanges
    (handling.returned, after.engine) ∧
    after.pending = before.account handling

def boot (coordinatorTimeoutDuration : Nat) (now : Instant) (id : PeerId)
    (peerIds : List PeerId) : Custodian where
  engine := startup coordinatorTimeoutDuration now id peerIds
  pending := []

/-- Every proposal that was taken in and not decided is still kept. -/
def Conserves (custodian : Custodian) : Prop := ∀ id ∈ custodian.pending, custodian.engine.Keeps id

instance : DecidablePred Conserves := fun custodian =>
  inferInstanceAs (Decidable (∀ id ∈ custodian.pending, custodian.engine.Keeps id))

/-- None of the proposals taken in is lost in a handler call. -/
def Careful (codecs : Codecs) (custodian : Custodian) (handling : Handling) : Prop :=
  ∀ id ∈ custodian.pending, ¬ Loses codecs custodian.engine handling.input handling.exchanges id

variable {codecs : Codecs} {before after : Custodian} {handling : Handling}

theorem Step.transition (step : Step codecs before handling after) :
    Transition codecs handling.now before.engine handling.input handling.exchanges after.engine :=
  transition_of_trace step.1

theorem Step.keeps_of_taken {id : ProposalId} (step : Step codecs before handling after)
    (member : id ∈ taken before.engine handling) :
    after.engine.Keeps id ∨ id ∈ decidedIds handling.exchanges := by
  obtain ⟨now, input, exchanges, returned⟩ := handling
  unfold taken at member
  split at member
  · rename_i arrived handedOver shape
    split at member
    · cases member
    · rename_i isNew
      obtain rfl := List.mem_singleton.mp member
      obtain ⟨update, proposal, rfl, arrives, rfl⟩ := (hands_iff _ _).mpr handedOver
      have fresh : before.engine.isBacklogged proposal.id = false := by
        rw [isBacklogged_eq_false_iff]
        exact fun backlogged => isNew (Or.inr backlogged)
      have trace := step.1
      rw [shape] at trace
      obtain ⟨verifiers, readable⟩ := readable_of_returned arrives fresh trace
      exact step.transition.keeps_of_handed arrives readable isNew
  · cases member

theorem Conserves.step_iff (kept : before.engine.WellKept) (conserves : before.Conserves)
    (step : Step codecs before handling after) :
    after.Conserves ↔ before.Careful codecs handling := by
  have pending (id : ProposalId) : id ∈ after.pending ↔
      (id ∈ before.pending ∨ id ∈ taken before.engine handling) ∧
        id ∉ decidedIds handling.exchanges := by
    rw [step.2, account, List.mem_filter, List.mem_append, decide_eq_true_eq]
  constructor
  · intro conserved id member loses
    obtain ⟨gone, undecided⟩ := step.transition.not_keeps_of_loses kept loses
    exact gone (conserved id ((pending id).mpr ⟨Or.inl member, undecided⟩))
  · intro careful id member
    obtain ⟨source, undecided⟩ := (pending id).mp member
    rcases source with earlier | now
    · rcases step.transition.keeps_or_decided (conserves id earlier) with keeps | decided | loses
      · exact keeps
      · exact (undecided decided).elim
      · exact (careful id earlier loses).elim
    · exact (step.keeps_of_taken now).resolve_right undecided

/-- No proposal is lost in a run exactly if none of its handler calls makes the
engine forget one. -/
theorem conserves_iff (codecs : Codecs) (coordinatorTimeoutDuration : Nat) (start : Instant)
    (self : PeerId) (peerIds : List PeerId) (path : List (Custodian × Handling)) (last : Custodian)
    (run : Run (Step codecs) (boot coordinatorTimeoutDuration start self peerIds) path last) :
    Run.Throughout Conserves path last ↔ Run.Meets (Careful codecs) path :=
  Run.throughout_iff (fun custodian => custodian.engine.WellKept) Conserves (Careful codecs) run
    (Node.wellKept_boot coordinatorTimeoutDuration start self peerIds) nofun
    (fun _ _ _ kept step => kept.transition step.transition)
    fun _ _ _ kept conserves step => conserves.step_iff kept step

def handled (codecs : Codecs) (custodian : Custodian) (action : Action) : Handling :=
  let played := Interaction.play action.answer
    (handle codecs action.now action.input custodian.engine)
  ⟨action.now, action.input, played.1, played.2.1⟩

def perform (codecs : Codecs) (custodian : Custodian) (action : Action) : Custodian where
  engine := (Interaction.play action.answer
    (handle codecs action.now action.input custodian.engine)).2.2
  pending := custodian.account (custodian.handled codecs action)

theorem step_perform (codecs : Codecs) (custodian : Custodian) (action : Action) :
    Step codecs custodian (custodian.handled codecs action) (custodian.perform codecs action) :=
  ⟨Interaction.play_trace _ _, rfl⟩

/-- The request for a verification arrives before the proposal. -/
def requestedEarly : Action :=
  Action.ok (.handleConsensusMsg
    { message := Codecs.protobuf.twoPhaseMessage.write (verificationRequest ⟨[7]⟩)
      originId := ⟨[1]⟩ })

def received : Action :=
  Action.ok (.handleProposalUpdate (.proposalReceived { Proposal.default with id := ⟨[7]⟩ } ⟨[1]⟩))

/-- The proposal is checked for the early request. -/
theorem conserves_iff_of_check :
    ∃ path last, Run (Step .protobuf) (boot 30000 0 ⟨[2]⟩ [⟨[1]⟩]) path last ∧
      last.pending = [⟨[7]⟩] ∧ Run.Meets (Careful .protobuf) path := by
  have run := ((Run.start.snoc (step_perform .protobuf (boot 30000 0 ⟨[2]⟩ [⟨[1]⟩])
    requestedEarly)).snoc (step_perform _ _ received)).snoc
      (step_perform _ _ (Action.ok .handleBackloggedVerificationRequest))
  exact ⟨_, _, run, by decide +kernel, (conserves_iff _ _ _ _ _ _ _ run).mp (by decide +kernel)⟩

/-- The check for the early request fails, and the proposal is gone although
the manager has not been told a decision. -/
theorem proposal_lost : ∃ path last, Run (Step .protobuf) (boot 30000 0 ⟨[2]⟩ [⟨[1]⟩]) path last ∧
      last.pending = [⟨[7]⟩] ∧ ¬ last.engine.Keeps ⟨[7]⟩ := by
  have run := ((Run.start.snoc (step_perform .protobuf (boot 30000 0 ⟨[2]⟩ [⟨[1]⟩])
    requestedEarly)).snoc (step_perform _ _ received)).snoc
      (step_perform _ _ ⟨0, .handleBackloggedVerificationRequest,
        fun _ => .error (.proposalManager .notReady)⟩)
  exact ⟨_, _, run, by decide +kernel, by decide +kernel⟩

end Custodian

end Splinter.TwoPhase
