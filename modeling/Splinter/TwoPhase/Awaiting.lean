import Splinter.TwoPhase.Simulation
import Splinter.TwoPhase.Wire

/-!
# Waiting for a proposal

`awaiting_outstanding_iff` characterises the runs in which an engine is in
`AwaitingProposal` only while an answer to `create_proposal` is outstanding.
-/

namespace Splinter.TwoPhase

open Library Consensus TwoPhaseEngine

/-- A call of `create_proposal` that returned without an error. -/
def isCreation : Exchange → Bool
  | (.createProposal _ _, .ok ()) => true
  | _ => false

def reportsCreation : Input → Bool
  | .handleProposalUpdate (.proposalCreated _) => true
  | _ => false

theorem reportsCreation_iff (input : Input) : reportsCreation input = true ↔
    ∃ given, input = .handleProposalUpdate (.proposalCreated given) := by
  cases input with
  | handleProposalUpdate update => cases update <;> simp [reportsCreation]
  | _ => simp [reportsCreation]

def creations (history : List Record) : Nat := (history.flatMap Record.exchanges).countP isCreation

def reports (history : List Record) : Nat :=
  history.countP fun record => reportsCreation record.input

namespace TwoPhaseEngine

/-- A waiting engine that is handed its created proposal goes on waiting: the
proposal is in the backlog already, its verifiers are unreadable, another peer
coordinates it, or the manager's errors prevent that it is rejected. -/
def KeepsWaiting (codecs : Codecs) (engine : TwoPhaseEngine)
    (proposal : Proposal) (exchanges : List Exchange) : Prop :=
  proposal.id ∈ engine.backloggedIds ∨ (∃ error, engine.verifiers codecs proposal = .error error) ∨
    engine.verifiers codecs proposal = .ok ∅ ∧ (.rejectProposal proposal.id, .ok ()) ∉ exchanges ∨
    ∃ verifiers coordinator, engine.verifiers codecs proposal = .ok verifiers ∧
      IsLeast (verifiers : Set PeerId) coordinator ∧
      (engine.id ≠ coordinator ∨ (.checkProposal proposal.id, .ok ()) ∉ exchanges ∧
        (.rejectProposal proposal.id, .ok ()) ∉ exchanges)

section Transitions

variable {codecs : Codecs} {now : Instant} {engine after : TwoPhaseEngine}
  {input : Input} {exchanges : List Exchange} {id : ProposalId}
  {result : ProposalResult} {exchange : Exchange} {proposal : Proposal}

theorem Completion.isCreation_eq_false
    (completion : Completion codecs engine id result exchanges after)
    (member : exchange ∈ exchanges) :
    isCreation exchange = false := by
  cases completion with
  | refused decided | announced decided =>
    cases result <;> cases decided <;> simp at member <;>
      rcases member with rfl | rfl <;> rfl

theorem Transition.of_creation (transition : Transition codecs now engine input exchanges after)
    (member : exchange ∈ exchanges) (creation : isCreation exchange = true) :
    engine.state = .idle ∧ input = .getNextProposal ∧
      after.state = .awaitingProposal ∧ exchanges.countP isCreation = 1 := by
  have completed {settled : TwoPhaseEngine} {id : ProposalId}
      {result : ProposalResult} {made : List Exchange}
      (completion : Completion codecs settled id result made after)
      (member : exchange ∈ made) : False := by
    rw [completion.isCreation_eq_false member] at creation
    cases creation
  have coordinated {coordinator : TwoPhaseEngine} {proposal : TwoPhaseProposal}
      (coordination : Coordination codecs now coordinator proposal exchanges after) :
      False := by
    cases coordination with
    | started =>
      obtain rfl := List.mem_singleton.mp member
      cases creation
    | rejected completion =>
      rcases List.mem_cons.mp member with rfl | later
      · cases creation
      · exact completed completion later
  cases transition with
  | creationRequested idle _ => exact ⟨idle, rfl, rfl, rfl⟩
  | timedOut _ _ completion | voteCompleted _ _ _ completion
  | voteFailed _ _ completion | invalidRejected _ _ completion =>
    exact (completed completion member).elim
  | coordinated _ _ coordination
  | proposalCoordinated _ _ _ _ _ _ _ coordination => exact (coordinated coordination).elim
  | ignored _ | requestBacklogged _ _ | voteCounted _ _ _ | nothingCreated _
  | proposalBacklogged _ _ _ _ _ _ => cases member
  | _ =>
    obtain rfl := List.mem_singleton.mp member
    cases creation

theorem keepsWaiting_iff_of_empty (fresh : proposal.id ∉ engine.backloggedIds)
    (readable : engine.verifiers codecs proposal = .ok ∅) :
    KeepsWaiting codecs engine proposal exchanges ↔
      (.rejectProposal proposal.id, .ok ()) ∉ exchanges := by
  have noLeast (verifiers : Finset PeerId) (coordinator : PeerId)
      (same : engine.verifiers codecs proposal = .ok verifiers)
      (least : IsLeast (verifiers : Set PeerId) coordinator) : False := by
    rw [readable] at same
    injection same with empty
    rw [← empty] at least
    simpa using least.1
  constructor
  · rintro (backlogged | ⟨error, unreadable⟩ | ⟨_, refused⟩ |
      ⟨verifiers, coordinator, same, least, _⟩)
    · exact (fresh backlogged).elim
    · rw [readable] at unreadable
      cases unreadable
    · exact refused
    · exact (noLeast verifiers coordinator same least).elim
  · intro refused
    exact Or.inr (Or.inr (Or.inl ⟨readable, refused⟩))

theorem keepsWaiting_iff_of_least {tracked : TwoPhaseProposal}
    (fresh : proposal.id ∉ engine.backloggedIds)
    (readable : engine.verifiers codecs proposal = .ok tracked.requiredVerifiers) :
    KeepsWaiting codecs engine proposal exchanges ↔ engine.id ≠ tracked.coordinatorId ∨
      (.checkProposal proposal.id, .ok ()) ∉ exchanges ∧
        (.rejectProposal proposal.id, .ok ()) ∉ exchanges := by
  constructor
  · rintro (backlogged | ⟨error, unreadable⟩ | ⟨empty, _⟩ |
      ⟨verifiers, coordinator, same, least, situation⟩)
    · exact (fresh backlogged).elim
    · rw [readable] at unreadable
      cases unreadable
    · rw [readable] at empty
      injection empty with none
      exact (tracked.requiredVerifiers_ne_empty none).elim
    · rw [readable] at same
      injection same with equal
      rw [← equal] at least
      rw [tracked.lowest.unique least]
      exact situation
  · intro situation
    exact Or.inr (Or.inr (Or.inr ⟨_, _, readable, tracked.lowest, situation⟩))

theorem Coordination.awaiting_iff {proposal : TwoPhaseProposal}
    (coordination : Coordination codecs now engine proposal exchanges after)
    (waiting : engine.state = .awaitingProposal) :
    after.state = .awaitingProposal ↔ (.checkProposal proposal.proposalId, .ok ()) ∉ exchanges ∧
      (.rejectProposal proposal.proposalId, .ok ()) ∉ exchanges := by
  cases coordination with
  | started => simp
  | rejected completion =>
    cases completion with
    | refused decided =>
      cases decided
      simp [waiting]
    | announced decided =>
      cases decided
      simp [settle]

theorem Transition.awaiting_iff_keepsWaiting (transition : Transition codecs now engine
    (.handleProposalUpdate (.proposalCreated (some proposal)))
    exchanges after)
    (waiting : engine.state = .awaitingProposal) :
    after.state = .awaitingProposal ↔ KeepsWaiting codecs engine proposal exchanges := by
  have free (current : TwoPhaseProposal) : engine.state ≠ .evaluatingProposal current := by
    simp [waiting]
  have given {other : Proposal}
      (delivered : handed (.proposalCreated (some proposal)) = some other) :
      other = proposal := by
    injection delivered with same
    exact same.symm
  cases transition with
  | ignored ignores =>
    rw [iff_true_left waiting]
    rcases ignores with backlogged | unreadable | ⟨verifiers, _, _, evaluating⟩
    · exact Or.inl ((isBacklogged_iff engine proposal.id).mp backlogged)
    · exact Or.inr (Or.inl unreadable)
    · rw [evaluatingProposal_eq_true_iff] at evaluating
      obtain ⟨current, other, _⟩ := evaluating
      exact (free current other).elim
  | emptyRejected delivered fresh readable =>
    obtain rfl := given delivered
    rw [isBacklogged_eq_false_iff] at fresh
    rw [keepsWaiting_iff_of_empty fresh readable]
    simp
  | emptyRejectFailed delivered fresh readable =>
    obtain rfl := given delivered
    rw [isBacklogged_eq_false_iff] at fresh
    rw [keepsWaiting_iff_of_empty fresh readable]
    simp [waiting]
  | proposalBacklogged delivered fresh readable sameId _ situation =>
    obtain rfl := given delivered
    rw [isBacklogged_eq_false_iff] at fresh
    rw [keepsWaiting_iff_of_least fresh readable]
    refine iff_of_true waiting (Or.inl ?_)
    rcases situation with ⟨current, evaluating, _⟩ | ⟨_, foreign⟩
    · exact (free current evaluating).elim
    · exact foreign
  | proposalCoordinated delivered fresh readable sameId _ _ own coordination =>
    obtain rfl := given delivered
    rw [isBacklogged_eq_false_iff] at fresh
    rw [keepsWaiting_iff_of_least fresh readable, coordination.awaiting_iff waiting, sameId]
    constructor
    · exact Or.inr
    · exact fun situation => situation.resolve_left (fun foreign => foreign own)

theorem Completion.awaiting (completion : Completion codecs engine id result exchanges after)
    (waiting : after.state = .awaitingProposal) :
    engine.state = .awaitingProposal := by
  cases completion with
  | refused _ => exact waiting
  | announced _ => cases waiting

theorem Coordination.awaiting {proposal : TwoPhaseProposal}
    (coordination : Coordination codecs now engine proposal exchanges after)
    (waiting : after.state = .awaitingProposal) :
    engine.state = .awaitingProposal := by
  cases coordination with
  | started => cases waiting
  | rejected completion => exact completion.awaiting waiting

theorem Transition.awaiting_cases (transition : Transition codecs now engine input exchanges after)
    (waiting : after.state = .awaitingProposal) :
    engine.state = .awaitingProposal ∧ input ≠ .handleProposalUpdate (.proposalCreated none) ∨
      engine.state = .idle ∧ exchanges.countP isCreation = 1 ∧ input = .getNextProposal := by
  have proposed {update : ProposalUpdate} {proposal : Proposal}
      (delivered : handed update = some proposal) :
      Input.handleProposalUpdate update ≠ .handleProposalUpdate (.proposalCreated none) := by
    intro same
    injection same with equal
    rw [equal] at delivered
    cases delivered
  cases transition with
  | creationRequested idle _ => exact Or.inr ⟨idle, rfl, rfl⟩
  | ignored ignores =>
    refine Or.inl ⟨waiting, ?_⟩
    rintro rfl
    exact ignores waiting
  | timedOut evaluating _ completion =>
    have earlier := completion.awaiting waiting
    exact Or.inl ⟨earlier, nofun⟩
  | voteFailed _ _ completion | invalidRejected _ _ completion =>
    exact Or.inl ⟨completion.awaiting waiting, nofun⟩
  | voteCompleted _ _ _ completion => cases completion.awaiting waiting
  | coordinated _ _ coordination => exact Or.inl ⟨coordination.awaiting waiting, nofun⟩
  | proposalCoordinated delivered _ _ _ _ _ _ coordination =>
    exact Or.inl ⟨coordination.awaiting waiting, proposed delivered⟩
  | emptyRejectFailed delivered _ _ | proposalBacklogged delivered _ _ _ _ _ =>
    exact Or.inl ⟨waiting, proposed delivered⟩
  | drainFailed _ _ _ | creationFailed _ _ | requestBacklogged _ _
  | requestFailed _ _ _ | applyFailed _ _ | rejectedOther _ _
  | rejectFailed _ | verifiedSent _ _ | failedSent _ _ => exact Or.inl ⟨waiting, nofun⟩
  | _ => cases waiting

end Transitions

end TwoPhaseEngine

namespace Node

/-- An engine that awaits a proposal has asked for one that was not reported. -/
def Outstanding (node : Node) : Prop := node.engine.state = .awaitingProposal →
    reports node.history < creations node.history

instance : DecidablePred Outstanding := fun _ =>
  inferInstanceAs (Decidable (_ → _))

/-- A creation is started when all reports are accounted for, and a report
that leaves the engine waiting is not the last outstanding one. -/
def Accounts (codecs : Codecs) (before : Node) (record : Record) : Prop :=
  ((∃ exchange ∈ record.exchanges, isCreation exchange = true) →
    reports before.history ≤ creations before.history) ∧
    (before.engine.state = .awaitingProposal → ∀ proposal, record.input =
      .handleProposalUpdate (.proposalCreated (some proposal)) →
      KeepsWaiting codecs before.engine proposal record.exchanges →
      reports before.history + 1 < creations before.history)

section Step

variable {codecs : Codecs} {before after : Node} {record : Record}

theorem Outstanding.step_iff (outstanding : before.Outstanding)
    (step : Step codecs before record after) :
    after.Outstanding ↔ before.Accounts codecs record := by
  have transition := step.transition
  have counts : creations after.history =
      creations before.history + record.exchanges.countP isCreation ∧
      reports after.history = reports before.history +
        if reportsCreation record.input then 1 else 0 := by
    rw [step.2]
    constructor
    · simp [creations]
    · simp [reports, List.countP_cons]
  constructor
  · intro held
    constructor
    · rintro ⟨exchange, member, creation⟩
      obtain ⟨_, input, waiting, single⟩ := transition.of_creation member creation
      have more := held waiting
      rw [counts.1, counts.2, input, single] at more
      simp only [reportsCreation] at more
      omega
    · intro waiting proposal input keeps
      rw [input] at transition
      have more := held ((transition.awaiting_iff_keepsWaiting waiting).mpr keeps)
      have none : record.exchanges.countP isCreation = 0 := by
        rw [List.countP_eq_zero]
        intro exchange member creation
        have idle := (transition.of_creation member creation).1
        rw [waiting] at idle
        cases idle
      rw [counts.1, counts.2, input, none] at more
      simpa [reportsCreation] using more
  · rintro ⟨started, reported⟩ waiting
    rw [counts.1, counts.2]
    rcases transition.awaiting_cases waiting with
      ⟨earlier, unreported⟩ | ⟨_, single, input⟩
    · have before := outstanding earlier
      by_cases reporting : reportsCreation record.input = true
      · obtain ⟨given, input⟩ := (reportsCreation_iff record.input).mp reporting
        match given with
        | none => exact (unreported input).elim
        | some proposal =>
          rw [input] at transition
          have keeps := (transition.awaiting_iff_keepsWaiting earlier).mp waiting
          have more := reported earlier proposal input keeps
          rw [if_pos reporting]
          omega
      · rw [if_neg reporting]
        omega
    · have positive : 0 < record.exchanges.countP isCreation := by omega
      have accounted := started (List.countP_pos_iff.mp positive)
      rw [single, input]
      simp only [reportsCreation, Bool.false_eq_true, if_false]
      omega

end Step

/-- The engine waits only while a creation is outstanding, in every state of a
run, exactly if every handler call of the run accounts for its creations. -/
theorem awaiting_outstanding_iff
    (codecs : Codecs) (coordinatorTimeoutDuration : Nat) (start : Instant)
    (self : PeerId) (peerIds : List PeerId) (path : List (Node × Record)) (last : Node)
    (run : Run (Step codecs) (boot coordinatorTimeoutDuration start self peerIds) path last) :
    Run.Throughout Outstanding path last ↔
      Run.Meets (fun node record => node.Accounts codecs record) path :=
  Run.forall_states_iff Outstanding (fun node record => node.Accounts codecs record) run nofun
    fun _ _ _ outstanding step => outstanding.step_iff step

def creation : List Action :=
  [Action.ok .getNextProposal, Action.ok
    (.handleProposalUpdate (.proposalCreated (some { Proposal.default with id := ⟨[7]⟩ })))]

/-- The coordinator of the created proposal accounts for it. -/
theorem awaiting_outstanding_iff_coordinator :
    Run.Meets (fun node record => node.Accounts .protobuf record)
      ((boot 30000 0 ⟨[1]⟩ [⟨[2]⟩]).path .protobuf creation) := by
  refine
    (awaiting_outstanding_iff .protobuf 30000 0 ⟨[1]⟩ [⟨[2]⟩] _ _
      (run_performAll .protobuf _ creation)).mp ?_
  decide +kernel

/-- Another peer coordinates the created proposal, and the engine goes on
waiting although nothing is outstanding. -/
theorem awaiting_without_creation : ∃ path last,
      Run (Step .protobuf) (boot 30000 0 ⟨[2]⟩ [⟨[1]⟩]) path last ∧
        last.engine.state = .awaitingProposal ∧
        creations last.history = 1 ∧ reports last.history = 1 := by
  refine ⟨_, _, run_performAll .protobuf _ creation, ?_⟩
  decide +kernel

end Node

end Splinter.TwoPhase
