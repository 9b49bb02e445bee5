import Splinter.Library.Queue
import Splinter.TwoPhase.Transition

/-!
# The proposals an engine keeps

An engine keeps a proposal while it evaluates it or has it in its backlog.
This module says how one transition changes what is kept: where a proposal
comes from, when it is checked, and when it is let go.
-/

namespace Splinter.TwoPhase

open Library Consensus
open TwoPhaseProposal (hasId hasCoordinator)

namespace TwoPhaseEngine

/-- The proposal is under evaluation. -/
def Evaluates (engine : TwoPhaseEngine) (id : ProposalId) : Prop :=
  ∃ proposal, engine.state = .evaluatingProposal proposal ∧ proposal.proposalId = id

def backloggedIds (engine : TwoPhaseEngine) : List ProposalId :=
  engine.proposalBacklog.map TwoPhaseProposal.proposalId

/-- The proposal is under evaluation or backlogged. -/
def Keeps (engine : TwoPhaseEngine) (id : ProposalId) : Prop :=
  engine.Evaluates id ∨ id ∈ engine.backloggedIds

/-- The input hands the proposal with the given identifier to the engine. -/
def Hands (input : Input) (id : ProposalId) : Prop := ∃ update proposal,
    input = .handleProposalUpdate update ∧ handed update = some proposal ∧ proposal.id = id

def handedId : Input → Option ProposalId
  | .handleProposalUpdate update => (handed update).map Proposal.id
  | _ => none

theorem hands_iff (input : Input) (id : ProposalId) :
    Hands input id ↔ handedId input = some id := by
  cases input <;> simp [Hands, handedId]

instance (input : Input) (id : ProposalId) : Decidable (Hands input id) :=
  decidable_of_iff' _ (hands_iff input id)

/-- The backlog holds distinct proposals, none of them under evaluation and
none with a vote counted. -/
structure WellKept (engine : TwoPhaseEngine) : Prop where
  distinct : engine.backloggedIds.Nodup
  separate : ∀ id, engine.Evaluates id → id ∉ engine.backloggedIds
  unvoted : ∀ proposal ∈ engine.proposalBacklog, proposal.peersVerified = ∅

variable {engine after : TwoPhaseEngine} {proposal : TwoPhaseProposal} {codecs : Codecs}
  {exchanges : List Exchange}

theorem evaluates_of_state (evaluating : engine.state = .evaluatingProposal proposal) :
    engine.Evaluates proposal.proposalId :=
  ⟨proposal, evaluating, rfl⟩

theorem eq_of_evaluates {id other : ProposalId} (evaluates : engine.Evaluates id)
    (same : engine.Evaluates other) :
    id = other := by
  obtain ⟨proposal, evaluating, rfl⟩ := evaluates
  obtain ⟨current, evaluated, rfl⟩ := same
  injection evaluating.symm.trans evaluated with equal
  rw [equal]

theorem evaluatingProposal_eq_true_iff (engine : TwoPhaseEngine) (id : ProposalId) :
    engine.evaluatingProposal id = true ↔ engine.Evaluates id :=
  evaluatingProposal_iff engine id

theorem isBacklogged_iff (engine : TwoPhaseEngine) (id : ProposalId) :
    engine.isBacklogged id = true ↔ id ∈ engine.backloggedIds := by
  simp [isBacklogged, backloggedIds, hasId]

theorem isBacklogged_eq_false_iff (engine : TwoPhaseEngine) (id : ProposalId) :
    engine.isBacklogged id = false ↔ id ∉ engine.backloggedIds := by
  rw [← isBacklogged_iff, Bool.not_eq_true]

section Lookup

variable {engine : TwoPhaseEngine} {proposal : TwoPhaseProposal}
  {id : ProposalId} {wanted : TwoPhaseProposal → Bool}

theorem proposalId_of_find? (found : engine.proposalBacklog.find? (hasId id) = some proposal) :
    proposal.proposalId = id := by
  simpa [hasId] using List.find?_some found

theorem coordinatorId_of_find? {peer : PeerId}
    (found : engine.proposalBacklog.find? (hasCoordinator peer) = some proposal) :
    proposal.coordinatorId = peer := by
  simpa [hasCoordinator] using List.find?_some found

theorem mem_backloggedIds_of_find? (found : engine.proposalBacklog.find? wanted = some proposal) :
    proposal.proposalId ∈ engine.backloggedIds :=
  List.mem_map_of_mem (List.mem_of_find?_eq_some found)

theorem notMem_withoutBacklogged (kept : engine.WellKept)
    (found : engine.proposalBacklog.find? wanted = some proposal) :
    proposal.proposalId ∉ (engine.withoutBacklogged wanted).backloggedIds :=
  key_notMem_eraseP_of_find? TwoPhaseProposal.proposalId kept.distinct found

end Lookup

@[simp]
theorem mem_backloggedIds_backlog
    (engine : TwoPhaseEngine) (proposal : TwoPhaseProposal) (id : ProposalId) :
    id ∈ (engine.backlog proposal).backloggedIds ↔
      id ∈ engine.backloggedIds ∨ id = proposal.proposalId := by
  simp [backlog, backloggedIds]

/-! ## Transitions keep the backlog in order -/

section

variable (kept : engine.WellKept)
include kept

section

variable (shrunk : after.proposalBacklog.Sublist engine.proposalBacklog)
include shrunk

theorem WellKept.of_sublist (separate : ∀ id, after.Evaluates id → id ∉ after.backloggedIds) :
    after.WellKept where
  distinct := kept.distinct.sublist (shrunk.map TwoPhaseProposal.proposalId)
  separate := separate
  unvoted := fun proposal member =>
    kept.unvoted proposal (shrunk.subset member)

theorem WellKept.of_not_evaluating (free : ∀ proposal, after.state ≠ .evaluatingProposal proposal) :
    after.WellKept := by
  refine kept.of_sublist shrunk ?_
  rintro id ⟨proposal, evaluating, _⟩
  exact (free proposal evaluating).elim

theorem WellKept.of_evaluating (evaluating : after.state = .evaluatingProposal proposal)
    (absent : proposal.proposalId ∉ after.backloggedIds) :
    after.WellKept := by
  refine kept.of_sublist shrunk ?_
  rintro id ⟨current, currentEvaluating, rfl⟩
  rw [evaluating] at currentEvaluating
  injection currentEvaluating with same
  rw [← same]
  exact absent

end

theorem WellKept.backlog (fresh : ¬ engine.Keeps proposal.proposalId)
    (unvoted : proposal.peersVerified = ∅) :
    (engine.backlog proposal).WellKept where
  distinct := by
    have absent : proposal.proposalId ∉ engine.backloggedIds := fun member => fresh (Or.inr member)
    have disjoint : engine.backloggedIds.Disjoint [proposal.proposalId] := by
      rw [List.disjoint_singleton]
      exact absent
    simp only [TwoPhaseEngine.backlog, backloggedIds, List.map_append, List.map_cons, List.map_nil]
    exact kept.distinct.append (List.nodup_singleton _) disjoint
  separate := by
    intro id evaluates member
    rw [mem_backloggedIds_backlog] at member
    rcases member with member | same
    · exact kept.separate id evaluates member
    · subst same
      exact fresh (Or.inl evaluates)
  unvoted := by
    intro candidate member
    simp only [TwoPhaseEngine.backlog, List.mem_append, List.mem_singleton] at member
    rcases member with member | same
    · exact kept.unvoted candidate member
    · rw [same]
      exact unvoted

theorem WellKept.completion {id : ProposalId} {result : ProposalResult}
    (completion : Completion codecs engine id result exchanges after) :
    after.WellKept := by
  cases completion with
  | refused _ => exact kept
  | announced _ => exact kept.of_not_evaluating (List.Sublist.refl _) (by simp [settle])

theorem WellKept.coordination {now : Instant} (fresh : proposal.proposalId ∉ engine.backloggedIds)
    (coordination : Coordination codecs now engine proposal exchanges after) :
    after.WellKept := by
  cases coordination with
  | started => exact kept.of_evaluating (List.Sublist.refl _) rfl fresh
  | rejected completion => exact kept.completion completion

theorem WellKept.transition {now : Instant} {input : Input}
    (transition : Transition codecs now engine input exchanges after) :
    after.WellKept := by
  have absent {proposal : TwoPhaseProposal}
      (evaluating : engine.state = .evaluatingProposal proposal) :
      proposal.proposalId ∉ engine.backloggedIds :=
    kept.separate _ (evaluates_of_state evaluating)
  cases transition with
  | timedOut evaluating _ completion =>
    refine WellKept.completion ?_ completion
    exact kept.of_evaluating (List.Sublist.refl _) evaluating (absent evaluating)
  | drained _ _ found =>
    exact kept.of_evaluating List.eraseP_sublist rfl (notMem_withoutBacklogged kept found)
  | drainFailed idle _ _ =>
    exact kept.of_not_evaluating List.eraseP_sublist (by simp [withoutBacklogged, idle])
  | coordinated idle found coordination =>
    refine WellKept.coordination ?_ (notMem_withoutBacklogged kept found) coordination
    exact kept.of_not_evaluating List.eraseP_sublist (by simp [withoutBacklogged, idle])
  | requested _ _ found =>
    exact kept.of_evaluating List.eraseP_sublist rfl (notMem_withoutBacklogged kept found)
  | voteCounted _ evaluating _ | verificationRequested evaluating _ =>
    have fresh := absent evaluating
    exact kept.of_evaluating (List.Sublist.refl _) rfl fresh
  | voteCompleted _ evaluating _ completion =>
    refine WellKept.completion ?_ completion
    have fresh := absent evaluating
    exact kept.of_evaluating (List.Sublist.refl _) rfl fresh
  | voteFailed _ _ completion | invalidRejected _ _ completion => exact kept.completion completion
  | creationRequested _ _ | applied _ _ | rejected _ _ | nothingCreated _
  | emptyRejected _ _ _ => exact kept.of_not_evaluating (List.Sublist.refl _) (by simp)
  | requestBacklogged _ _ => exact kept.of_sublist (List.Sublist.refl _) kept.separate
  | proposalBacklogged delivered fresh readable sameId unvoted situation =>
    refine kept.backlog ?_ unvoted
    rw [sameId]
    rw [isBacklogged_eq_false_iff] at fresh
    rintro (⟨current, evaluating, same⟩ | member)
    · rcases situation with ⟨other, otherEvaluating, different⟩ | ⟨free, _⟩
      · rw [evaluating] at otherEvaluating
        injection otherEvaluating with equal
        exact different (equal ▸ same)
      · exact free current evaluating
    · exact fresh member
  | proposalCoordinated _ fresh _ sameId _ _ _ coordination =>
    rw [isBacklogged_eq_false_iff, ← sameId] at fresh
    exact kept.coordination fresh coordination
  | ignored _ | creationFailed _ _ | requestFailed _ _ _ | applyFailed _ _
  | rejectedOther _ _ | rejectFailed _ | emptyRejectFailed _ _ _
  | verifiedSent _ _ | failedSent _ _ => exact kept

end

/-! ## Where kept proposals come from -/

/-- The input delivers a proposal which the engine would track as `tracked`. -/
def Delivers (codecs : Codecs) (engine : TwoPhaseEngine) (input : Input)
    (tracked : TwoPhaseProposal) : Prop :=
  ∃ update proposal, input = .handleProposalUpdate update ∧ handed update = some proposal ∧
    engine.verifiers codecs proposal = .ok tracked.requiredVerifiers ∧
    tracked.proposalId = proposal.id ∧ tracked.peersVerified = ∅

/-- The input is a vote of `voter` for the proposal under evaluation: a
VERIFIED response, or the validity of a proposal the engine coordinates. -/
def Votes (codecs : Codecs) (engine : TwoPhaseEngine) (input : Input)
    (proposal : TwoPhaseProposal) (voter : PeerId) : Prop :=
  (∃ message, input = .handleConsensusMsg message ∧ meaning codecs message.message =
    .response proposal.proposalId .verified ∧
    message.originId = voter) ∨
    input = .handleProposalUpdate (.proposalValid proposal.proposalId) ∧
      engine.id = proposal.coordinatorId ∧ engine.id = voter

section Proposals

variable {codecs : Codecs} {now : Instant} {engine after : TwoPhaseEngine}
  {input : Input} {exchanges : List Exchange} {id : ProposalId} {tracked : TwoPhaseProposal}

theorem Delivers.hands (delivers : Delivers codecs engine input tracked) :
    Hands input tracked.proposalId := by
  obtain ⟨update, proposal, shape, delivered, _, sameId, _⟩ := delivers
  exact ⟨update, proposal, shape, delivered, sameId.symm⟩

variable {result : ProposalResult} {proposal : TwoPhaseProposal} {answer : Answer}

theorem unvoted_of_source (kept : engine.WellKept)
    (source : proposal ∈ engine.proposalBacklog ∨ Delivers codecs engine input proposal) :
    proposal.peersVerified = ∅ := by
  rcases source with member | ⟨_, _, _, _, _, _, unvoted⟩
  · exact kept.unvoted proposal member
  · exact unvoted

theorem Completion.proposalBacklog_eq
    (completion : Completion codecs engine id result exchanges after) :
    after.proposalBacklog = engine.proposalBacklog := by
  cases completion <;> rfl

theorem Coordination.proposalBacklog_eq
    (coordination : Coordination codecs now engine proposal exchanges after) :
    after.proposalBacklog = engine.proposalBacklog := by
  cases coordination with
  | started => rfl
  | rejected completion => exact completion.proposalBacklog_eq

theorem Transition.proposalBacklog_cases
    (transition : Transition codecs now engine input exchanges after)
    (member : proposal ∈ after.proposalBacklog) :
    proposal ∈ engine.proposalBacklog ∨ Delivers codecs engine input proposal := by
  cases transition with
  | timedOut _ _ completion | voteCompleted _ _ _ completion
  | voteFailed _ _ completion | invalidRejected _ _ completion =>
    rw [completion.proposalBacklog_eq] at member
    exact Or.inl member
  | coordinated _ _ coordination =>
    rw [coordination.proposalBacklog_eq] at member
    exact Or.inl (List.mem_of_mem_eraseP member)
  | drained _ _ _ | drainFailed _ _ _ | requested _ _ _ =>
    exact Or.inl (List.mem_of_mem_eraseP member)
  | proposalBacklogged delivered _ readable sameId unvoted _ =>
    simp only [TwoPhaseEngine.backlog, List.mem_append, List.mem_singleton] at member
    rcases member with earlier | same
    · exact Or.inl earlier
    · subst same
      exact Or.inr ⟨_, _, rfl, delivered, readable, sameId, unvoted⟩
  | proposalCoordinated _ _ _ _ _ _ _ coordination =>
    rw [coordination.proposalBacklog_eq] at member
    exact Or.inl member
  | _ => exact Or.inl member

theorem Completion.state_cases (completion : Completion codecs engine id result exchanges after)
    (evaluating : after.state = .evaluatingProposal proposal) :
    engine.state = .evaluatingProposal proposal := by
  cases completion with
  | refused _ => exact evaluating
  | announced _ => simp [settle] at evaluating

theorem Coordination.state_cases
    (coordination : Coordination codecs now engine tracked exchanges after)
    (evaluating : after.state = .evaluatingProposal proposal) :
    engine.state = .evaluatingProposal proposal ∨ proposal = tracked ∧
      exchanges = [(.checkProposal proposal.proposalId, .ok ())] := by
  cases coordination with
  | started =>
    injection evaluating with same
    subst same
    exact Or.inr ⟨rfl, rfl⟩
  | rejected completion => exact Or.inl (completion.state_cases evaluating)

section

variable (transition : Transition codecs now engine input exchanges after)
include transition

/-- A proposal under evaluation was so before, perhaps with a vote less, or
has just been checked and comes from the backlog or from the input. -/
theorem Transition.state_cases (evaluating : after.state = .evaluatingProposal proposal) :
    engine.state = .evaluatingProposal proposal ∨
      (∃ earlier voter, engine.state = .evaluatingProposal earlier ∧
        proposal = earlier.addVerifiedPeer voter ∧
        Votes codecs engine input earlier voter) ∨
      exchanges = [(.checkProposal proposal.proposalId, .ok ())] ∧
        (proposal ∈ engine.proposalBacklog ∨ Delivers codecs engine input proposal) := by
  cases transition with
  | timedOut _ _ completion | voteFailed _ _ completion
  | invalidRejected _ _ completion => exact Or.inl (completion.state_cases evaluating)
  | voteCompleted received counting _ completion =>
    have counted := completion.state_cases evaluating
    injection counted with same
    exact Or.inr <| Or.inl ⟨_, _, counting, same.symm, Or.inl ⟨_, rfl, received, rfl⟩⟩
  | voteCounted received counting _ =>
    injection evaluating with same
    exact Or.inr <| Or.inl ⟨_, _, counting, same.symm, Or.inl ⟨_, rfl, received, rfl⟩⟩
  | verificationRequested counting own =>
    injection evaluating with same
    exact Or.inr <| Or.inl ⟨_, _, counting, same.symm, Or.inr ⟨rfl, own, rfl⟩⟩
  | drained _ _ found | requested _ _ found =>
    injection evaluating with same
    subst same
    refine Or.inr <| Or.inr ⟨?_, Or.inl (List.mem_of_find?_eq_some found)⟩
    rw [proposalId_of_find? found]
  | coordinated _ found coordination =>
    rcases coordination.state_cases evaluating with unchanged | ⟨rfl, checked⟩
    · exact Or.inl unchanged
    · exact Or.inr <| Or.inr ⟨checked, Or.inl (List.mem_of_find?_eq_some found)⟩
  | proposalCoordinated delivered _ readable sameId unvoted _ _ coordination =>
    rcases coordination.state_cases evaluating with unchanged | ⟨rfl, checked⟩
    · exact Or.inl unchanged
    · exact Or.inr <| Or.inr ⟨checked, Or.inr ⟨_, _, rfl, delivered, readable, sameId, unvoted⟩⟩
  | creationRequested _ _ | applied _ _ | rejected _ _ | nothingCreated _
  | emptyRejected _ _ _ => simp at evaluating
  | _ => exact Or.inl evaluating

theorem Transition.evaluates_cases (evaluates : after.Evaluates id) :
    engine.Evaluates id ∨ exchanges = [(.checkProposal id, .ok ())] := by
  obtain ⟨proposal, evaluating, rfl⟩ := evaluates
  rcases transition.state_cases evaluating with
    unchanged | ⟨earlier, voter, counting, rfl, _⟩ | ⟨checked, _⟩
  · exact Or.inl (evaluates_of_state unchanged)
  · exact Or.inl ⟨earlier, counting, rfl⟩
  · exact Or.inr checked

theorem Transition.backloggedIds_cases (member : id ∈ after.backloggedIds) :
    id ∈ engine.backloggedIds ∨ Hands input id := by
  obtain ⟨proposal, proposalMember, rfl⟩ := List.mem_map.mp member
  rcases transition.proposalBacklog_cases proposalMember with
    earlier | delivers
  · exact Or.inl (List.mem_map_of_mem earlier)
  · exact Or.inr delivers.hands

end

/-! ## Checks -/

theorem Completion.checkProposal_notMem {checked : ProposalId}
    (completion : Completion codecs engine id result exchanges after) :
    (.checkProposal checked, answer) ∉ exchanges := by
  cases completion with
  | refused decided | announced decided => cases result <;> cases decided <;> simp

theorem Coordination.of_checkProposal
    (coordination : Coordination codecs now engine proposal exchanges after)
    (member : (.checkProposal id, answer) ∈ exchanges) :
    id = proposal.proposalId ∧ (answer = .ok () → after.Evaluates id) := by
  cases coordination with
  | started =>
    simp only [List.mem_singleton, Prod.mk.injEq, Call.checkProposal.injEq] at member
    exact ⟨member.1, fun _ => ⟨proposal, rfl, member.1.symm⟩⟩
  | rejected completion =>
    rw [List.mem_cons] at member
    rcases member with same | later
    · simp only [Prod.mk.injEq, Call.checkProposal.injEq] at same
      refine ⟨same.1, ?_⟩
      intro passed
      rw [passed] at same
      cases same.2
    · exact (completion.checkProposal_notMem later).elim

/-- A check concerns a backlogged proposal or one just delivered; when it
succeeds, the engine evaluates the proposal. -/
theorem Transition.of_checkProposal
    (transition : Transition codecs now engine input exchanges after)
    (member : (.checkProposal id, answer) ∈ exchanges) :
    (id ∈ engine.backloggedIds ∨ ∃ tracked, Delivers codecs engine input tracked ∧
      tracked.proposalId = id) ∧
      (answer = .ok () → after.Evaluates id) := by
  cases transition with
  | timedOut _ _ completion | voteCompleted _ _ _ completion
  | voteFailed _ _ completion | invalidRejected _ _ completion =>
    exact (completion.checkProposal_notMem member).elim
  | drained _ _ found | requested _ _ found =>
    simp only [List.mem_singleton, Prod.mk.injEq, Call.checkProposal.injEq] at member
    obtain ⟨rfl, -⟩ := member
    have sameId := proposalId_of_find? found
    refine ⟨Or.inl ?_, fun _ => ⟨_, rfl, sameId⟩⟩
    rw [← sameId]
    exact mem_backloggedIds_of_find? found
  | drainFailed _ _ found | requestFailed _ _ found =>
    simp only [List.mem_singleton, Prod.mk.injEq, Call.checkProposal.injEq] at member
    obtain ⟨rfl, rfl⟩ := member
    refine ⟨Or.inl ?_, nofun⟩
    rw [← proposalId_of_find? found]
    exact mem_backloggedIds_of_find? found
  | coordinated _ found coordination =>
    obtain ⟨same, passed⟩ := coordination.of_checkProposal member
    refine ⟨Or.inl ?_, passed⟩
    rw [same]
    exact mem_backloggedIds_of_find? found
  | proposalCoordinated delivered _ readable sameId unvoted _ _ coordination =>
    obtain ⟨same, passed⟩ := coordination.of_checkProposal member
    refine ⟨Or.inr ⟨_, ?_, same.symm⟩, passed⟩
    exact ⟨_, _, rfl, delivered, readable, sameId, unvoted⟩
  | _ => simp at member

theorem Transition.keeps_cases (transition : Transition codecs now engine input exchanges after)
    (keeps : after.Keeps id) :
    engine.Keeps id ∨ Hands input id := by
  rcases keeps with evaluates | member
  · rcases transition.evaluates_cases evaluates with earlier | checked
    · exact Or.inl (Or.inl earlier)
    · rcases (transition.of_checkProposal (by rw [checked]; exact List.mem_cons_self)).1 with
        member | ⟨tracked, delivers, rfl⟩
      · exact Or.inl (Or.inr member)
      · exact Or.inr delivers.hands
  · rcases transition.backloggedIds_cases member with earlier | hands
    · exact Or.inl (Or.inr earlier)
    · exact Or.inr hands

end Proposals

end TwoPhaseEngine

end Splinter.TwoPhase
