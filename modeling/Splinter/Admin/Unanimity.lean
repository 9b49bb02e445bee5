import Splinter.Admin.Ledger

/-!
# Unanimous acceptance

The source compares the set of voters with the set of members, so a vote that is
not set counts as an acceptance, and a vote of a node that is no member blocks the
proposal for good.
-/

namespace Splinter.Admin

open Library AdminServiceShared SharedCall
open Protos (CircuitManagementPayload CircuitProposal)

/-- Every member but the requester has accepted, and nobody has rejected. -/
def Unanimous (proposal : CircuitProposal) : Prop :=
  (∀ member ∈ memberIds proposal, member ≠ proposal.requesterNodeId → ∃ vote ∈ proposal.votes,
    vote.voterNodeId = member ∧ vote.vote = .accept) ∧
    ∀ vote ∈ proposal.votes, vote.vote ≠ .reject

instance (proposal : CircuitProposal) : Decidable (Unanimous proposal) := by
  unfold Unanimous
  infer_instance

def ProperVotes (proposal : CircuitProposal) : Prop := ∀ vote ∈ proposal.votes,
    vote.vote ≠ .unsetVote ∧ vote.voterNodeId ∈ memberIds proposal

instance (proposal : CircuitProposal) : Decidable (ProperVotes proposal) := by
  unfold ProperVotes
  infer_instance

theorem checkApproved_eq_accepted_iff (proposal : CircuitProposal) :
    AdminServiceShared.checkApproved proposal = .accepted ↔
      (∀ vote ∈ proposal.votes, vote.vote ≠ .reject) ∧
        ∀ node, node ≠ proposal.requesterNodeId ∧ node ∈ memberIds proposal ↔
          node ∈ voters proposal := by
  have sameNodes : (memberIds proposal).toFinset.erase proposal.requesterNodeId =
      (voters proposal).toFinset ↔
      ∀ node, node ≠ proposal.requesterNodeId ∧ node ∈ memberIds proposal ↔
        node ∈ voters proposal := by
    simp only [Finset.ext_iff, Finset.mem_erase, List.mem_toFinset]
  rw [← sameNodes]
  unfold checkApproved
  dsimp only
  split
  · rename_i rejected
    obtain ⟨vote, member, isReject⟩ := List.any_eq_true.mp rejected
    simp only [reduceCtorEq, false_iff, not_and]
    exact fun none => (none vote member (of_decide_eq_true isReject)).elim
  · rename_i notRejected
    have none : ∀ vote ∈ proposal.votes, vote.vote ≠ .reject := by
      intro vote member isReject
      exact notRejected (List.any_eq_true.mpr ⟨vote, member, decide_eq_true isReject⟩)
    split
    · rename_i same
      exact iff_of_true rfl ⟨none, same⟩
    · rename_i different
      exact iff_of_false (by simp) fun both => different both.2

theorem checkApproved_eq_accepted_iff_unanimous {proposal : CircuitProposal}
    (proper : ProperVotes proposal) (notRequester : proposal.requesterNodeId ∉ voters proposal) :
    AdminServiceShared.checkApproved proposal = .accepted ↔ Unanimous proposal := by
  rw [checkApproved_eq_accepted_iff]
  constructor
  · rintro ⟨none, same⟩
    refine ⟨fun member isMember notRequester => ?_, none⟩
    have voted := (same member).mp ⟨notRequester, isMember⟩
    obtain ⟨vote, present, rfl⟩ := List.mem_map.mp voted
    refine ⟨vote, present, rfl, ?_⟩
    cases shape : vote.vote with
    | accept => rfl
    | reject => exact (none vote present shape).elim
    | unsetVote => exact ((proper vote present).1 shape).elim
  · rintro ⟨accepted, none⟩
    refine ⟨none, fun node => ⟨fun ⟨other, isMember⟩ => ?_, fun voted => ?_⟩⟩
    · obtain ⟨vote, present, rfl, _⟩ := accepted node isMember other
      exact List.mem_map.mpr ⟨vote, present, rfl⟩
    · obtain ⟨vote, present, rfl⟩ := List.mem_map.mp voted
      exact ⟨fun same => notRequester (same ▸ voted), (proper vote present).2⟩

/-! ## The proposals for one circuit -/

/-- A proposal is stored for a circuit or would create it. -/
def Concerns (circuitId : String) (proposal : CircuitProposal) : Prop :=
  proposal.circuitId = circuitId ∨ proposal.getCircuitProposal.circuitId = circuitId

structure ProposalFor (circuitId : String) (proposal : CircuitProposal) :
    Prop where
  named : proposal.circuitId = circuitId
  circuitNamed : proposal.getCircuitProposal.circuitId = circuitId
  valid : Valid proposal.getCircuitProposal
  notRequester : proposal.requesterNodeId ∉ voters proposal

namespace AdminServiceShared

/-- A circuit that is being voted on is not created yet, and its proposal is
stored under its name. -/
def Tracks (circuitId : String) (shared : AdminServiceShared) : Prop :=
  ∀ name proposal, shared.Open name proposal → Concerns circuitId proposal →
    name = circuitId ∧ ProposalFor circuitId proposal ∧ circuitId ∉ shared.records.circuits

variable {circuitId : String} {formats : Formats}
  {before after : AdminServiceShared} {call : SharedCall}

theorem proposalFor_of_pending {context : CircuitProposalContext} (tracks : before.Tracks circuitId)
    (upToDate : before.UpToDate) (pending : before.pendingChanges = some context)
    (concerns : Concerns circuitId context.circuitProposal) :
    ProposalFor circuitId context.circuitProposal ∧ circuitId ∉ before.records.circuits := by
  cases upToDate context pending with
  | @created circuit _ _ _ notCreated valid =>
    have named : circuit.circuitId = circuitId := concerns.elim (fun same => same) fun same => same
    subst named
    exact ⟨⟨rfl, rfl, valid, List.not_mem_nil⟩, notCreated⟩
  | @voted openProposal proposalVote header isOpen notRequester notVoted =>
    obtain ⟨_, proposalFor, notCreated⟩ := tracks _ _ isOpen concerns
    refine ⟨⟨proposalFor.named, proposalFor.circuitNamed, proposalFor.valid, ?_⟩, notCreated⟩
    intro voted
    rw [voters, List.map_append, List.mem_append] at voted
    rcases voted with earlier | now
    · exact proposalFor.notRequester earlier
    · exact notRequester (List.mem_singleton.mp now)

theorem created_cases_of_effect (effect : SharedCall.Effect formats before after call)
    (notCreated : circuitId ∉ before.records.circuits)
    (created : circuitId ∈ after.records.circuits) :
    ∃ around context, call = .commit around ∧ before.pendingChanges = some context ∧
      checkApproved context.circuitProposal = .accepted ∧
      context.circuitProposal.getCircuitProposal.circuitId = circuitId := by
  cases effect with
  | submitted same _ | refused same _ | proposed _ same _ =>
    exact (notCreated (same ▸ created)).elim
  | nothingPending _ same _ | rolledBack same _ => exact (notCreated (same ▸ created)).elim
  | @committed around context pending committed _ =>
    obtain ⟨circuit, found⟩ := Finmap.mem_iff.mp created
    rcases committed.circuit_cases found with
      earlier | ⟨rfl, approved, built⟩
    · exact (notCreated (Finmap.mem_iff.mpr ⟨circuit, earlier⟩)).elim
    · exact ⟨around, context, rfl, pending, approved, (parts_of_stateCircuit built).1.symm⟩

end AdminServiceShared

/-- The votes on a proposal for the circuit that is committed are proper. -/
def SharedCall.CommitsProperly (circuitId : String) (before : AdminServiceShared) :
    SharedCall → Prop
  | .commit _ =>
    ∀ context, before.pendingChanges = some context →
      context.circuitProposal.circuitId = circuitId → ProperVotes context.circuitProposal
  | .submit _ _ | .proposeChange _ _ | .rollback => True

section Step

variable {circuitId : String} {formats : Formats}
  {before after : AdminServiceShared} {call : SharedCall}

theorem records_of_accepting_commit {around : Surroundings} {context : CircuitProposalContext}
    (pending : before.pendingChanges = some context)
    (approved : AdminServiceShared.checkApproved context.circuitProposal = .accepted)
    (proposalFor : ProposalFor circuitId context.circuitProposal)
    (taken : SharedCall.Step formats before (.commit around) after) :
    after.records.proposals = before.records.proposals.erase circuitId ∧
      circuitId ∈ after.records.circuits := by
  have added := Ends.finalState
    (commit_pending pending (commitChange_adds formats around approved proposalFor.valid _))
  obtain ⟨built, isBuilt, inserted⟩ := added
  have named := (parts_of_stateCircuit isBuilt).1.trans proposalFor.circuitNamed
  rw [named, proposalFor.named] at inserted
  have records : after.records =
      ⟨before.records.proposals.erase circuitId,
        before.records.circuits.insert circuitId built⟩ := by
    rw [taken]
    exact inserted
  rw [records]
  exact ⟨rfl, Finmap.mem_insert.mpr (Or.inl rfl)⟩

theorem tracks_step (upToDate : before.UpToDate) (tracks : before.Tracks circuitId)
    (properly : call.CommitsProperly circuitId before)
    (taken : SharedCall.Step formats before call after) :
    after.Tracks circuitId := by
  intro name proposal isOpen concerns
  have effect := effect_of_perform formats call before
  rw [← taken] at effect
  rcases open_cases_of_effect effect isOpen with
    wasOpen | ⟨_, context, _, rfl, pending, rfl, named, approved, _⟩
  · obtain ⟨rfl, proposalFor, notCreated⟩ := tracks name proposal wasOpen concerns
    refine ⟨rfl, proposalFor, fun created => ?_⟩
    -- The commit that creates the circuit also closes its proposal.
    obtain ⟨around, context, rfl, pending, approved, creates⟩ :=
      created_cases_of_effect effect notCreated created
    obtain ⟨accepted, _⟩ := proposalFor_of_pending tracks upToDate pending (Or.inr creates)
    obtain ⟨erased, _⟩ := records_of_accepting_commit pending approved accepted taken
    obtain ⟨stored, found, _⟩ := isOpen
    rw [erased, Finmap.lookup_erase] at found
    cases found
  · obtain ⟨proposalFor, notCreated⟩ := proposalFor_of_pending tracks upToDate pending concerns
    refine ⟨named.trans proposalFor.named, proposalFor, fun created => ?_⟩
    obtain ⟨_, other, _, otherPending, accepted, _⟩ :=
      created_cases_of_effect effect notCreated created
    rw [pending] at otherPending
    cases otherPending
    rw [approved] at accepted
    cases accepted

/-- A call creates a circuit if and only if it commits its proposal after
unanimous acceptance. -/
def CreatesUnanimously (formats : Formats) (circuitId : String)
    (before : AdminServiceShared) (call : SharedCall) : Prop :=
  circuitId ∉ before.records.circuits ∧ circuitId ∈ (call.perform formats before).records.circuits ↔
    ∃ around context, call = .commit around ∧ before.pendingChanges = some context ∧
      context.circuitProposal.circuitId = circuitId ∧
      Unanimous context.circuitProposal

theorem createsUnanimously_of_properly (upToDate : before.UpToDate)
    (tracks : before.Tracks circuitId) (properly : call.CommitsProperly circuitId before) :
    CreatesUnanimously formats circuitId before call := by
  constructor
  · rintro ⟨notCreated, created⟩
    obtain ⟨around, context, rfl, pending, approved, creates⟩ := created_cases_of_effect
      (effect_of_perform formats call before) notCreated created
    obtain ⟨proposalFor, _⟩ := proposalFor_of_pending tracks upToDate pending (Or.inr creates)
    have proper := properly context pending proposalFor.named
    exact
      ⟨around, context, rfl, pending, proposalFor.named,
        (checkApproved_eq_accepted_iff_unanimous proper proposalFor.notRequester).mp approved⟩
  · rintro ⟨around, context, rfl, pending, named, unanimous⟩
    obtain ⟨proposalFor, notCreated⟩ :=
      proposalFor_of_pending tracks upToDate pending (Or.inl named)
    have proper := properly context pending named
    have approved :=
      (checkApproved_eq_accepted_iff_unanimous proper proposalFor.notRequester).mpr unanimous
    exact ⟨notCreated, (records_of_accepting_commit pending approved proposalFor rfl).2⟩

end Step

/-- In a run whose commits for a circuit are proper, the circuit is created
exactly on unanimous acceptance. -/
theorem creates_unanimously_of_properly {formats : Formats} {circuitId : String}
    {first last : AdminServiceShared} {path : List (AdminServiceShared × SharedCall)}
    (run : Run (SharedCall.Step formats) first path last)
    (nothingPending : first.pendingChanges = none)
    (unknown : ∀ name proposal, first.Open name proposal → ¬ Concerns circuitId proposal)
    (properly : Run.Meets (fun before call => call.CommitsProperly circuitId before) path) :
    Run.Meets (CreatesUnanimously formats circuitId) path := by
  have throughout : Run.Throughout
        (fun shared => shared.UpToDate ∧ shared.Tracks circuitId) path last :=
    run.guarded
      ⟨startsUpToDate nothingPending, fun name proposal isOpen concerns =>
        (unknown name proposal isOpen concerns).elim⟩
      (fun before call after held proper taken =>
        ⟨upToDate_step held.1 taken, tracks_step held.1 held.2 proper taken⟩)
      properly
  intro visited member
  obtain ⟨upToDate, tracks⟩ := throughout.1 visited member
  exact createsUnanimously_of_properly upToDate tracks (properly visited member)

/-! ## Votes on the circuit `c` -/

/-- The commit of a proposal for `c` creates the circuit without unanimous
acceptance, or does not create it in spite of it. -/
def creationDiffers (visited : AdminServiceShared × SharedCall) : Bool :=
  match visited with
  | (before, .commit around) =>
    before.pendingChanges.any fun context =>
      context.circuitProposal.circuitId = "c" && !before.splinterState.hasCircuit "c" &&
        decide (Unanimous context.circuitProposal) !=
          (SharedCall.perform .standard (.commit around)
            before).splinterState.hasCircuit "c"
  | _ => false

theorem not_createsUnanimously_of_creationDiffers {visited : AdminServiceShared × SharedCall}
    (differs : creationDiffers visited = true) :
    ¬ CreatesUnanimously .standard "c" visited.1 visited.2 := by
  obtain ⟨before, call⟩ := visited
  cases call with
  | commit around =>
    intro creates
    simp only [creationDiffers] at differs
    cases pending : before.pendingChanges with
    | none =>
      rw [pending] at differs
      cases differs
    | some context =>
      rw [pending] at differs
      simp only [Option.any_some, Bool.and_eq_true, decide_eq_true_eq,
        Bool.not_eq_true', bne_iff_ne] at differs
      obtain ⟨⟨named, notCreated⟩, differs⟩ := differs
      by_cases unanimous : Unanimous context.circuitProposal
      · have created := (creates.mpr ⟨around, context, rfl, pending, named, unanimous⟩).2
        rw [decide_eq_true unanimous] at differs
        exact differs (decide_eq_true created).symm
      · rw [decide_eq_false unanimous, ne_eq, eq_comm, Bool.not_eq_false] at differs
        obtain ⟨_, other, _, otherPending, _, otherUnanimous⟩ := creates.mp
          ⟨of_decide_eq_false notCreated, of_decide_eq_true differs⟩
        cases pending.symm.trans otherPending
        exact unanimous otherUnanimous
  | submit _ _ | proposeChange _ _ | rollback => cases differs

theorem not_createsUnanimously_of_votes (votes : List (String × Protos.CircuitProposalVote.Vote))
    (listed : votes ∈ [[("b", .unsetVote)], [("z", .accept), ("b", .accept)]]) :
    ∃ path last, Run (SharedCall.Step .standard) (emptyNode "a") path last ∧
      path.map Prod.snd = voting ["a", "b"] votes ∧
      ¬ Run.Meets (CreatesUnanimously .standard "c") path := by
  have run := run_performAll .standard (voting ["a", "b"] votes) (emptyNode "a")
  have differs :
      (performAll .standard (voting ["a", "b"] votes)
        (emptyNode "a")).1.any creationDiffers = true := by
    simp only [List.mem_cons, List.not_mem_nil, or_false] at listed
    rcases listed with rfl | rfl
    · decide +kernel
    · decide +kernel
  obtain ⟨visited, member, differs⟩ := List.any_eq_true.mp differs
  refine ⟨_, _, run, map_snd_performAll .standard _ _, fun creates => ?_⟩
  exact not_createsUnanimously_of_creationDiffers differs (creates visited member)

/-- The unset vote of `b` creates the circuit of `a` and `b`; and after a vote
of `z`, which is not a member, the acceptance of `b` does not. -/
theorem creation_differs_from_unanimity :
    (∃ path last, Run (SharedCall.Step .standard) (emptyNode "a") path last ∧
        path.map Prod.snd = voting ["a", "b"] [("b", .unsetVote)] ∧
        ¬ Run.Meets (CreatesUnanimously .standard "c") path) ∧
      ∃ path last, Run (SharedCall.Step .standard) (emptyNode "a") path last ∧ path.map Prod.snd =
            voting ["a", "b"] [("z", .accept), ("b", .accept)] ∧
          ¬ Run.Meets (CreatesUnanimously .standard "c") path :=
  ⟨not_createsUnanimously_of_votes _ (by simp), not_createsUnanimously_of_votes _ (by simp)⟩

def pendingProper (visited : AdminServiceShared × SharedCall) : Bool :=
  visited.1.pendingChanges.all fun context =>
    decide (ProperVotes context.circuitProposal)

/-- The acceptance of `b` creates the circuit of `a` and `b`. -/
theorem creates_unanimously_of_properly_accepted : ∃ path last,
      Run (SharedCall.Step .standard) (emptyNode "a") path last ∧
        last.splinterState.hasCircuit "c" = true ∧
        Run.Meets (CreatesUnanimously .standard "c") path := by
  have run := run_performAll .standard (voting ["a", "b"] [("b", .accept)]) (emptyNode "a")
  refine ⟨_, _, run, by decide +kernel, ?_⟩
  apply creates_unanimously_of_properly run rfl
  · rintro name proposal ⟨_, found, _⟩
    cases found
  · have checked :
        (performAll .standard (voting ["a", "b"] [("b", .accept)])
          (emptyNode "a")).1.all pendingProper = true := by
      decide +kernel
    intro visited member
    have proper := List.all_eq_true.mp checked visited member
    cases shape : visited.2 with
    | commit around =>
      intro context pending _
      unfold pendingProper at proper
      rw [pending] at proper
      exact of_decide_eq_true proper
    | submit _ _ | proposeChange _ _ | rollback => trivial

end Splinter.Admin
