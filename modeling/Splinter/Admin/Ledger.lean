import Splinter.Admin.Acceptance

/-!
# The vote ledger

The votes of an open proposal come from distinct nodes and not from the requester:
a vote is checked against the stored proposal, and a pending change is always
computed from the present records.  That a voter is a member is not checked.
-/

namespace Splinter.Admin

open Library AdminServiceShared SharedCall
open Protos (CircuitManagementPayload CircuitProposal)

namespace AdminServiceShared

/-! ## The pending change is up to date -/

/-- The pending change was computed from the present records. -/
inductive Current (shared : AdminServiceShared) :
    CircuitProposalContext → Prop
  | created {circuit : Protos.Circuit} {circuitHash : String}
    {header : CircuitManagementPayload.Header} :
    circuit.circuitId ∉ shared.records.proposals →
    circuit.circuitId ∉ shared.records.circuits →
    Valid circuit →
    Current shared {
      circuitProposal := createdProposal circuit circuitHash header
      action := .circuitCreateRequest
      signerPublicKey := header.requester }
  | voted {openProposal : CircuitProposal} {proposalVote : Protos.CircuitProposalVote}
    {header : CircuitManagementPayload.Header} :
    shared.Open proposalVote.circuitId openProposal →
    openProposal.requesterNodeId ≠ header.requesterNodeId →
    header.requesterNodeId ∉ openProposal.votes.map CircuitProposal.VoteRecord.voterNodeId →
    Current shared {
      circuitProposal :=
        { openProposal with votes := openProposal.votes ++ [castVote proposalVote header] }
      action := .circuitProposalVote
      signerPublicKey := header.requester }

def UpToDate (shared : AdminServiceShared) : Prop :=
  ∀ context, shared.pendingChanges = some context → shared.Current context

variable {formats : Formats} {around : Surroundings} {before after : AdminServiceShared}
  {circuitId : String} {proposal : CircuitProposal}

theorem Open.of_same (isOpen : before.Open circuitId proposal)
    (same : after.records = before.records) :
    after.Open circuitId proposal := by
  obtain ⟨stored, found, exported⟩ := isOpen
  exact ⟨stored, same ▸ found, exported⟩

theorem Current.of_same {context : CircuitProposalContext} (current : before.Current context)
    (same : after.records = before.records) :
    after.Current context := by
  cases current with
  | created notOpen notCreated valid =>
    rw [← same] at notOpen notCreated
    exact .created notOpen notCreated valid
  | voted isOpen notRequester notVoted => exact .voted (isOpen.of_same same) notRequester notVoted

theorem current_of_proposedChange {payload : CircuitManagementPayload} {change : Change}
    (computed : before.proposedChange formats around payload = .ok change) :
    before.Current change.context := by
  obtain ⟨header, _, ⟨_, created⟩ | ⟨_, voted⟩⟩ := (proposedChange_eq_ok_iff change).mp computed
  · obtain ⟨validated, _, _, _, _, rfl⟩ := (createdChange_eq_ok_iff header change).mp created
    have creatable := creatable_of_validateCreateCircuit validated
    exact .created (of_decide_eq_false creatable.notOpen) (of_decide_eq_false creatable.notCreated)
      (valid_of_validateCircuit creatable.valid)
  · obtain ⟨openProposal, found, validated, _, _, rfl⟩ :=
      (votedChange_eq_ok_iff header change).mp voted
    have votable := votable_of_validateCircuitVote validated
    exact .voted (open_of_votedProposal found) votable.notRequester votable.notVoted

theorem upToDate_of_effect {call : SharedCall} (upToDate : before.UpToDate)
    (effect : SharedCall.Effect formats before after call) :
    after.UpToDate := by
  intro context pending
  cases effect with
  | submitted sameRecords same | refused sameRecords same =>
    rw [same] at pending
    exact (upToDate context pending).of_same sameRecords
  | proposed computed sameRecords now =>
    rw [now] at pending
    cases pending
    exact (current_of_proposedChange computed).of_same sameRecords
  | nothingPending _ _ none | committed _ _ none | rolledBack _ none =>
    rw [none] at pending
    cases pending

/-- The proposals that are open after a call were open before, unless it is a
commit that keeps the committed proposal open. -/
theorem open_cases_of_effect {call : SharedCall}
    (effect : SharedCall.Effect formats before after call)
    (isOpen : after.Open circuitId proposal) :
    before.Open circuitId proposal ∨ ∃ around context stored, call = .commit around ∧
      before.pendingChanges = some context ∧
      context.circuitProposal = proposal ∧
      circuitId = proposal.circuitId ∧
      checkApproved proposal = .pending ∧
      Messages.CircuitProposal.fromProto proposal = .ok stored := by
  cases effect with
  | submitted same _ | refused same _ | proposed _ same _ => exact Or.inl (isOpen.of_same same.symm)
  | nothingPending _ same _ | rolledBack same _ => exact Or.inl (isOpen.of_same same.symm)
  | @committed _ context pending committed _ =>
    obtain ⟨stored, found, exported⟩ := isOpen
    rcases committed.proposal_cases found with
      earlier | ⟨named, approved, converted⟩
    · exact Or.inl ⟨stored, earlier, exported⟩
    · have back := Messages.CircuitProposal.intoProto_of_fromProto converted
      have same : context.circuitProposal = proposal := Except.ok.inj (back.symm.trans exported)
      subst same
      exact Or.inr ⟨_, context, stored, rfl, pending, rfl, named, approved, converted⟩

end AdminServiceShared

/-! ## Votes -/

def voters (proposal : CircuitProposal) : List String :=
  proposal.votes.map CircuitProposal.VoteRecord.voterNodeId

def memberIds (proposal : CircuitProposal) : List String :=
  proposal.getCircuitProposal.members.map Protos.SplinterNode.nodeId

/-- Nobody has voted twice, and the requester not at all. -/
structure OneVoteEach (proposal : CircuitProposal) : Prop where
  distinct : (voters proposal).Nodup
  notRequester : proposal.requesterNodeId ∉ voters proposal

variable {shared first : AdminServiceShared} {context : CircuitProposalContext}

theorem oneVoteEach_of_current (current : shared.Current context)
    (earlier : ∀ circuitId proposal, shared.Open circuitId proposal → OneVoteEach proposal) :
    OneVoteEach context.circuitProposal := by
  cases current with
  | created _ _ _ => exact ⟨List.nodup_nil, List.not_mem_nil⟩
  | @voted openProposal proposalVote header isOpen notRequester notVoted =>
    obtain ⟨distinct, others⟩ := earlier _ _ isOpen
    have appended :
        voters { openProposal with
          votes := openProposal.votes ++ [castVote proposalVote header] } =
          voters openProposal ++ [header.requesterNodeId] := by
      simp [voters, castVote]
    constructor
    · rw [appended]
      exact List.nodup_append.mpr
        ⟨distinct, List.nodup_singleton _, fun voter voted other last => by
          rw [List.mem_singleton] at last
          subst last
          exact fun same => notVoted (same ▸ voted)⟩
    · rw [appended]
      simp only [List.mem_append, List.mem_singleton, not_or]
      exact ⟨others, notRequester⟩

namespace AdminServiceShared

/-- Only members have voted on open proposals, each once. -/
def LedgerKept (shared : AdminServiceShared) : Prop :=
  ∀ circuitId proposal, shared.Open circuitId proposal →
    OneVoteEach proposal ∧ voters proposal ⊆ memberIds proposal

end AdminServiceShared

/-- A commit that keeps its proposal open keeps votes of members. -/
def SharedCall.StoresVotesOfMembers (before : AdminServiceShared) : SharedCall → Prop
  | .commit _ =>
    ∀ context stored, before.pendingChanges = some context →
      AdminServiceShared.checkApproved context.circuitProposal = .pending →
      Messages.CircuitProposal.fromProto context.circuitProposal = .ok stored →
      voters context.circuitProposal ⊆ memberIds context.circuitProposal
  | .submit _ _ | .proposeChange _ _ | .rollback => True

variable {before after : AdminServiceShared} {call : SharedCall}

theorem open_of_commit (formats : Formats) (around : Surroundings)
    {stored : Messages.CircuitProposal} (pending : before.pendingChanges = some context)
    (approved : AdminServiceShared.checkApproved context.circuitProposal = .pending)
    (converted : Messages.CircuitProposal.fromProto context.circuitProposal = .ok stored) :
    (SharedCall.perform formats (.commit around) before).Open
      context.circuitProposal.circuitId context.circuitProposal := by
  have inserted := Ends.finalState
    (commit_pending pending (commitChange_stores formats around approved converted _))
  refine ⟨stored, ?_, Messages.CircuitProposal.intoProto_of_fromProto converted⟩
  have found := congrArg
    (fun records : AdminServiceShared.Records =>
      records.proposals.lookup context.circuitProposal.circuitId)
    inserted
  exact found.trans (Finmap.lookup_insert _)

variable {formats : Formats}

theorem startsUpToDate (nothingPending : first.pendingChanges = none) : first.UpToDate := by
  intro context pending
  rw [nothingPending] at pending
  cases pending

theorem upToDate_step (upToDate : before.UpToDate)
    (taken : SharedCall.Step formats before call after) :
    after.UpToDate :=
  upToDate_of_effect upToDate (taken ▸ effect_of_perform formats call before)

theorem oneVoteEach_step (upToDate : before.UpToDate)
    (earlier : ∀ circuitId proposal, before.Open circuitId proposal → OneVoteEach proposal)
    (taken : SharedCall.Step formats before call after)
    (circuitId : String) (proposal : CircuitProposal) (isOpen : after.Open circuitId proposal) :
    OneVoteEach proposal := by
  have effect := effect_of_perform formats call before
  rw [← taken] at effect
  rcases open_cases_of_effect effect isOpen with
    wasOpen | ⟨_, context, _, _, pending, rfl, _⟩
  · exact earlier circuitId proposal wasOpen
  · exact oneVoteEach_of_current (upToDate context pending) earlier

theorem ledgerKept_step_iff (upToDate : before.UpToDate) (kept : before.LedgerKept)
    (taken : SharedCall.Step formats before call after) :
    after.LedgerKept ↔ call.StoresVotesOfMembers before := by
  constructor
  · intro keptAfter
    cases call with
    | commit around =>
      intro context stored pending approved converted
      have isOpen := open_of_commit formats around pending approved converted
      rw [← taken] at isOpen
      exact (keptAfter _ _ isOpen).2
    | submit _ _ | proposeChange _ _ | rollback => trivial
  · intro members circuitId proposal isOpen
    have effect := effect_of_perform formats call before
    rw [← taken] at effect
    refine
      ⟨oneVoteEach_step upToDate
        (fun circuitId proposal isOpen => (kept circuitId proposal isOpen).1)
        taken circuitId proposal isOpen, ?_⟩
    rcases open_cases_of_effect effect isOpen with
      wasOpen | ⟨around, context, stored, rfl, pending, rfl, _, approved, converted⟩
    · exact (kept circuitId proposal wasOpen).2
    · exact members context stored pending approved converted

/-- In every run the votes of open proposals come from distinct nodes other
than the requester's.  They come from members throughout the run exactly if
every commit that keeps a proposal open keeps votes of members. -/
theorem ledger_kept_iff_members_vote {last : AdminServiceShared}
    {path : List (AdminServiceShared × SharedCall)}
    (run : Run (SharedCall.Step formats) first path last)
    (nothingPending : first.pendingChanges = none) (initially : first.LedgerKept) :
    Run.Throughout
        (fun shared => ∀ circuitId proposal,
          shared.Open circuitId proposal → OneVoteEach proposal) path last ∧
      (Run.Throughout AdminServiceShared.LedgerKept path last ↔
        Run.Meets (fun before call => call.StoresVotesOfMembers before) path) := by
  have started := startsUpToDate nothingPending
  constructor
  · have together : Run.Throughout
          (fun shared =>
            shared.UpToDate ∧ ∀ circuitId proposal,
              shared.Open circuitId proposal → OneVoteEach proposal)
          path last :=
      run.guarded
        ⟨started, fun circuitId proposal isOpen =>
          (initially circuitId proposal isOpen).1⟩
        (fun before call after held (_ : True) taken =>
          ⟨upToDate_step held.1 taken, oneVoteEach_step held.1 held.2 taken⟩)
        fun _ _ => trivial
    exact ⟨fun visited member => (together.1 visited member).2, together.2.2⟩
  · exact Run.throughout_iff AdminServiceShared.UpToDate AdminServiceShared.LedgerKept
        (fun before call => SharedCall.StoresVotesOfMembers before call) run
        started initially (fun _ _ _ => upToDate_step)
        fun _ _ _ upToDate kept taken =>
          ledgerKept_step_iff upToDate kept taken

/-! ## Votes on the circuit `c` -/

/-- The circuit `c` with some nodes, requested by node `a`. -/
def requestFor (nodes : List String) : CircuitManagementPayload :=
  createPayload (simpleCircuit "c" nodes) (asBytes "a") "a" [1]

def voteOf (nodes : List String) (node : String)
    (vote : Protos.CircuitProposalVote.Vote) : CircuitManagementPayload :=
  votePayload
    { circuitId := "c"
      circuitHash := toHex
        (Sha2.sha256.hash (Protos.Codecs.protobuf.circuit.write (simpleCircuit "c" nodes)))
      vote := vote }
    (asBytes node) node [1]

/-- The request is opened and votes on it are committed one after the
other. -/
def voting (nodes : List String)
    (votes : List (String × Protos.CircuitProposalVote.Vote)) : List SharedCall :=
  proposeAndCommit .working (requestFor nodes) ++ votes.flatMap fun vote =>
    proposeAndCommit .working (voteOf nodes vote.1 vote.2)

/-- The proposal that is open under a name has a vote of no member. -/
def outsiderVoted (shared : AdminServiceShared) (circuitId : String) : Bool :=
  match shared.votedProposal circuitId with
  | .ok proposal => !decide (voters proposal ⊆ memberIds proposal)
  | .error _ => false

theorem not_ledgerKept_of_outsiderVoted {circuitId : String}
    (voted : outsiderVoted shared circuitId = true) :
    ¬ shared.LedgerKept := by
  intro kept
  unfold outsiderVoted at voted
  split at voted
  · rename_i proposal found
    have isOpen := open_of_votedProposal found
    rw [Bool.not_eq_true', decide_eq_false_iff_not] at voted
    exact voted (kept circuitId proposal isOpen).2
  · cases voted

theorem emptyNode_ledgerKept (nodeId : String) : (emptyNode nodeId).LedgerKept := by
  rintro circuitId proposal ⟨_, found, _⟩
  cases found

/-- Node `z`, which is not a member, votes on the circuit of `a` and `b`. -/
theorem outsider_in_ledger : ∃ path last,
      Run (SharedCall.Step .standard) (emptyNode "a") path last ∧ ¬ last.LedgerKept := by
  have run := run_performAll .standard (voting ["a", "b"] [("z", .accept)]) (emptyNode "a")
  have voted : outsiderVoted
        (performAll .standard (voting ["a", "b"] [("z", .accept)])
          (emptyNode "a")).2 "c" = true := by
    decide +kernel
  exact ⟨_, _, run, not_ledgerKept_of_outsiderVoted voted⟩

def pendingOfMembers (visited : AdminServiceShared × SharedCall) : Bool :=
  visited.1.pendingChanges.all fun context =>
    decide (voters context.circuitProposal ⊆ memberIds context.circuitProposal)

theorem storesVotesOfMembers_of_pendingOfMembers {visited : AdminServiceShared × SharedCall}
    (ofMembers : pendingOfMembers visited = true) :
    visited.2.StoresVotesOfMembers visited.1 := by
  cases shape : visited.2 with
  | commit around =>
    intro context stored pending _ _
    unfold pendingOfMembers at ofMembers
    rw [pending] at ofMembers
    exact of_decide_eq_true ofMembers
  | submit _ _ | proposeChange _ _ | rollback => trivial

/-- The vote of `b` on a circuit of `a`, `b` and `d` is recorded. -/
theorem ledger_kept_iff_members_vote_open : ∃ path last,
      Run (SharedCall.Step .standard) (emptyNode "a") path last ∧ last.hasProposal "c" = true ∧
        Run.Throughout AdminServiceShared.LedgerKept path last := by
  have run := run_performAll .standard (voting ["a", "b", "d"] [("b", .accept)]) (emptyNode "a")
  refine ⟨_, _, run, by decide +kernel, ?_⟩
  apply (ledger_kept_iff_members_vote run rfl (emptyNode_ledgerKept "a")).2.mpr
  have checked :
      (performAll .standard (voting ["a", "b", "d"] [("b", .accept)])
        (emptyNode "a")).1.all pendingOfMembers = true := by
    decide +kernel
  exact fun visited member =>
    storesVotesOfMembers_of_pendingOfMembers (List.all_eq_true.mp checked visited member)

end Splinter.Admin
