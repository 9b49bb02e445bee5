import Splinter.TwoPhase.Simulation
import Splinter.TwoPhase.Wire

/-!
# Agreement

The global invariant of a system of two-phase engines.  Decisions are
announced by the coordinator of a proposal only, at most once; every other
decision is taken from an announcement; and an announced acceptance is backed
by the endorsement of every required verifier.
-/

namespace Splinter.TwoPhase

open Library Consensus TwoPhaseEngine

/-- The manager has reported the proposal as valid. -/
def Validated (history : List Record) (id : ProposalId) : Prop := ∃ record ∈ history,
    record.input = .handleProposalUpdate (.proposalValid id)

def Invalidated (history : List Record) (id : ProposalId) : Prop := ∃ record ∈ history,
    record.input = .handleProposalUpdate (.proposalInvalid id)

/-- The engine has received a result of the proposal. -/
def Informed (codecs : Codecs) (history : List Record) (id : ProposalId) : Prop :=
  ∃ record ∈ history, ∃ message result, record.input = .handleConsensusMsg message ∧
    meaning codecs message.message = .result id result

def resultFor (codecs : Codecs) : Input → Option ProposalId
  | .handleConsensusMsg message =>
    match meaning codecs message.message with
    | .result decidedId _ => some decidedId
    | _ => none
  | _ => none

theorem resultFor_eq_some_iff (codecs : Codecs) (input : Input) (id : ProposalId) :
    resultFor codecs input = some id ↔ ∃ message result, input = .handleConsensusMsg message ∧
      meaning codecs message.message = .result id result := by
  cases input with
  | handleConsensusMsg message =>
    cases read : meaning codecs message.message <;>
      simp [resultFor, read, eq_comm]
  | _ => simp [resultFor]

instance (codecs : Codecs) (history : List Record) (id : ProposalId) :
    Decidable (Informed codecs history id) :=
  decidable_of_iff (∃ record ∈ history, resultFor codecs record.input = some id)
    (by simp only [Informed, resultFor_eq_some_iff])

/-- The two envelopes bring results for one proposal to one node. -/
def Competing (codecs : Codecs) (left right : Envelope) : Prop :=
  left.destination = right.destination ∧ ∃ id leftResult rightResult,
    meaning codecs left.message.message = .result id leftResult ∧
      meaning codecs right.message.message = .result id rightResult

theorem Competing.symm {codecs : Codecs} {left right : Envelope}
    (competing : Competing codecs left right) :
    Competing codecs right left := by
  obtain ⟨same, id, leftResult, rightResult, leftRead, rightRead⟩ := competing
  exact ⟨same.symm, id, rightResult, leftResult, rightRead, leftRead⟩

namespace System

section Invariant

variable (network : Network) (codecs : Codecs) (system : System)

/-- The peer is a node whose manager found the proposal valid, and it is the
coordinator or has told the coordinator. -/
def Endorses (peer : PeerId) (id : ProposalId) : Prop :=
  peer ∈ network.nodes ∧ Validated (system.node peer).history id ∧
    (peer = network.coordinator id ∨ Called (system.node peer).history
      (responseCall codecs (network.coordinator id) id .verified))

def Announced (id : ProposalId) (result : ProposalResult) : Prop :=
  Called (system.node (network.coordinator id)).history (resultCall codecs id result)

/-- A result of the proposal is under way to the peer. -/
def UnderWay (id : ProposalId) (result : ProposalResult) (peer : PeerId) : Prop :=
  ∃ envelope ∈ system.inFlight, envelope.destination = peer ∧
    meaning codecs envelope.message.message = .result id result

/-- What every node knows about the proposals it keeps. -/
structure Informs : Prop where
  id : ∀ peer, (system.node peer).engine.id = peer
  regular : ∀ peer, (system.node peer).Regular codecs
  timer : ∀ peer, (system.node peer).engine.OwnsTimer
  evaluating : ∀ peer proposal, (system.node peer).engine.state = .evaluatingProposal proposal →
    proposal.requiredVerifiers = network.verifiers proposal.proposalId
  backlogged : ∀ peer, ∀ proposal ∈ (system.node peer).engine.proposalBacklog,
    proposal.requiredVerifiers = network.verifiers proposal.proposalId
  votes : ∀ peer proposal, (system.node peer).engine.state = .evaluatingProposal proposal →
    ∀ voter ∈ proposal.peersVerified, system.Endorses network codecs voter proposal.proposalId
  verdict : ∀ peer id, verdicts (system.node peer).history id ≤
    answered (system.node peer).history (.checkProposal id, .ok ())

structure Truthful : Prop where
  response : ∀ envelope ∈ system.inFlight, ∀ id response,
    meaning codecs envelope.message.message = .response id response →
    envelope.destination = network.coordinator id ∧
      (response = .verified → system.Endorses network codecs envelope.message.originId id)
  result : ∀ envelope ∈ system.inFlight, ∀ id result,
    meaning codecs envelope.message.message = .result id result →
    envelope.destination ≠ network.coordinator id ∧ system.Announced network codecs id result
  single : system.inFlight.Pairwise fun left right =>
    ¬ Competing codecs left right

structure Decisive : Prop where
  announced : ∀ peer id result, Called (system.node peer).history (resultCall codecs id result) →
    peer = network.coordinator id ∧
      (result = .apply → ∀ verifier ∈ network.verifiers id,
        system.Endorses network codecs verifier id)
  decided : ∀ peer id result call, decisionCall id result = some call →
    Called (system.node peer).history call →
    system.Announced network codecs id result
  informed : ∀ peer id, Informed codecs (system.node peer).history id →
    (∃ result, system.Announced network codecs id result) ∧
      ∀ envelope ∈ system.inFlight, envelope.destination = peer → ∀ result,
        meaning codecs envelope.message.message ≠ .result id result
  prepared : ∀ peer id coordinator, peer ≠ network.coordinator id →
    Called (system.node peer).history (responseCall codecs coordinator id .verified) →
    ¬ Informed codecs (system.node peer).history id →
    (system.node peer).engine.Evaluates id

structure Consistent : Prop where
  informs : system.Informs network codecs
  truthful : system.Truthful network codecs
  decisive : system.Decisive network codecs

end Invariant

/-! ## Histories grow -/

section Growth

variable {network : Network} {codecs : Codecs} {before after : System} {event : PeerId × Record}
  {peer : PeerId} {call : Call}

section

variable (step : Step network codecs before event after)
include step

theorem Step.mem_history_cases {record : Record} (member : record ∈ (after.node peer).history) :
    record ∈ (before.node peer).history ∨ peer = event.1 ∧ record = event.2 := by
  by_cases same : peer = event.1
  · subst same
    rw [step.taken.2, List.mem_append, List.mem_singleton] at member
    rcases member with earlier | now
    · exact Or.inl earlier
    · exact Or.inr ⟨rfl, now⟩
  · rw [step.others peer same] at member
    exact Or.inl member

theorem Step.mem_history {record : Record} (member : record ∈ (before.node peer).history) :
    record ∈ (after.node peer).history := by
  by_cases same : peer = event.1
  · subst same
    rw [step.taken.2]
    exact List.mem_append_left _ member
  · rw [step.others peer same]
    exact member

theorem Step.record_mem : event.2 ∈ (after.node event.1).history := by
  rw [step.taken.2]
  exact List.mem_append_right _ (List.mem_singleton.mpr rfl)

theorem Step.called (called : Called (before.node peer).history call) :
    Called (after.node peer).history call := by
  obtain ⟨record, member, made⟩ := called
  exact ⟨record, step.mem_history member, made⟩

theorem Step.called_cases (called : Called (after.node peer).history call) :
    Called (before.node peer).history call ∨
      peer = event.1 ∧ ∃ answer, (call, answer) ∈ event.2.exchanges := by
  obtain ⟨record, member, made⟩ := called
  rcases step.mem_history_cases member with earlier | ⟨same, rfl⟩
  · exact Or.inl ⟨record, earlier, made⟩
  · exact Or.inr ⟨same, made⟩

theorem Step.network_called_cases (sent : isNetworkCall call = true)
    (called : Called (after.node peer).history call) :
    Called (before.node peer).history call ∨
      peer = event.1 ∧ call ∈ outgoing event.2.exchanges := by
  rcases step.called_cases called with earlier | ⟨same, made⟩
  · exact Or.inl earlier
  · exact Or.inr ⟨same, (mem_outgoing_iff _ _).mpr ⟨sent, made⟩⟩

theorem Step.called_of_outgoing (sent : call ∈ outgoing event.2.exchanges) :
    Called (after.node event.1).history call :=
  ⟨event.2, step.record_mem, ((mem_outgoing_iff _ _).mp sent).2⟩

theorem Step.endorses {id : ProposalId} (endorses : before.Endorses network codecs peer id) :
    after.Endorses network codecs peer id := by
  obtain ⟨member, ⟨record, past, valid⟩, told⟩ := endorses
  refine ⟨member, ⟨record, step.mem_history past, valid⟩, ?_⟩
  rcases told with own | sent
  · exact Or.inl own
  · exact Or.inr (step.called sent)

theorem Step.mem_inFlight_cases {envelope : Envelope} (member : envelope ∈ after.inFlight) :
    envelope ∈ before.inFlight ∨ envelope ∈ network.emitted event.1 event.2.exchanges := by
  obtain ⟨remaining, receives, shape⟩ := step.inFlight
  rw [shape, List.mem_append] at member
  rcases member with earlier | sent
  · exact Or.inl (receives.sublist.subset earlier)
  · exact Or.inr sent

theorem Step.envelope_of_message {message : ConsensusMessage}
    (input : event.2.input = .handleConsensusMsg message) :
    ∃ envelope ∈ before.inFlight, envelope.destination = event.1 ∧ envelope.message = message ∧
      after.inFlight = before.inFlight.erase envelope ++
        network.emitted event.1 event.2.exchanges := by
  obtain ⟨remaining, receives, shape⟩ := step.inFlight
  generalize event.2.input = given at receives input
  cases receives with
  | message member destination =>
    injection input with same
    exact ⟨_, member, destination, same, shape⟩
  | own other => exact (other message input).elim

variable {id : ProposalId} {result : ProposalResult}

theorem Step.underWay_of_announced (announced : resultCall codecs id result ∈
      outgoing event.2.exchanges) (member : peer ∈ network.nodes) (other : peer ≠ event.1) :
    after.UnderWay codecs id result peer := by
  obtain ⟨remaining, _, shape⟩ := step.inFlight
  refine ⟨⟨peer, ⟨_, event.1⟩⟩, ?_, rfl, meaning_resultMessage codecs id result⟩
  rw [shape]
  refine List.mem_append_right _ (List.mem_flatMap.mpr ⟨_, announced, ?_⟩)
  rw [mem_envelopes_iff]
  exact ⟨rfl, Or.inr ⟨rfl, member, other⟩⟩

theorem Step.underWay_or_informed (underWay : before.UnderWay codecs id result peer) :
    after.UnderWay codecs id result peer ∨ Informed codecs (after.node peer).history id := by
  obtain ⟨envelope, waiting, addressed, read⟩ := underWay
  obtain ⟨remaining, receives, shape⟩ := step.inFlight
  by_cases still : envelope ∈ remaining
  · refine Or.inl ⟨envelope, ?_, addressed, read⟩
    rw [shape]
    exact List.mem_append_left _ still
  · -- it is the message that this step handles
    right
    generalize handled : event.2.input = input at receives
    cases receives with
    | own _ => exact (still waiting).elim
    | @message other _ destination =>
      have same : envelope = other := by
        by_contra different
        exact still ((List.mem_erase_of_ne different).mpr waiting)
      subst same
      obtain rfl : event.1 = peer := destination.symm.trans addressed
      exact ⟨event.2, step.record_mem, _, result, handled, read⟩

end

end Growth

/-! ## One step at one node -/

section Local

variable {network : Network} {codecs : Codecs} {before after : System} {event : PeerId × Record}
  {proposal : TwoPhaseProposal} {result : ProposalResult} {id : ProposalId} {peer : PeerId}

theorem coordinatorId_eq
    (required : proposal.requiredVerifiers = network.verifiers proposal.proposalId) :
    proposal.coordinatorId = network.coordinator proposal.proposalId := by
  have lowest := proposal.lowest
  rw [required] at lowest
  exact lowest.unique ((network.verifiers proposal.proposalId).isLeast_min' (network.nonempty _))

variable {engine : TwoPhaseEngine} {input : Input} {first last : System}
  {path : List (System × (PeerId × Record))} {history : List Record}

theorem verdicts_append (history : List Record) (record : Record) (id : ProposalId) :
    verdicts (history ++ [record]) id = verdicts history id + verdicts [record] id := by
  simp [verdicts]

theorem verdicts_singleton_cases (record : Record) (id : ProposalId) : verdicts [record] id = 0 ∨
    verdicts [record] id = 1 ∧
      (record.input = .handleProposalUpdate (.proposalValid id) ∨
        record.input = .handleProposalUpdate (.proposalInvalid id)) := by
  by_cases verdict : record.input = .handleProposalUpdate (.proposalValid id) ∨
    record.input = .handleProposalUpdate (.proposalInvalid id)
  · exact Or.inr ⟨by simp [verdicts, verdict], verdict⟩
  · exact Or.inl (by simpa [verdicts] using verdict)

theorem evaluates_of_endorsing {now : Instant} {after : TwoPhaseEngine}
    {exchanges : List Exchange} {coordinator : PeerId} (kept : engine.WellKept)
    (transition : Transition codecs now engine input exchanges after)
    (endorsing : responseCall codecs coordinator id .verified ∈ outgoing exchanges) :
    after.Evaluates id := by
  have shape := transition.outgoing_cases kept
  generalize outgoing exchanges = sent at endorsing shape
  cases shape with
  | nothing => cases endorsing
  | request _ _ _ | result _ _ => simp [requestCall, resultCall, responseCall] at endorsing
  | failed _ _ _ _ => simp at endorsing
  | verified evaluating _ _ unchanged =>
    rw [List.mem_singleton, responseCall_inj] at endorsing
    rw [unchanged]
    exact ⟨_, evaluating, endorsing.2.1.symm⟩

section

variable (step : Step network codecs before event after)
include step

theorem Step.delivers_required
    (delivers : Delivers codecs (before.node event.1).engine event.2.input proposal) :
    proposal.requiredVerifiers = network.verifiers proposal.proposalId := by
  obtain ⟨update, given, input, delivered, readable, sameId, _⟩ := delivers
  have common := step.assumed.sameVerifiers update given input delivered
  rw [readable] at common
  injection common with same
  rw [same, sameId]

theorem Step.not_unverifiable :
    ¬ Unverifiable codecs (before.node event.1).engine event.2.input := by
  rintro ⟨update, given, input, delivered, unreadable⟩
  have common := step.assumed.sameVerifiers update given input delivered
  rw [unreadable] at common
  injection common with same
  have nonempty := network.nonempty given.id
  rw [← same] at nonempty
  exact Finset.not_nonempty_empty nonempty

theorem Step.forall_nodes (holds : PeerId → Node → Prop)
    (earlier : ∀ peer, holds peer (before.node peer))
    (acting : holds event.1 (after.node event.1)) :
    ∀ peer, holds peer (after.node peer) := by
  intro peer
  by_cases same : peer = event.1
  · rw [same]
    exact acting
  · rw [step.others peer same]
    exact earlier peer

end

section

variable (consistent : before.Consistent network codecs)
  (step : Step network codecs before event after)
include consistent step

/-- A decision is made at the coordinator, and on an acceptance every required
verifier has endorsed the proposal. -/
theorem Consistent.decides
    (decides : Decides codecs (before.node event.1).engine proposal event.2.input result) :
    event.1 = network.coordinator proposal.proposalId ∧
      (result = .apply → ∀ verifier ∈ network.verifiers proposal.proposalId,
        before.Endorses network codecs verifier proposal.proposalId) := by
  have informs := consistent.informs
  have self := informs.id event.1
  generalize shape : event.2.input = input at decides
  cases decides with
  | timedOut evaluating running =>
    obtain ⟨current, currentEvaluating, own⟩ := informs.timer event.1 running
    rw [evaluating] at currentEvaluating
    injection currentEvaluating with same
    subst same
    rw [coordinatorId_eq (informs.evaluating _ _ evaluating), self] at own
    exact ⟨own, nofun⟩
  | verified evaluating received complete =>
    obtain ⟨envelope, member, destination, rfl, _⟩ := step.envelope_of_message shape
    obtain ⟨addressed, endorsed⟩ := consistent.truthful.response envelope member _ _ received
    refine ⟨destination.symm.trans addressed, ?_⟩
    intro _ verifier required
    rw [← informs.evaluating _ _ evaluating, ← complete, Finset.mem_insert] at required
    rcases required with origin | counted
    · subst origin
      exact endorsed rfl
    · exact informs.votes _ _ evaluating verifier counted
  | failed evaluating received =>
    obtain ⟨envelope, member, destination, rfl, _⟩ := step.envelope_of_message shape
    obtain ⟨addressed, _⟩ := consistent.truthful.response envelope member _ _ received
    exact ⟨destination.symm.trans addressed, nofun⟩
  | invalid evaluating own =>
    rw [coordinatorId_eq (informs.evaluating _ _ evaluating), self] at own
    exact ⟨own, nofun⟩
  | unchecked own source =>
    subst shape
    have required : proposal.requiredVerifiers = network.verifiers proposal.proposalId := by
      rcases source with member | delivers
      · exact informs.backlogged event.1 proposal member
      · exact step.delivers_required delivers
    rw [coordinatorId_eq required, self] at own
    exact ⟨own, nofun⟩

theorem Consistent.announces
    (announced : resultCall codecs id result ∈ outgoing event.2.exchanges) :
    event.1 = network.coordinator id ∧
      (result = .apply → ∀ verifier ∈ network.verifiers id,
        before.Endorses network codecs verifier id) ∧
      ∀ other, ¬ before.Announced network codecs id other := by
  have regular := consistent.informs.regular event.1
  obtain ⟨_, _, proposal, rfl, decides⟩ :=
    step.taken.transition.of_resultCall regular.wellKept announced
  obtain ⟨own, endorsed⟩ := consistent.decides step decides
  refine ⟨own, endorsed, ?_⟩
  intro other earlier
  rw [Announced, ← own] at earlier
  exact regular.announced_absent step.taken step.assumed.handsOnce announced earlier

theorem Consistent.not_strays :
    ¬ Strays codecs (before.node event.1).engine event.2.input event.2.exchanges := by
  rintro ⟨running, results | unverifiable⟩
  · obtain ⟨message, id, result, call, input, received, evaluates, _⟩ := results
    obtain ⟨envelope, member, destination, rfl, _⟩ := step.envelope_of_message input
    obtain ⟨elsewhere, _⟩ := consistent.truthful.result envelope member id result received
    obtain ⟨current, evaluating, own⟩ := consistent.informs.timer event.1 running
    obtain ⟨same, sameEvaluating, rfl⟩ := evaluates
    rw [evaluating] at sameEvaluating
    injection sameEvaluating with equal
    subst equal
    have required := consistent.informs.evaluating _ _ evaluating
    rw [coordinatorId_eq required, consistent.informs.id] at own
    exact elsewhere (destination.trans own)
  · exact step.not_unverifiable unverifiable.1

/-! ## The invariant is preserved -/

theorem Consistent.required_step
    (source : proposal ∈ (before.node event.1).engine.proposalBacklog ∨
      Delivers codecs (before.node event.1).engine event.2.input proposal) :
    proposal.requiredVerifiers = network.verifiers proposal.proposalId := by
  rcases source with member | delivers
  · exact consistent.informs.backlogged event.1 proposal member
  · exact step.delivers_required delivers

theorem Consistent.endorses_of_votes {voter : PeerId}
    (evaluating : (before.node event.1).engine.state = .evaluatingProposal proposal)
    (votes : Votes codecs (before.node event.1).engine event.2.input proposal voter) :
    after.Endorses network codecs voter proposal.proposalId := by
  have informs := consistent.informs
  rcases votes with ⟨message, input, received, rfl⟩ | ⟨input, own, rfl⟩
  · obtain ⟨envelope, member, _, rfl, _⟩ := step.envelope_of_message input
    have truth := consistent.truthful.response envelope member _ _ received
    exact step.endorses (truth.2 rfl)
  · rw [informs.id] at own ⊢
    refine ⟨step.member, ⟨event.2, step.record_mem, input⟩, Or.inl ?_⟩
    rw [own]
    exact coordinatorId_eq (informs.evaluating _ _ evaluating)

theorem Consistent.informs_step : after.Informs network codecs := by
  have informs := consistent.informs
  have transition := step.taken.transition
  have kept := (informs.regular event.1).wellKept
  constructor
  case id =>
    refine step.forall_nodes (fun peer node => node.engine.id = peer) informs.id ?_
    exact transition.id_eq.trans (informs.id event.1)
  case regular =>
    refine step.forall_nodes (fun _ node => node.Regular codecs) informs.regular ?_
    exact (informs.regular event.1).step step.taken step.assumed.handsOnce
  case timer =>
    refine step.forall_nodes (fun _ node => node.engine.OwnsTimer) informs.timer ?_
    exact (informs.timer event.1).transition kept transition (consistent.not_strays step)
  case evaluating =>
    intro peer proposal evaluating
    by_cases same : peer = event.1
    · subst same
      rcases transition.state_cases evaluating with
        unchanged | ⟨earlier, voter, counting, rfl, _⟩ | ⟨_, source⟩
      · exact informs.evaluating _ _ unchanged
      · have required := informs.evaluating _ _ counting
        exact required
      · exact consistent.required_step step source
    · rw [step.others peer same] at evaluating
      exact informs.evaluating peer proposal evaluating
  case backlogged =>
    intro peer proposal member
    by_cases same : peer = event.1
    · subst same
      exact consistent.required_step step (transition.proposalBacklog_cases member)
    · rw [step.others peer same] at member
      exact informs.backlogged peer proposal member
  case votes =>
    intro peer proposal evaluating voter counted
    by_cases same : peer = event.1
    · subst same
      rcases transition.state_cases evaluating with
        unchanged | ⟨earlier, last, counting, rfl, votes⟩ | ⟨_, source⟩
      · exact step.endorses (informs.votes _ _ unchanged voter counted)
      · rcases Finset.mem_insert.mp counted with rfl | before
        · have endorses := consistent.endorses_of_votes step counting votes
          exact endorses
        · have endorses := informs.votes _ _ counting voter before
          exact step.endorses endorses
      · rw [unvoted_of_source kept source] at counted
        exact (Finset.notMem_empty voter counted).elim
    · rw [step.others peer same] at evaluating
      exact step.endorses (informs.votes _ _ evaluating voter counted)
  case verdict =>
    intro peer id
    by_cases same : peer = event.1
    · subst same
      have earlier := informs.verdict event.1 id
      rw [step.taken.2, verdicts_append, answered_append]
      rcases verdicts_singleton_cases event.2 id with none | ⟨one, verdict⟩
      · omega
      · have outstanding := step.assumed.oneVerdict id verdict
        omega
    · rw [step.others peer same]
      exact informs.verdict peer id

theorem Consistent.truthful_step : after.Truthful network codecs := by
  have informs := consistent.informs
  have truthful := consistent.truthful
  have transition := step.taken.transition
  have kept := (informs.regular event.1).wellKept
  constructor
  case response =>
    intro envelope member id response read
    rcases step.mem_inFlight_cases member with earlier | sent
    · obtain ⟨addressed, endorsed⟩ := truthful.response envelope earlier id response read
      exact ⟨addressed, fun verified => step.endorses (endorsed verified)⟩
    · obtain ⟨proposal, evaluating, rfl, addressed, verified⟩ :=
        response_of_mem_emitted kept transition sent read
      have coordinator := coordinatorId_eq (informs.evaluating _ _ evaluating)
      rw [coordinator] at addressed verified
      refine ⟨addressed, ?_⟩
      intro positive
      obtain ⟨valid, told⟩ := verified positive
      obtain ⟨call, _, emitted⟩ := List.mem_flatMap.mp sent
      rw [((mem_envelopes_iff call).mp emitted).1]
      exact ⟨step.member, ⟨event.2, step.record_mem, valid⟩, Or.inr (step.called_of_outgoing told)⟩
  case result =>
    intro envelope member id result read
    rcases step.mem_inFlight_cases member with earlier | sent
    · obtain ⟨elsewhere, announced⟩ := truthful.result envelope earlier id result read
      exact ⟨elsewhere, step.called announced⟩
    · obtain ⟨elsewhere, announced⟩ := result_of_mem_emitted kept transition sent read
      have own := (consistent.announces step announced).1
      rw [Announced, ← own]
      exact ⟨elsewhere, step.called_of_outgoing announced⟩
  case single =>
    obtain ⟨remaining, receives, shape⟩ := step.inFlight
    rw [shape, List.pairwise_append]
    refine ⟨truthful.single.sublist receives.sublist, ?_, ?_⟩
    · refine (emitted_pairwise kept transition).imp ?_
      intro left right different competing
      exact different competing.1
    · intro left leftMember right sent competing
      obtain ⟨_, id, leftResult, rightResult, leftRead, rightRead⟩ := competing
      have announced := (result_of_mem_emitted kept transition sent rightRead).2
      have earlier := truthful.result left (receives.sublist.subset leftMember) id leftResult
        leftRead
      exact (consistent.announces step announced).2.2 leftResult earlier.2

/-- A result that is handled has been announced, and no other result for the
proposal is under way to the node. -/
theorem Consistent.result_handled {message : ConsensusMessage}
    (input : event.2.input = .handleConsensusMsg message)
    (received : meaning codecs message.message = .result id result) :
    before.Announced network codecs id result ∧
      ∀ envelope ∈ after.inFlight, envelope.destination = event.1 → ∀ other,
        meaning codecs envelope.message.message ≠ .result id other := by
  have transition := step.taken.transition
  have kept := (consistent.informs.regular event.1).wellKept
  obtain ⟨handled, handledMember, addressed, rfl, shape⟩ := step.envelope_of_message input
  have announced := (consistent.truthful.result handled handledMember id result received).2
  refine ⟨announced, ?_⟩
  intro envelope member destination other read
  rw [shape, List.mem_append] at member
  rcases member with remaining | sent
  · have arranged := (List.perm_cons_erase handledMember).pairwise consistent.truthful.single
      fun apart competing => apart competing.symm
    have apart := (List.pairwise_cons.mp arranged).1 envelope remaining
    exact apart ⟨addressed.trans destination.symm, id, result, other, received, read⟩
  · have again := (result_of_mem_emitted kept transition sent read).2
    exact (consistent.announces step again).2.2 result announced

theorem Consistent.announced_step
    (called : Called (after.node peer).history (resultCall codecs id result)) :
    peer = network.coordinator id ∧
      (result = .apply → ∀ verifier ∈ network.verifiers id,
        after.Endorses network codecs verifier id) := by
  rcases step.network_called_cases rfl called with earlier | ⟨rfl, now⟩
  · obtain ⟨own, endorsed⟩ := consistent.decisive.announced peer id result earlier
    refine ⟨own, ?_⟩
    intro applies verifier required
    exact step.endorses (endorsed applies verifier required)
  · obtain ⟨own, endorsed, _⟩ := consistent.announces step now
    refine ⟨own, ?_⟩
    intro applies verifier required
    exact step.endorses (endorsed applies verifier required)

theorem Consistent.informed_step (informed : Informed codecs (after.node peer).history id) :
    (∃ result, after.Announced network codecs id result) ∧
      ∀ envelope ∈ after.inFlight, envelope.destination = peer → ∀ result,
        meaning codecs envelope.message.message ≠ .result id result := by
  have kept := (consistent.informs.regular event.1).wellKept
  obtain ⟨record, member, message, result, input, received⟩ := informed
  rcases step.mem_history_cases member with earlier | ⟨rfl, rfl⟩
  · obtain ⟨⟨announcedResult, announced⟩, cleared⟩ := consistent.decisive.informed peer id
      ⟨record, earlier, message, result, input, received⟩
    refine ⟨⟨announcedResult, step.called announced⟩, ?_⟩
    intro envelope envelopeMember destination other read
    rcases step.mem_inFlight_cases envelopeMember with old | sent
    · exact cleared envelope old destination other read
    · have again := (result_of_mem_emitted kept step.taken.transition sent read).2
      exact (consistent.announces step again).2.2 announcedResult announced
  · obtain ⟨announced, cleared⟩ := consistent.result_handled step input received
    exact ⟨⟨result, step.called announced⟩, cleared⟩

theorem Consistent.evaluates_step (foreign : event.1 ≠ network.coordinator id)
    (uninformed : ¬ Informed codecs (after.node event.1).history id)
    (evaluates : (before.node event.1).engine.Evaluates id) :
    (after.node event.1).engine.Evaluates id := by
  rcases step.taken.transition.of_evaluates evaluates with
    still | ⟨result, announced⟩ | ⟨message, result, input, received⟩ | unverifiable
  · exact still
  · exact (foreign (consistent.announces step announced).1).elim
  · exact (uninformed ⟨event.2, step.record_mem, message, result, input, received⟩).elim
  · exact (step.not_unverifiable unverifiable).elim

theorem Consistent.decisive_step : after.Decisive network codecs := by
  have decisive := consistent.decisive
  have transition := step.taken.transition
  have kept := (consistent.informs.regular event.1).wellKept
  constructor
  case announced =>
    intro peer id result called
    exact consistent.announced_step step called
  case decided =>
    intro peer id result call decision called
    rcases step.called_cases called with earlier | ⟨rfl, answer, made⟩
    · exact step.called (decisive.decided peer id result call decision earlier)
    · have carriedOut := step.assumed.carriedOut id result call answer decision made
      cases transition.of_decision decision made with
      | own proposal sameId decides announced =>
        have sent := announced carriedOut
        have own := (consistent.announces step sent).1
        rw [Announced, ← own]
        exact step.called_of_outgoing sent
      | told message input received _ =>
        exact step.called (consistent.result_handled step input received).1
      | unverifiable unverifiable _ => exact (step.not_unverifiable unverifiable).elim
  case informed =>
    intro peer id informed
    exact consistent.informed_step step informed
  case prepared =>
    intro peer id coordinator foreign called uninformed
    have uninformedBefore : ¬ Informed codecs (before.node peer).history id := by
      rintro ⟨record, member, read⟩
      exact uninformed ⟨record, step.mem_history member, read⟩
    by_cases same : peer = event.1
    · subst same
      rcases step.network_called_cases rfl called with earlier | ⟨_, now⟩
      · exact consistent.evaluates_step step foreign uninformed
          (decisive.prepared _ id coordinator foreign earlier uninformedBefore)
      · exact evaluates_of_endorsing kept transition now
    · rw [step.others peer same] at called ⊢
      exact decisive.prepared peer id coordinator foreign called uninformedBefore

end

theorem Consistent.step (consistent : before.Consistent network codecs)
    (step : Step network codecs before event after) : after.Consistent network codecs where
  informs := consistent.informs_step step
  truthful := consistent.truthful_step step
  decisive := consistent.decisive_step step

theorem Initial.consistent (initial : before.Initial network) :
    before.Consistent network codecs := by
  have started (peer : PeerId) : (before.node peer).history = [] ∧
      (before.node peer).engine.id = peer ∧
      (before.node peer).engine.state = .idle ∧
      (before.node peer).engine.proposalBacklog = [] ∧
      ¬ (before.node peer).engine.coordinatorTimeout.Running := by
    obtain ⟨now, shape⟩ := initial.node peer
    rw [shape]
    exact ⟨rfl, rfl, rfl, rfl, Timeout.not_running_new _ _⟩
  have uncalled (peer : PeerId) (call : Call) : ¬ Called (before.node peer).history call := by
    simp [Called, (started peer).1]
  have notKept (peer : PeerId) (id : ProposalId) : ¬ (before.node peer).engine.Keeps id := by
    obtain ⟨_, _, idle, empty, _⟩ := started peer
    simp [TwoPhaseEngine.Keeps, Evaluates, backloggedIds, idle, empty]
  have wellKept (peer : PeerId) : (before.node peer).engine.WellKept := by
    obtain ⟨now, shape⟩ := initial.node peer
    rw [shape]
    exact Node.wellKept_boot _ _ _ _
  have regular (peer : PeerId) : (before.node peer).Regular codecs := by
    constructor
    case wellKept => exact wellKept peer
    case kept_handed =>
      exact fun id keeps => (notKept peer id keeps).elim
    case checked_once => simp [(started peer).1]
    case checked_gone => simp [(started peer).1]
    case announced_gone =>
      exact fun id result called => (uncalled peer _ called).elim
    case announced_once =>
      exact fun id result other called _ => (uncalled peer _ called).elim
  constructor
  case informs =>
    constructor
    case id => exact fun peer => (started peer).2.1
    case regular => exact regular
    case timer =>
      exact fun peer => ownsTimer_of_not_running (started peer).2.2.2.2
    case evaluating => simp [(started _).2.2.1]
    case backlogged => simp [(started _).2.2.2.1]
    case votes => simp [(started _).2.2.1]
    case verdict => simp [(started _).1, verdicts]
  case truthful =>
    constructor <;> simp [initial.inFlight]
  case decisive =>
    constructor
    case announced =>
      exact fun peer id result called => (uncalled peer _ called).elim
    case decided =>
      exact fun peer id result call _ called => (uncalled peer _ called).elim
    case informed => simp [Informed, (started _).1]
    case prepared =>
      exact fun peer id coordinator _ called => (uncalled peer _ called).elim

theorem consistent_of_run (initial : first.Initial network)
    (run : Run (Step network codecs) first path last) :
    last.Consistent network codecs :=
  run.invariant initial.consistent fun _ _ _ consistent step =>
    consistent.step step

theorem acceptance_called (initial : first.Initial network)
    (run : Run (Step network codecs) first path last) {data : Option Bytes}
    (called : Called (last.node peer).history (.acceptProposal id data)) :
    data = none := by
  induction run with
  | start =>
    obtain ⟨now, shape⟩ := initial.node peer
    simp [Called, shape, Node.boot] at called
  | snoc _ step ih =>
    rcases step.called_cases called with earlier | ⟨rfl, answer, made⟩
    · exact ih earlier
    · exact step.taken.transition.acceptProposal_data made

theorem not_invalidated_of_validated (validated : Validated history id)
    (atMostOne : verdicts history id ≤ 1) :
    ¬ Invalidated history id := by
  rintro ⟨invalid, invalidMember, invalidInput⟩
  obtain ⟨valid, validMember, validInput⟩ := validated
  have same : valid = invalid := eq_of_countP_le_one atMostOne validMember (by simp [validInput])
    invalidMember (by simp [invalidInput])
  rw [same, invalidInput] at validInput
  simp at validInput

theorem Consistent.of_endorses {system : System} (consistent : system.Consistent network codecs)
    (endorses : system.Endorses network codecs peer id) :
    peer ∈ network.nodes ∧ answered (system.node peer).history (.checkProposal id, .ok ()) = 1 ∧
      Validated (system.node peer).history id ∧
      ¬ Invalidated (system.node peer).history id := by
  obtain ⟨member, validated, _⟩ := endorses
  have checked := consistent.informs.verdict peer id
  have once := (consistent.informs.regular peer).checked_once id
  have atLeastOne : 1 ≤ verdicts (system.node peer).history id := by
    obtain ⟨valid, validMember, validInput⟩ := validated
    exact List.countP_pos_iff.mpr ⟨valid, validMember, by simp [validInput]⟩
  refine ⟨member, by omega, validated, ?_⟩
  exact not_invalidated_of_validated validated (by omega)

end Local

section Results

variable (network : Network) (codecs : Codecs) (first last : System)
  (path : List (System × (PeerId × Record)))

/-- Agreement and validity: no proposal is accepted at one node and rejected
at another, and an accepted proposal was checked and found valid by each of
its required verifiers. -/
theorem agreement_and_validity (initial : first.Initial network)
    (run : Run (Step network codecs) first path last) (id : ProposalId) :
    ¬ ((∃ peer data, Called (last.node peer).history (.acceptProposal id data)) ∧
        ∃ peer, Called (last.node peer).history (.rejectProposal id)) ∧
      ((∃ peer data, Called (last.node peer).history (.acceptProposal id data)) →
        ∀ verifier ∈ network.verifiers id, verifier ∈ network.nodes ∧
            answered (last.node verifier).history (.checkProposal id, .ok ()) = 1 ∧
            Validated (last.node verifier).history id ∧
            ¬ Invalidated (last.node verifier).history id) := by
  have consistent := consistent_of_run initial run
  have accepted {peer : PeerId} {data : Option Bytes}
      (called : Called (last.node peer).history (.acceptProposal id data)) :
      last.Announced network codecs id .apply := by
    rw [acceptance_called initial run called] at called
    exact consistent.decisive.decided peer id .apply _ rfl called
  constructor
  · rintro ⟨⟨accepting, data, acceptCalled⟩, rejecting, rejectCalled⟩
    have applied := accepted acceptCalled
    have rejected := consistent.decisive.decided rejecting id .reject _ rfl rejectCalled
    have same := (consistent.informs.regular _).announced_once id .apply .reject applied rejected
    cases same
  · rintro ⟨accepting, data, acceptCalled⟩ verifier required
    have applied := accepted acceptCalled
    have endorses := (consistent.decisive.announced _ id .apply applied).2 rfl verifier required
    exact consistent.of_endorses endorses

end Results

def pair : Network where
  nodes := [⟨[1]⟩, ⟨[2]⟩]
  distinct := by decide
  peerIds := fun peer => if peer = ⟨[1]⟩ then [⟨[2]⟩] else [⟨[1]⟩]
  coordinatorTimeoutDuration := 30000
  verifiers := fun _ => {⟨[1]⟩, ⟨[2]⟩}
  nonempty := fun _ => ⟨⟨[1]⟩, by simp⟩

/-- The last input of the commit below: the APPLY of the coordinator. -/
def pairApply : PeerId × Input :=
  (⟨[2]⟩, .handleConsensusMsg
    ⟨Codecs.protobuf.twoPhaseMessage.write (resultMessage ⟨[7]⟩ .apply), ⟨[1]⟩⟩)

def pairCommit : List (PeerId × Input) :=
  [(⟨[1]⟩, .handleProposalUpdate (.proposalReceived { Proposal.default with id := ⟨[7]⟩ } ⟨[2]⟩)),
    (⟨[2]⟩, .handleProposalUpdate (.proposalCreated (some { Proposal.default with id := ⟨[7]⟩ }))),
    (⟨[1]⟩, .handleProposalUpdate (.proposalValid ⟨[7]⟩)),
    (⟨[2]⟩, .handleConsensusMsg
      ⟨Codecs.protobuf.twoPhaseMessage.write (verificationRequest ⟨[7]⟩), ⟨[1]⟩⟩),
    (⟨[2]⟩, .handleProposalUpdate (.proposalValid ⟨[7]⟩)),
    (⟨[1]⟩, .handleConsensusMsg
      ⟨Codecs.protobuf.twoPhaseMessage.write (verificationResponse ⟨[7]⟩ .verified), ⟨[2]⟩⟩),
    pairApply]

def pairAfter (count : Nat) : System :=
  (boot pair).performAll pair .protobuf (pairCommit.take count)

theorem pair_enabled (count : Nat) (bound : count ≤ 7) :
    (boot pair).enabledAll pair .protobuf (pairCommit.take count) = true := by
  have whole : ∀ smaller < 8, (boot pair).enabledAll pair .protobuf (pairCommit.take smaller) =
      true := by
    decide +kernel
  exact whole count (by omega)

theorem agreement_and_validity_pair :
    (∃ peer data, Called ((pairAfter 7).node peer).history (.acceptProposal ⟨[7]⟩ data)) ∧
      ¬ (∃ peer, Called ((pairAfter 7).node peer).history (.rejectProposal ⟨[7]⟩)) ∧
      ∀ verifier ∈ pair.verifiers ⟨[7]⟩, Validated ((pairAfter 7).node verifier).history ⟨[7]⟩ := by
  obtain ⟨path, run⟩ := run_performAll (pair_enabled 7 (by decide))
  have accepted : ∃ peer data, Called ((pairAfter 7).node peer).history
          (.acceptProposal ⟨[7]⟩ data) :=
    ⟨⟨[2]⟩, none, by decide +kernel⟩
  obtain ⟨agreement, validity⟩ :=
    agreement_and_validity pair .protobuf (boot pair) (pairAfter 7) path
      (initial_boot pair) run ⟨[7]⟩
  refine ⟨accepted, fun rejected => agreement ⟨accepted, rejected⟩, ?_⟩
  intro verifier required
  exact (validity accepted verifier required).2.2.1

section Results

variable (network : Network) (codecs : Codecs) (first last : System)
  (path : List (System × (PeerId × Record)))

/-- A verifier that has told the coordinator that a proposal is verified
evaluates it until a result arrives, and accepts it when the result is an
APPLY. -/
theorem prepared_verifier_accepts (initial : first.Initial network)
    (run : Run (Step network codecs) first path last) :
    (∀ peer id, peer ≠ network.coordinator id →
        (∃ coordinator, Called (last.node peer).history
            (responseCall codecs coordinator id .verified)) →
        ¬ Informed codecs (last.node peer).history id →
        (last.node peer).engine.Evaluates id) ∧
      ∀ peer record next message id, Step network codecs last (peer, record) next →
        record.input = .handleConsensusMsg message →
        meaning codecs message.message = .result id .apply →
        peer ∈ network.verifiers id →
        (.acceptProposal id none, .ok ()) ∈ record.exchanges := by
  have consistent := consistent_of_run initial run
  have decisive := consistent.decisive
  constructor
  · rintro peer id foreign ⟨coordinator, told⟩ uninformed
    exact decisive.prepared peer id coordinator foreign told uninformed
  · intro peer record next message id step input received required
    obtain ⟨envelope, member, destination, rfl, _⟩ := step.envelope_of_message input
    obtain ⟨elsewhere, announced⟩ := consistent.truthful.result envelope member id .apply received
    have foreign : peer ≠ network.coordinator id := by
      intro same
      exact elsewhere (destination.trans same)
    have endorses := (decisive.announced _ id .apply announced).2 rfl peer required
    have told := endorses.2.2.resolve_left foreign
    have uninformed : ¬ Informed codecs (last.node peer).history id := by
      intro informed
      exact (decisive.informed peer id informed).2 envelope member destination .apply received
    have evaluates := decisive.prepared peer id _ foreign told uninformed
    have transition := step.taken.transition
    rw [input] at transition
    obtain ⟨answer, exchanges, _⟩ := transition.of_apply received evaluates
    have called : (.acceptProposal id none, answer) ∈ record.exchanges := by
      rw [exchanges]
      exact List.mem_singleton.mpr rfl
    have carriedOut := step.assumed.carriedOut id .apply _ answer rfl called
    rw [carriedOut] at called
    exact called

theorem prepared_verifier_accepts_pair : ((pairAfter 5).node ⟨[2]⟩).engine.Evaluates ⟨[7]⟩ ∧
      (.acceptProposal ⟨[7]⟩ none, .ok ()) ∈
        ((Action.ok pairApply.2).record .protobuf ((pairAfter 6).node ⟨[2]⟩)).exchanges := by
  obtain ⟨path, run⟩ := run_performAll (pair_enabled 5 (by decide))
  obtain ⟨longer, longerRun⟩ := run_performAll (pair_enabled 6 (by decide))
  constructor
  · refine
      (prepared_verifier_accepts pair .protobuf _ _ path (initial_boot pair)
        run).1 ⟨[2]⟩ ⟨[7]⟩ ?_ ⟨⟨[1]⟩, ?_⟩ ?_ <;>
      decide +kernel
  · have able : (pairAfter 6).enabled pair .protobuf pairApply = true := by
      decide +kernel
    refine
      (prepared_verifier_accepts pair .protobuf _ _ longer (initial_boot pair)
        longerRun).2 ⟨[2]⟩ _ _ _ ⟨[7]⟩ (step_perform able) rfl ?_ ?_
    · rw [meaning_resultMessage]
    · decide +kernel

/-- No decision is lost or repeated: once a result has been announced, any other node has
handled a result of the proposal exactly if the announcement is not under way to it. -/
theorem informed_iff_not_underWay (initial : first.Initial network)
    (run : Run (Step network codecs) first path last) (id : ProposalId) (result : ProposalResult)
    (announced : last.Announced network codecs id result) (peer : PeerId)
    (member : peer ∈ network.nodes) (foreign : peer ≠ network.coordinator id) :
    Informed codecs (last.node peer).history id ↔ ¬ last.UnderWay codecs id result peer := by
  constructor
  · rintro informed ⟨envelope, waiting, addressed, read⟩
    have decisive := (consistent_of_run initial run).decisive
    exact (decisive.informed peer id informed).2 envelope waiting addressed result read
  · refine Or.resolve_left ?_
    induction run with
    | start =>
      obtain ⟨now, shape⟩ := initial.node (network.coordinator id)
      simp [Announced, Called, shape, Node.boot] at announced
    | snoc _ step ih =>
      rcases step.network_called_cases rfl announced with earlier | ⟨own, now⟩
      · rcases ih earlier with underWay | ⟨record, past, informed⟩
        · exact step.underWay_or_informed underWay
        · exact Or.inr ⟨record, step.mem_history past, informed⟩
      · rw [own] at foreign
        exact Or.inl (step.underWay_of_announced now member foreign)

theorem announcement_under_way : (pairAfter 6).Announced pair .protobuf ⟨[7]⟩ .apply ∧
    (Informed .protobuf ((pairAfter 6).node ⟨[2]⟩).history ⟨[7]⟩ ↔
      ¬ (pairAfter 6).UnderWay .protobuf ⟨[7]⟩ .apply ⟨[2]⟩) := by
  obtain ⟨path, run⟩ := run_performAll (pair_enabled 6 (by decide))
  have announced : (pairAfter 6).Announced pair .protobuf ⟨[7]⟩ .apply := by
    unfold Announced
    decide +kernel
  exact ⟨announced, informed_iff_not_underWay pair .protobuf _ _ path (initial_boot pair) run
    ⟨[7]⟩ .apply announced ⟨[2]⟩ (by decide) (by decide +kernel)⟩

end Results

end System

end Splinter.TwoPhase
