import Splinter.Admin.Metadata
import Splinter.Services.Recipients

/-!
# The verifiers and the summary of a proposal

An engine takes the verifiers of a proposal from its consensus data, and
`check_proposal` compares the summary.  In a PROPOSED_CIRCUIT message both stand
beside the payload, and nothing compares them with it.
-/

namespace Splinter.Services

open Library Service Consensus TwoPhase TwoPhaseEngine
open Admin (AdminService Preimages memberPeers)

section Metadata

variable (formats : Admin.Formats) (preimages : Preimages)

variable (participant : Participant AdminService)

/-- The verifiers required for the proposal under evaluation are the members of
its circuit. -/
def VerifiersBound : Prop :=
  ∀ proposal, participant.engine.state = .evaluatingProposal proposal → ∃ circuit,
    participant.service.proposedCircuit formats proposal.proposalId = some circuit ∧
      proposal.requiredVerifiers = memberPeers circuit

/-- A PROPOSED_CIRCUIT message for a proposal that is pending leaves its summary
alone. -/
def SummaryKept (event : Event AdminService.Operation) : Prop :=
  match event with
  | .engine _ => True
  | .operation operation =>
    ∀ entry known, operation.announces formats = some entry →
      participant.service.pendingConsensusProposal entry.1.id = some known →
      ((AdminService.operate formats operation
        participant.service).pendingConsensusProposal entry.1.id).map
        (fun pending => pending.1.summary) =
        some known.1.summary

/-- A proposal is accepted because all members of its circuit have verified it,
or because a result message says so. -/
def AcceptsVerified (event : Event AdminService.Operation) : Prop :=
  match event with
  | .operation _ => True
  | .engine record =>
    ∀ id data answer, (.acceptProposal id data, answer) ∈ record.exchanges →
      ∃ message, record.input = .handleConsensusMsg message ∧
        (meaning formats.twoPhase message.message = .result id .apply ∨ ∃ proposal circuit,
          participant.engine.state = .evaluatingProposal proposal ∧
            participant.service.proposedCircuit formats id = some circuit ∧
            insert message.originId proposal.peersVerified = memberPeers circuit)

/-- The payloads that come in are the ones that their hashes stand for. -/
def Readable (_ : Participant AdminService) (event : Event AdminService.Operation) : Prop :=
  match event with
  | .engine _ => True
  | .operation operation =>
    ∀ payload, operation.brings formats = some payload → preimages.Reads formats payload

/-- A PROPOSED_CIRCUIT message names the members of the circuit that its payload
is about, and repeats the summary if the proposal is pending already. -/
def Truthful (participant : Participant AdminService)
    (event : Event AdminService.Operation) : Prop :=
  match event with
  | .engine _ => True
  | .operation operation =>
    ∀ entry, operation.announces formats = some entry →
      (∀ circuit, preimages.subject formats entry.2 = some circuit →
        Admin.Names formats entry.1.consensusData circuit) ∧
      ∀ known, participant.service.pendingConsensusProposal entry.1.id = some known →
        entry.1.summary = known.1.summary

def RequiresMembers (proposal : TwoPhaseProposal) : Prop := ∀ circuit,
    preimages.subject formats (preimages.payload proposal.proposalId) = some circuit →
      proposal.requiredVerifiers = memberPeers circuit

/-- What holds of an engine and its service while all messages tell the
truth. -/
structure Traced (participant : Participant AdminService) : Prop where
  wellKept : participant.engine.WellKept
  faithful : participant.service.Faithful formats preimages
  backlogged : ∀ proposal ∈ participant.engine.proposalBacklog,
    RequiresMembers formats preimages proposal
  evaluated : ∀ proposal, participant.engine.state = .evaluatingProposal proposal →
    RequiresMembers formats preimages proposal ∧
      participant.service.Concerns formats preimages proposal.proposalId

def subjectPeers (id : ProposalId) : Finset PeerId :=
  match preimages.subject formats (preimages.payload id) with
  | some circuit => memberPeers circuit
  | none => ∅

variable {formats preimages}

/-! ## Operations -/

section Operations

variable {operation : AdminService.Operation} {service : AdminService} {id : ProposalId}

/-- An operation whose payload is read back from its hash does not replace a
registered payload by another one. -/
theorem registeredPayload_operate {payload : Admin.Protos.CircuitManagementPayload}
    (indexed : service.shared.Indexed formats preimages)
    (reads : ∀ payload, operation.brings formats = some payload → preimages.Reads formats payload)
    (registered : service.registeredPayload id = some payload) :
    (AdminService.operate formats operation service).registeredPayload id = some payload := by
  have same : (AdminService.operate formats operation service).registeredPayload id =
      ((service.registryWith (operation.announces formats)).lookup id).map Prod.snd := by
    unfold AdminService.registeredPayload AdminService.pendingConsensusProposal
    rw [AdminService.pendingConsensusProposals_operate]
  rw [same]
  cases announced : operation.announces formats with
  | none => exact registered
  | some entry =>
    have looked := lookup_insert_eq service.shared.pendingConsensusProposals entry.1.id id entry
    by_cases equal : id = entry.1.id
    · rw [if_pos equal] at looked
      have entryReads := reads entry.2 (AdminService.brings_of_announces announced)
      have own := AdminService.payloadOf_of_announces announced
      obtain ⟨known, found, rfl⟩ := Option.map_eq_some_iff.mp registered
      obtain ⟨knownOwn, knownReads⟩ := indexed.registered id known found
      have samePayload : entry.2 = known.2 := by
        rw [← entryReads.whole id (equal ▸ own), knownReads.whole id knownOwn]
      rw [← samePayload]
      exact congrArg (Option.map Prod.snd) looked
    · rw [if_neg equal] at looked
      exact (congrArg (Option.map Prod.snd) looked).trans registered

theorem summary_operate {entry : Proposal × Admin.Protos.CircuitManagementPayload}
    (announced : operation.announces formats = some entry) :
    ((AdminService.operate formats operation service).pendingConsensusProposal entry.1.id).map
      (fun pending => pending.1.summary) =
      some entry.1.summary := by
  unfold AdminService.pendingConsensusProposal
  rw [AdminService.pendingConsensusProposals_operate, announced]
  have looked := Finmap.lookup_insert (a := entry.1.id) (b := entry)
    service.shared.pendingConsensusProposals
  exact congrArg (Option.map fun pending => pending.1.summary) looked

theorem concerns_operate (indexed : service.shared.Indexed formats preimages)
    (reads : ∀ payload, operation.brings formats = some payload → preimages.Reads formats payload)
    (concerns : service.Concerns formats preimages id) :
    (AdminService.operate formats operation service).Concerns formats preimages id := by
  obtain ⟨circuit, proposed, subject⟩ := concerns
  refine ⟨circuit, ?_, subject⟩
  have found := proposed
  obtain ⟨payload, registered, _⟩ := Option.bind_eq_some_iff.mp found
  have kept := registeredPayload_operate indexed reads registered
  rw [← registered] at kept
  rw [AdminService.proposedCircuit_congr
    (AdminService.operate_keeps_address operation service) kept]
  exact proposed

end Operations

/-! ## The engine -/

variable {participant : Participant AdminService} {event : Event AdminService.Operation}
  {channels remaining : Channels} {input : Input} {before after : Participant AdminService}

theorem Traced.requires_of_delivers {proposal : TwoPhaseProposal}
    (traced : Traced formats preimages participant)
    (connected : participant.service.consensus = some channels)
    (received : channels.receive input = some remaining)
    (delivers : Delivers formats.twoPhase participant.engine input proposal) :
    RequiresMembers formats preimages proposal := by
  obtain ⟨update, given, rfl, handed, readable, sameId, _⟩ := delivers
  have member : given ∈ participant.service.handedProposals := by
    unfold AdminService.handedProposals
    rw [connected]
    exact List.mem_filterMap.mpr ⟨update, Channels.mem_of_receive_update received, handed⟩
  intro circuit subject
  rw [sameId] at subject
  obtain ⟨present, names⟩ := traced.faithful.handed given member circuit subject
  unfold TwoPhaseEngine.verifiers at readable
  rw [if_neg present] at readable
  cases parsed : formats.twoPhase.requiredVerifiers.parse given.consensusData with
  | error error =>
    rw [parsed] at readable
    cases readable
  | ok required =>
    rw [parsed] at readable
    injection readable with same
    rw [← same]
    exact names required parsed

theorem Traced.faithful_received (traced : Traced formats preimages participant)
    (connected : participant.service.consensus = some channels)
    (received : channels.receive input = some remaining) :
    ((AdminService.host formats).withChannels remaining
      participant.service).Faithful formats preimages := by
  refine ⟨traced.faithful.indexed, fun proposal member => ?_⟩
  refine traced.faithful.handed proposal ?_
  unfold AdminService.handedProposals at member ⊢
  rw [connected]
  exact List.filterMap_subset _ (Channels.proposalUpdates_of_receive received) member

section Steps

variable {before after : Participant AdminService} (traced : Traced formats preimages before)

include traced

theorem traced_operation {operation : AdminService.Operation}
    (readable : Readable formats preimages before (.operation operation))
    (truthful : Truthful formats preimages before (.operation operation))
    (step : before.Step formats.twoPhase (AdminService.host formats) (.operation operation) after) :
    Traced formats preimages after := by
  obtain ⟨same, operated⟩ := step
  have faithful : (AdminService.operate formats operation before.service).Faithful
      formats preimages := by
    refine traced.faithful.operate readable fun entry announced => ?_
    intro circuit subject
    have reads := readable entry.2 (AdminService.brings_of_announces announced)
    rw [reads.whole _ (AdminService.payloadOf_of_announces announced)] at subject
    exact (truthful entry announced).1 circuit subject
  constructor
  · rw [same]
    exact traced.wellKept
  · rw [operated]
    exact faithful
  · rw [same]
    exact traced.backlogged
  · rw [same, operated]
    intro proposal evaluating
    obtain ⟨requires, concerns⟩ := traced.evaluated proposal evaluating
    exact ⟨requires, concerns_operate traced.faithful.indexed readable concerns⟩

theorem concerns_of_transition {now : TwoPhase.Instant} {input : Input} {exchanges : List Exchange}
    {engine : TwoPhaseEngine} {reached : AdminService} {channels : Channels}
    {proposal : TwoPhaseProposal} (receiving :
      ((AdminService.host formats).withChannels channels before.service).Faithful formats preimages)
    (transition : Transition formats.twoPhase now before.engine input exchanges engine)
    (answered : Interaction.Answered (AdminService.host formats).Answers
      ((AdminService.host formats).withChannels channels before.service)
      exchanges reached)
    (evaluating : engine.state = .evaluatingProposal proposal) :
    reached.Concerns formats preimages proposal.proposalId := by
  rcases checked_or_continued answered traced.wellKept transition evaluating with
    ⟨around, responded⟩ | ⟨⟨current, evaluates, sameId⟩, continued⟩
  · exact returned_of_answer (receiving.checkProposal_concerns _) (Option.some.inj responded)
  · obtain ⟨_, concerns⟩ := traced.evaluated current evaluates
    rw [sameId] at concerns
    obtain ⟨circuit, proposed, subject⟩ := concerns
    obtain ⟨sameAddress, samePayload⟩ := address_of_continued continued answered
    refine ⟨circuit, ?_, subject⟩
    rw [AdminService.proposedCircuit_congr sameAddress samePayload]
    exact proposed

end Steps

theorem traced_step (blank : formats.twoPhase.requiredVerifiers.parse [] = .ok ⟨[]⟩)
    (traced : Traced formats preimages before) (readable : Readable formats preimages before event)
    (truthful : Truthful formats preimages before event)
    (step : before.Step formats.twoPhase (AdminService.host formats) event after) :
    Traced formats preimages after := by
  cases event with
  | operation operation => exact traced_operation traced readable truthful step
  | engine record =>
    obtain ⟨⟨_, trace⟩, channels, remaining, connected, received, answered⟩ := step
    have transition := transition_of_trace trace
    have receiving := traced.faithful_received connected received
    have delivered {proposal : TwoPhaseProposal}
        (source : proposal ∈ before.engine.proposalBacklog ∨
          Delivers formats.twoPhase before.engine record.input proposal) :
        RequiresMembers formats preimages proposal := by
      rcases source with earlier | delivers
      · exact traced.backlogged proposal earlier
      · exact traced.requires_of_delivers connected received delivers
    constructor
    · exact traced.wellKept.transition transition
    · refine answered.invariant ?_ receiving
      rintro call answer earlier later ⟨around, responded⟩ faithful
      exact faithful.respond blank responded
    · intro proposal member
      exact delivered (transition.proposalBacklog_cases member)
    · intro proposal evaluating
      refine ⟨?_, concerns_of_transition traced receiving transition answered evaluating⟩
      rcases transition.state_cases evaluating with
        unchanged | ⟨earlier, voter, counting, rfl, _⟩ | ⟨_, source⟩
      · exact (traced.evaluated proposal unchanged).1
      · exact (traced.evaluated earlier counting).1
      · exact delivered source

/-! ## Runs -/

theorem Traced.verifiersBound (traced : Traced formats preimages participant) :
    VerifiersBound formats participant := by
  intro proposal evaluating
  obtain ⟨requires, circuit, proposed, subject⟩ := traced.evaluated proposal evaluating
  exact ⟨circuit, proposed, requires circuit subject⟩

theorem Traced.acceptsVerified (traced : Traced formats preimages before)
    (step : before.Step formats.twoPhase (AdminService.host formats) event after) :
    AcceptsVerified formats before event := by
  cases event with
  | operation operation => exact trivial
  | engine record =>
    obtain ⟨⟨_, trace⟩, _⟩ := step
    have transition := transition_of_trace trace
    intro id data answer made
    have noData := transition.acceptProposal_data made
    subst noData
    cases transition.of_decision (acceptCall id) made with
    | told message input received _ => exact ⟨message, input, Or.inl received⟩
    | own proposal sameId decides _ =>
      generalize shape : record.input = input at decides
      cases decides with
      | @verified message evaluating received complete =>
        obtain ⟨circuit, proposed, required⟩ := traced.verifiersBound proposal evaluating
        rw [sameId] at proposed
        refine ⟨message, rfl, Or.inr ⟨proposal, circuit, ?_⟩⟩
        exact ⟨evaluating, proposed, complete.trans required⟩
    | unverifiable _ rejects => cases rejects

theorem summaryKept_of_truthful (truthful : Truthful formats preimages participant event) :
    SummaryKept formats participant event := by
  cases event with
  | engine record => exact trivial
  | operation operation =>
    intro entry known announced pending
    rw [summary_operate announced]
    exact congrArg some ((truthful entry announced).2 known pending)

theorem traced_started {timeout : Nat} {now : Instant} {peers : List PeerId} {nodeId : String}
    {openProposals : Admin.OpenProposals} {splinterState : Circuits.SplinterState}
    (stored : ∀ circuitId proposal,
      (Admin.AdminServiceShared.new nodeId openProposals splinterState).Open circuitId proposal →
        preimages.Lists proposal) :
    Traced formats preimages
      (AdminService.started timeout now peers nodeId openProposals splinterState) := by
  refine ⟨Node.wellKept_boot _ _ _ _, ⟨⟨?_, ?_, stored, ?_⟩, ?_⟩, ?_, ?_⟩
  · intro id entry found
    cases found
  · intro payload member
    cases member
  · intro context pending
    cases pending
  · intro proposal member
    cases member
  · intro proposal member
    cases member
  · intro proposal evaluating
    cases evaluating

/-- In every run whose messages tell the truth, the verifiers of the proposal
under evaluation are the members of its circuit and the same for the same
proposal, a pending proposal keeps its summary, and a coordinator accepts what
all members have verified. -/
theorem metadata_bound_of_truthful (formats : Admin.Formats) (preimages : Preimages) (timeout : Nat)
    (now : Instant) (peers : List PeerId) (nodeId : String) (openProposals : Admin.OpenProposals)
    (splinterState : Circuits.SplinterState)
    (path : List (Participant AdminService × Event AdminService.Operation))
    (last : Participant AdminService)
    (run : Run (Participant.Step formats.twoPhase (AdminService.host formats))
        (AdminService.started timeout now peers nodeId openProposals splinterState)
        path last)
    (blank : formats.twoPhase.requiredVerifiers.parse [] = .ok ⟨[]⟩) (stored : ∀ circuitId proposal,
        (Admin.AdminServiceShared.new nodeId openProposals splinterState).Open circuitId proposal →
          preimages.Lists proposal)
    (readable : Run.Meets (Readable formats preimages) path)
    (truthful : Run.Meets (Truthful formats preimages) path) :
    Run.Throughout (VerifiersBound formats) path last ∧
      (∃ required : ProposalId → Finset PeerId, Run.Throughout
          (fun participant =>
            ∀ proposal, participant.engine.state = .evaluatingProposal proposal →
                proposal.requiredVerifiers = required proposal.proposalId)
          path last) ∧
      Run.Meets (SummaryKept formats) path ∧
      Run.Meets (AcceptsVerified formats) path := by
  have both : Run.Meets
        (fun before event =>
          Readable formats preimages before event ∧ Truthful formats preimages before event)
        path :=
    fun visited member => ⟨readable visited member, truthful visited member⟩
  have traced : Run.Throughout (Traced formats preimages) path last :=
    run.guarded (traced_started stored)
      (fun before event after held guarded taken =>
        traced_step blank held guarded.1 guarded.2 taken)
      both
  have required (participant : Participant AdminService)
      (held : Traced formats preimages participant)
      (proposal : TwoPhaseProposal)
      (evaluating : participant.engine.state = .evaluatingProposal proposal) :
      proposal.requiredVerifiers = subjectPeers formats preimages proposal.proposalId := by
    obtain ⟨requires, circuit, _, subject⟩ := held.evaluated proposal evaluating
    unfold subjectPeers
    rw [subject]
    exact requires circuit subject
  refine ⟨⟨?_, ?_⟩, ⟨subjectPeers formats preimages, ?_, ?_⟩, ?_, ?_⟩
  · exact fun visited member => (traced.1 visited member).verifiersBound
  · exact traced.2.verifiersBound
  · exact fun visited member => required visited.1 (traced.1 visited member)
  · exact required last traced.2
  · exact fun visited member =>
      summaryKept_of_truthful (truthful visited member)
  · have always : Run.Meets (AcceptsVerified formats) path ↔ Run.Meets (fun _ _ => True) path :=
      run.meets_congr traced fun before event after held taken =>
        iff_of_true (held.acceptsVerified taken) trivial
    exact always.mpr fun _ _ => trivial

end Metadata

/-! ## A forged announcement -/

section Forged

open Admin (createPayload simpleCircuit adminServiceId)
open Admin.Protos (CircuitManagementPayload)

/-- A request of node `a` for a circuit with `b` and `c`. -/
def requestOfThree : CircuitManagementPayload :=
  createPayload (simpleCircuit "p" ["a", "b", "c"]) (asBytes "a") "a" [1]

/-- An announcement of the request that leaves out node `b`. -/
def forged (expectedHash : Bytes) : Bytes := Admin.Formats.standard.protos.adminMessage.write
    (AdminService.proposedCircuitMessage requestOfThree
      { Proposal.default with
        summary := expectedHash
        consensusData := Codecs.protobuf.requiredVerifiers.write
          ⟨["a", "c"].map fun node => asBytes (adminServiceId node)⟩ })

/-- The hash that node `c` computes for the request. -/
def hashOfThree : Bytes :=
  match nodeC.service.shared.proposedChange .standard .working requestOfThree with
  | .ok change => asBytes change.expectedHash
  | .error _ => []

/-- Node `c` hears of the request twice, first with a wrong hash.  It is asked
to verify the request and then told to apply it. -/
def hearingForged : List (Stimulus AdminService.Operation) :=
  [told "a" (forged []), told "a" (forged hashOfThree), nextUpdate 0, nextUpdate 0,
    told "a" (envelope "a" (verificationRequest (proposalIdOf requestOfThree))),
    nextMessage 0, nextUpdate 0,
    told "a" (envelope "a" (resultMessage (proposalIdOf requestOfThree) .apply)),
    nextMessage 0]

/-- The proposal under evaluation does not require the members of its
circuit. -/
def requiresOthers (participant : Participant AdminService) : Bool :=
  match participant.engine.state with
  | .evaluatingProposal proposal =>
    match participant.service.proposedCircuit .standard proposal.proposalId with
    | some circuit => proposal.requiredVerifiers ≠ memberPeers circuit
    | none => true
  | _ => false

/-- A message replaces the summary of a pending proposal. -/
def replacesSummary (visited : Participant AdminService × Event AdminService.Operation) : Bool :=
  match visited.2 with
  | .engine _ => false
  | .operation operation =>
    match operation.announces .standard with
    | none => false
    | some entry =>
      match visited.1.service.pendingConsensusProposal entry.1.id with
      | none => false
      | some known => entry.1.summary ≠ known.1.summary

theorem not_verifiersBound_of_requiresOthers {participant : Participant AdminService}
    (others : requiresOthers participant = true) :
    ¬ VerifiersBound .standard participant := by
  intro bound
  unfold requiresOthers at others
  split at others
  · rename_i proposal evaluating
    obtain ⟨circuit, proposed, required⟩ := bound proposal evaluating
    simp only [proposed, required, ne_eq, not_true_eq_false, decide_false] at others
    cases others
  · cases others

variable {visited : Participant AdminService × Event AdminService.Operation}

theorem not_summaryKept_of_replacesSummary (replaced : replacesSummary visited = true) :
    ¬ SummaryKept .standard visited.1 visited.2 := by
  obtain ⟨participant, event⟩ := visited
  cases event with
  | engine record => cases replaced
  | operation operation =>
    intro kept
    unfold replacesSummary at replaced
    dsimp only at replaced
    cases announced : operation.announces .standard with
    | none =>
      rw [announced] at replaced
      cases replaced
    | some entry =>
      rw [announced] at replaced
      dsimp only at replaced
      cases pending : participant.service.pendingConsensusProposal entry.1.id with
      | none =>
        rw [pending] at replaced
        cases replaced
      | some known =>
        rw [pending] at replaced
        have same := kept entry known announced pending
        rw [summary_operate announced] at same
        exact of_decide_eq_true replaced (Option.some.inj same)

/-- Node `c` opens the proposal for the circuit of `a`, `b` and `c` although
only `a` and `c` had to verify it, and the second announcement has replaced the
summary of the first. -/
theorem forged_metadata_applied : ∃ path last,
      Run (Participant.Step .protobuf (AdminService.host .standard)) nodeC path last ∧
        ¬ Run.Throughout (VerifiersBound .standard) path last ∧
        ¬ Run.Meets (SummaryKept .standard) path ∧
        last.service.shared.hasProposal "p" = true := by
  have played : Participant.plays .protobuf workingAdmin nodeC hearingForged
      (fun path last =>
        path.any (fun visited => requiresOthers visited.1) &&
          path.any replacesSummary && last.service.shared.hasProposal "p") =
        true := by
    decide +kernel
  obtain ⟨path, last, run, checked⟩ := Participant.exists_run _ _ played
  simp only [Bool.and_eq_true, List.any_eq_true] at checked
  obtain ⟨⟨⟨visited, member, others⟩, changed, changedMember, replaced⟩, opened⟩ := checked
  refine ⟨path, last, run, fun throughout => ?_, fun meets => ?_, opened⟩
  · exact not_verifiersBound_of_requiresOthers others (throughout.1 visited member)
  · exact not_summaryKept_of_replacesSummary replaced (meets changed changedMember)

/-- What the hashes stand for when only the request of `a` is about. -/
def preimagesOfA : Preimages where
  payload _ := requestOfA
  circuit _ := simpleCircuit "p" ["a", "c"]

/-- An operation brings nothing but the request of `a`; a message that announces
it names the members of its circuit and is the first to do so. -/
def announcesHonestly (visited : Participant AdminService × Event AdminService.Operation) : Bool :=
  match visited.2 with
  | .engine _ => true
  | .operation operation =>
    (match operation.brings .standard with
      | none => true
      | some payload => payload = requestOfA) &&
    match operation.announces .standard with
    | none => true
    | some entry =>
      entry.1.consensusData =
        (AdminService.consensusProposal .standard "" ""
          (simpleCircuit "p" ["a", "c"])).consensusData &&
        (visited.1.service.pendingConsensusProposal entry.1.id).isNone

theorem readable_of_announcesHonestly (honest : announcesHonestly visited = true) :
    Readable .standard preimagesOfA visited.1 visited.2 := by
  obtain ⟨participant, event⟩ := visited
  cases event with
  | engine record => trivial
  | operation operation =>
    intro payload brought
    unfold announcesHonestly at honest
    dsimp only at honest
    rw [brought] at honest
    have same := of_decide_eq_true (Bool.and_eq_true_iff.mp honest).1
    subst same
    exact ⟨fun _ _ => rfl, fun _ _ _ _ _ => rfl⟩

theorem truthful_of_announcesHonestly (honest : announcesHonestly visited = true) :
    Truthful .standard preimagesOfA visited.1 visited.2 := by
  have readable := readable_of_announcesHonestly honest
  obtain ⟨participant, event⟩ := visited
  cases event with
  | engine record => trivial
  | operation operation =>
    intro entry announced
    unfold announcesHonestly at honest
    dsimp only at honest
    rw [announced] at honest
    obtain ⟨named, unknown⟩ := Bool.and_eq_true_iff.mp (Bool.and_eq_true_iff.mp honest).2
    constructor
    · intro circuit subject
      have reads := readable entry.2 (AdminService.brings_of_announces announced)
      have own := AdminService.payloadOf_of_announces announced
      have same : preimagesOfA.subject .standard requestOfA =
          some (simpleCircuit "p" ["a", "c"]) := by decide +kernel
      rw [← reads.whole _ own] at subject
      cases same.symm.trans subject
      rw [of_decide_eq_true named]
      exact Admin.names_consensusProposal rfl (by decide)
    · intro known pending
      rw [pending] at unknown
      cases unknown

/-- Node `c` verifies the request of `a`, announced as it is; the verifiers are
the members. -/
theorem honest_metadata_bound : ∃ path last,
      Run (Participant.Step .protobuf (AdminService.host .standard)) nodeC path last ∧
        evaluates last = true ∧
        Run.Throughout (VerifiersBound .standard) path last ∧
        Run.Meets (SummaryKept .standard) path := by
  have played : Participant.plays .protobuf workingAdmin nodeC verifying
      (fun path last => path.all announcesHonestly && evaluates last) = true := by
    decide +kernel
  obtain ⟨path, last, run, checked⟩ := Participant.exists_run _ _ played
  obtain ⟨honest, evaluating⟩ := Bool.and_eq_true_iff.mp checked
  have honestly := List.all_eq_true.mp honest
  obtain ⟨bound, _, kept, _⟩ := metadata_bound_of_truthful .standard preimagesOfA 30 0 [] "c" .new
      (.new .new) path last run rfl
      (by rintro circuitId proposal ⟨_, found, _⟩; cases found)
      (fun visited member =>
        readable_of_announcesHonestly (honestly visited member))
      fun visited member =>
        truthful_of_announcesHonestly (honestly visited member)
  exact ⟨path, last, run, evaluating, bound, kept⟩

end Forged

end Splinter.Services
