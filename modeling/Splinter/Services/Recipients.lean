import Splinter.Admin.Recipients
import Splinter.Services.Votes

/-!
# Broadcasts reach the members of the circuit

Before an engine announces a verification request or a decision it has checked the
proposal: then its admin service is addressed to it, or the check has failed and
the rejection is sent to whoever is addressed at the time.
-/

namespace Splinter.Services

open Library Service Consensus TwoPhase TwoPhaseEngine Interaction
open Admin (AdminService)

/-! ## The broadcasts of an engine -/

/-- The proposal that a broadcast message is about. -/
def announced (codecs : TwoPhase.Codecs) (message : Bytes) : Option ProposalId :=
  match meaning codecs message with
  | .request proposalId => some proposalId
  | .result proposalId _ => some proposalId
  | _ => none

/-- The calls that precede a broadcast about a proposal, and its message. -/
inductive Announcing (codecs : TwoPhase.Codecs) (engine : TwoPhaseEngine)
    (id : ProposalId) : List Exchange → Bytes → Prop
  | requested : engine.Evaluates id → Announcing codecs engine id []
    (codecs.twoPhaseMessage.write (verificationRequest id))
  | decided {call : Call} {result : ProposalResult} : engine.Evaluates id →
    decisionCall id result = some call →
    Announcing codecs engine id [(call, .ok ())]
      (codecs.twoPhaseMessage.write (resultMessage id result))
  | refused {error : ConsensusEngineError} : Announcing codecs engine id
    [(.checkProposal id, .error error), (.rejectProposal id, .ok ())]
    (codecs.twoPhaseMessage.write (resultMessage id .reject))

section Engine

variable {codecs : TwoPhase.Codecs} {now : Instant}
  {engine after : TwoPhaseEngine} {input : Input} {id : ProposalId}
  {exchanges earlier later : List Exchange} {message : Bytes} {answer : Answer}

theorem Announcing.announced_eq (announcing : Announcing codecs engine id earlier message) :
    announced codecs message = some id := by
  cases announcing <;> simp [announced]

theorem announced_of_completion {result : ProposalResult}
    (completion : Completion codecs engine id result exchanges after)
    (split : exchanges = earlier ++ (.broadcast message, answer) :: later) :
    ∃ call, decisionCall id result = some call ∧ earlier = [(call, .ok ())] ∧
      message = codecs.twoPhaseMessage.write (resultMessage id result) := by
  cases completion with
  | @refused call error decided =>
    cases result <;> cases decided <;>
      simp [List.cons_eq_append_iff] at split
  | @announced call given decided =>
    refine ⟨call, decided, ?_⟩
    cases result <;> cases decided <;>
      simp_all [List.cons_eq_append_iff]

theorem announcing_of_coordination {coordinator : TwoPhaseEngine} {proposal : TwoPhaseProposal}
    (coordination : Coordination codecs now coordinator proposal exchanges after)
    (split : exchanges = earlier ++ (.broadcast message, answer) :: later) :
    Announcing codecs engine proposal.proposalId earlier message := by
  cases coordination with
  | started => simp [List.cons_eq_append_iff] at split
  | rejected completion =>
    cases earlier with
    | nil => simp at split
    | cons first rest =>
      injection split with same remaining
      obtain ⟨call, decided, rfl, rfl⟩ := announced_of_completion completion remaining
      cases decided
      rw [← same]
      exact Announcing.refused

theorem announcing_of_transition (transition : Transition codecs now engine input exchanges after)
    (split : exchanges = earlier ++ (.broadcast message, answer) :: later) :
    ∃ id, Announcing codecs engine id earlier message := by
  cases transition with
  | timedOut current _ completion | voteFailed _ current completion
  | invalidRejected current _ completion
  | voteCompleted _ current _ completion =>
    obtain ⟨call, decided, rfl, rfl⟩ := announced_of_completion completion split
    exact ⟨_, Announcing.decided ⟨_, current, rfl⟩ decided⟩
  | coordinated _ _ coordination
  | proposalCoordinated _ _ _ _ _ _ _ coordination =>
    exact ⟨_, announcing_of_coordination coordination split⟩
  | verificationRequested current _ =>
    obtain ⟨rfl, same⟩ : earlier = [] ∧ _ := by simpa [List.cons_eq_append_iff] using split
    rw [same.1.1]
    exact ⟨_, Announcing.requested ⟨_, current, rfl⟩⟩
  | _ => simp [List.cons_eq_append_iff] at split

end Engine

/-! ## The broadcasts of an admin service -/

section Admin

variable (formats : Admin.Formats)

variable (participant : Participant AdminService) (event : Event AdminService.Operation)

/-- Every broadcast of an event is about a proposal, is meant for exactly the
other members of its circuit, and is sent to them. -/
def ReachesMembers : Prop :=
  match event with
  | .operation _ => True
  | .engine record =>
    ∀ earlier message answer later channels remaining asked answered,
      record.exchanges = earlier ++ (.broadcast message, answer) :: later →
      participant.service.consensus = some channels →
      channels.receive record.input = some remaining →
      Interaction.Answered (AdminService.host formats).Answers
        ((AdminService.host formats).withChannels remaining participant.service) earlier
        asked →
      (AdminService.host formats).Answers (.broadcast message) asked answer answered →
      ∃ id circuit, announced formats.twoPhase message = some id ∧
        participant.service.proposedCircuit formats id = some circuit ∧
        asked.recipients = Admin.otherMembers participant.service.shared.nodeId circuit ∧
        AdminService.SentTo formats message
          (Admin.otherMembers participant.service.shared.nodeId circuit)
          asked answer answered

/-- When the check of a proposal has failed and its rejection is broadcast, the
service is addressed to this proposal. -/
def RefusesAddressed : Prop :=
  match event with
  | .operation _ => True
  | .engine record =>
    ∀ id error message answer later, record.exchanges =
      [(.checkProposal id, .error error), (.rejectProposal id, .ok ())] ++
        (.broadcast message, answer) :: later →
      participant.service.Addressed formats id

/-- No operation replaces the payload that is registered for the proposal under
evaluation: that would take another payload with the same hash. -/
def KeepsPayload : Prop :=
  match event with
  | .engine _ => True
  | .operation operation =>
    ∀ proposal, participant.engine.state = .evaluatingProposal proposal →
      (AdminService.operate formats operation
        participant.service).registeredPayload proposal.proposalId =
        participant.service.registeredPayload proposal.proposalId

def AddressesEvaluated : Prop :=
  participant.engine.WellKept ∧
    ∀ proposal, participant.engine.state = .evaluatingProposal proposal →
      participant.service.Addressed formats proposal.proposalId

variable {formats} {id : ProposalId} {before : AdminService} {after : Participant AdminService}
  {event : Event AdminService.Operation}

/-- While a proposal stays under evaluation, neither its payload nor what its
circuit and the recipients are computed from is changed by the engine. -/
theorem address_of_continued {codecs : TwoPhase.Codecs} {input : Input}
    {exchanges : List Exchange} {after : AdminService}
    (continued : Continued codecs input id exchanges)
    (answered : Interaction.Answered (AdminService.host formats).Answers before exchanges after) :
    after.shared.address = before.shared.address ∧
      after.registeredPayload id = before.registeredPayload id := by
  refine Continued.keeps answered
    (fun service =>
      service.shared.address = before.shared.address ∧
        service.registeredPayload id = before.registeredPayload id)
    continued ⟨rfl, rfl⟩ ?_ ?_ ?_ ?_
  · rintro call answer after network ⟨around, responded⟩
    exact AdminService.respond_keeps_address network responded
  · rintro error after ⟨around, responded⟩
    obtain ⟨_, impossible⟩ := failed_of_answer
      (AdminService.acceptProposal_ends formats around before id)
      (Option.some.inj responded)
    exact impossible.elim
  · rintro other error after ⟨around, responded⟩
    obtain ⟨_, same⟩ := failed_of_answer (AdminService.rejectProposal_keeps_others before other)
      (Option.some.inj responded)
    rw [same]
    exact ⟨rfl, rfl⟩
  · rintro other after different ⟨around, responded⟩
    obtain ⟨sameAddress, others⟩ := returned_of_answer
      (AdminService.rejectProposal_keeps_others before other)
      (Option.some.inj responded)
    exact ⟨sameAddress, others id different.symm⟩

theorem addressesEvaluated_step {before : Participant AdminService}
    (held : AddressesEvaluated formats before) (keeps : KeepsPayload formats before event)
    (step : before.Step formats.twoPhase (AdminService.host formats) event after) :
    AddressesEvaluated formats after := by
  obtain ⟨wellKept, addressed⟩ := held
  cases event with
  | operation operation =>
    obtain ⟨same, operated⟩ := step
    unfold AddressesEvaluated
    rw [same, operated]
    refine ⟨wellKept, fun proposal evaluating => ?_⟩
    exact (addressed proposal evaluating).congr
      (AdminService.operate_keeps_address operation before.service)
      (keeps proposal evaluating)
  | engine record =>
    obtain ⟨⟨_, trace⟩, channels, remaining, _, _, answered⟩ := step
    have transition := transition_of_trace trace
    refine ⟨wellKept.transition transition, fun proposal evaluating => ?_⟩
    rcases checked_or_continued answered wellKept transition evaluating with
      ⟨around, responded⟩ | ⟨⟨current, evaluates, sameId⟩, continued⟩
    · exact returned_of_answer (AdminService.checkProposal_addresses _ _)
        (Option.some.inj responded)
    · have before := addressed current evaluates
      rw [sameId] at before
      obtain ⟨sameAddress, samePayload⟩ := address_of_continued continued answered
      exact before.congr sameAddress samePayload

variable {engine : TwoPhaseEngine} {earlier : List Exchange} {message : Bytes}
  {asked : AdminService} {path : List (Participant AdminService × Event AdminService.Operation)}

theorem recipients_of_announcing
    (announcing : Announcing formats.twoPhase engine id earlier message)
    (answered : Interaction.Answered (AdminService.host formats).Answers before earlier asked) :
    asked.recipients = before.recipients := by
  cases announcing with
  | requested _ =>
    rw [answered_nil_iff] at answered
    rw [answered]
  | @decided call result _ decided =>
    rw [answered_singleton_iff] at answered
    obtain ⟨around, responded⟩ := answered
    cases result with
    | unsetResult => cases decided
    | apply =>
      cases decided
      exact returned_of_answer (AdminService.acceptProposal_keeps_recipients id before)
        (Option.some.inj responded)
    | reject =>
      cases decided
      obtain ⟨same, _⟩ := returned_of_answer (AdminService.rejectProposal_keeps_others before id)
        (Option.some.inj responded)
      exact AdminService.recipients_congr same
  | refused =>
    rw [answered_cons_iff] at answered
    obtain ⟨_, ⟨around, failed⟩, rest⟩ := answered
    rw [answered_singleton_iff] at rest
    obtain ⟨_, responded⟩ := rest
    obtain ⟨_, rfl⟩ := failed_of_answer (AdminService.checkProposal_addresses before id)
      (Option.some.inj failed)
    obtain ⟨same, _⟩ := returned_of_answer (AdminService.rejectProposal_keeps_others _ id)
      (Option.some.inj responded)
    exact AdminService.recipients_congr same

/-- A broadcast reaches the members of the circuit of its proposal exactly if
the service is addressed to the proposal. -/
theorem reaches_iff_addressed {answer : Answer} {service answered : AdminService}
    (announcing : Announcing formats.twoPhase engine id earlier message)
    (same : before.shared = service.shared)
    (asking : Interaction.Answered (AdminService.host formats).Answers before earlier asked)
    (answering : (AdminService.host formats).Answers (.broadcast message) asked answer answered) :
    (∃ about circuit, announced formats.twoPhase message = some about ∧
      service.proposedCircuit formats about = some circuit ∧
      asked.recipients = Admin.otherMembers service.shared.nodeId circuit ∧
      AdminService.SentTo formats message
        (Admin.otherMembers service.shared.nodeId circuit) asked answer
        answered) ↔
      service.Addressed formats id := by
  obtain ⟨around, responded⟩ := answering
  have sent := AdminService.sentTo_of_respond responded
  have recipients : asked.recipients = service.recipients := by
    rw [recipients_of_announcing announcing asking]
    unfold AdminService.recipients
    rw [same]
  unfold AdminService.Addressed
  rw [Option.map_eq_some_iff, ← recipients]
  constructor
  · intro reached
    obtain ⟨about, circuit, concerned, found, members, _⟩ := reached
    rw [announcing.announced_eq] at concerned
    cases concerned
    exact ⟨circuit, found, members.symm⟩
  · intro addressed
    obtain ⟨circuit, found, members⟩ := addressed
    refine ⟨id, circuit, announcing.announced_eq, found, members.symm, ?_⟩
    rw [members]
    exact sent

theorem refusesAddressed_of_reachesMembers {before : Participant AdminService}
    (step : before.Step formats.twoPhase (AdminService.host formats) event after)
    (reaches : ReachesMembers formats before event) :
    RefusesAddressed formats before event := by
  cases event with
  | operation operation => exact trivial
  | engine record =>
    obtain ⟨⟨_, trace⟩, channels, remaining, connected, received, answered⟩ := step
    intro id error message answer later split
    obtain ⟨about, announcing⟩ := announcing_of_transition (transition_of_trace trace) split
    rw [split, answered_append_iff] at answered
    obtain ⟨asked, asking, rest⟩ := answered
    rw [answered_cons_iff] at rest
    obtain ⟨between, answering, _⟩ := rest
    have reached := reaches _ message answer later channels remaining asked between split
      connected received asking answering
    have addressed := (reaches_iff_addressed announcing rfl asking answering).mp reached
    cases announcing
    exact addressed

theorem reachesMembers_of_refusesAddressed {before : Participant AdminService}
    (held : AddressesEvaluated formats before)
    (step : before.Step formats.twoPhase (AdminService.host formats) event after)
    (refuses : RefusesAddressed formats before event) :
    ReachesMembers formats before event := by
  cases event with
  | operation operation => exact trivial
  | engine record =>
    obtain ⟨⟨_, trace⟩, _⟩ := step
    intro earlier message answer later channels remaining asked answered
      split connected received asking answering
    obtain ⟨id, announcing⟩ := announcing_of_transition (transition_of_trace trace) split
    refine (reaches_iff_addressed announcing rfl asking answering).mpr ?_
    cases announcing with
    | requested evaluates | decided evaluates _ =>
      obtain ⟨proposal, evaluating, sameId⟩ := evaluates
      rw [← sameId]
      exact held.2 proposal evaluating
    | refused => exact refuses _ _ _ _ _ split

/-- Every broadcast reaches exactly the other members of the circuit of its
proposal if and only if a proposal is rejected only by a service that is
addressed to it. -/
theorem reaches_members_iff_addressed (formats : Admin.Formats) (timeout : Nat) (now : Instant)
    (peers : List PeerId) (nodeId : String) (openProposals : Admin.OpenProposals)
    (splinterState : Circuits.SplinterState)
    (path : List (Participant AdminService × Event AdminService.Operation))
    (last : Participant AdminService)
    (run : Run (Participant.Step formats.twoPhase (AdminService.host formats))
        (AdminService.started timeout now peers nodeId openProposals splinterState)
        path last)
    (distinct : Run.Meets (KeepsPayload formats) path) :
    Run.Meets (ReachesMembers formats) path ↔ Run.Meets (RefusesAddressed formats) path := by
  have initially : AddressesEvaluated formats
        (AdminService.started timeout now peers nodeId openProposals splinterState) := by
    refine ⟨Node.wellKept_boot _ _ _ _, fun proposal evaluating => ?_⟩
    cases evaluating
  have throughout := run.guarded initially
      (fun before event after held keeps step =>
        addressesEvaluated_step held keeps step)
      distinct
  exact run.meets_congr throughout fun before event after held step =>
      ⟨refusesAddressed_of_reachesMembers step, reachesMembers_of_refusesAddressed held step⟩

/-! ## A rejection that goes astray -/

open Admin (createPayload simpleCircuit adminServiceId)
open Admin.Protos (CircuitManagementPayload)

/-- A request of node `b` for a circuit with node `a`. -/
def circuitOfB : CircuitManagementPayload :=
  createPayload (simpleCircuit "q" ["a", "b"]) (asBytes "b") "b" [1]

/-- A request of node `a` for a circuit with node `d`. -/
def circuitOfA : CircuitManagementPayload :=
  createPayload (simpleCircuit "p" ["a", "d"]) (asBytes "a") "a" [1]

/-- The key of node `b` is not in the key registry. -/
def withoutKeyOfB : Admin.Surroundings :=
  { Admin.Surroundings.working with
    getKey := fun key =>
      if key = asBytes "b" then .ok none
      else Admin.Surroundings.working.getKey key }

def adminWithoutKeyOfB : Responder (AdminService.host .standard) :=
  { workingAdmin with
    respond := AdminService.respond .standard withoutKeyOfB
    answers := fun responded => ⟨_, responded⟩ }

/-- Node `a` hears of the request of `b`, then proposes its own, and then the
engine handles the request of `b`. -/
def refusing : List (Stimulus AdminService.Operation) :=
  [told "b" (announcement .new "b" circuitOfB),
    .operation (.submitCircuitChange .working circuitOfA),
    .engine 0 fun _ => some .getNextProposal, nextUpdate 0]

/-- A rejection is broadcast although the service is not addressed to the
proposal. -/
def astray (visited : Participant AdminService × Event AdminService.Operation) : Bool :=
  match visited.2 with
  | .operation _ => false
  | .engine record =>
    match record.exchanges with
    | [(.checkProposal checked, .error _), (.rejectProposal rejected, .ok _), (.broadcast _, _)] =>
      checked = rejected ∧ ¬ visited.1.service.Addressed .standard checked
    | _ => false

theorem not_refusesAddressed_of_astray {participant : Participant AdminService}
    (goesAstray : astray (participant, event) = true) :
    ¬ RefusesAddressed .standard participant event := by
  intro refuses
  cases event with
  | operation operation => cases goesAstray
  | engine record =>
    unfold astray at goesAstray
    dsimp only at goesAstray
    split at goesAstray
    · rename_i shape
      obtain ⟨rfl, misaddressed⟩ := of_decide_eq_true goesAstray
      exact misaddressed (refuses _ _ _ _ [] shape)
    · cases goesAstray

/-- Operations happen only while nothing is evaluated. -/
def operatesIdle (visited : Participant AdminService × Event AdminService.Operation) : Bool :=
  match visited.2, visited.1.engine.state with
  | .operation _, .evaluatingProposal _ => false
  | _, _ => true

theorem meets_keepsPayload_of_operatesIdle (idle : path.all operatesIdle = true) :
    Run.Meets (KeepsPayload formats) path := by
  intro visited member
  obtain ⟨participant, event⟩ := visited
  have step := List.all_eq_true.mp idle _ member
  cases event with
  | engine record => trivial
  | operation operation =>
    intro proposal evaluating
    dsimp only at evaluating
    simp only [operatesIdle, evaluating] at step
    cases step

/-- The rejection of the request of `b` is sent to `d`, and `b` is sent
nothing. -/
theorem rejection_goes_astray : ∃ path last,
      Run (Participant.Step .protobuf (AdminService.host .standard)) nodeA path last ∧
        Run.Meets (KeepsPayload .standard) path ∧
        ¬ Run.Meets (ReachesMembers .standard) path ∧
        (adminServiceId "d", envelope "a" (resultMessage (proposalIdOf circuitOfB) .reject)) ∈
          last.service.shared.sentMessages ∧
        adminServiceId "b" ∉ last.service.shared.sentMessages.map Prod.fst := by
  have played : Participant.plays .protobuf adminWithoutKeyOfB nodeA refusing
      (fun path last =>
        path.all operatesIdle && path.any astray &&
          (decide
            ((adminServiceId "d", envelope "a" (resultMessage (proposalIdOf circuitOfB) .reject)) ∈
                last.service.shared.sentMessages) &&
            decide (adminServiceId "b" ∉ last.service.shared.sentMessages.map Prod.fst))) =
        true := by
    decide +kernel
  obtain ⟨path, last, run, checked⟩ := Participant.exists_run _ _ played
  simp only [Bool.and_eq_true, decide_eq_true_eq] at checked
  obtain ⟨⟨idle, goesAstray⟩, toD, notToB⟩ := checked
  refine ⟨path, last, run, meets_keepsPayload_of_operatesIdle idle, fun reaches => ?_, toD, notToB⟩
  obtain ⟨⟨participant, event⟩, member, misaddressed⟩ := List.any_eq_true.mp goesAstray
  obtain ⟨earlier, later, split⟩ := List.append_of_mem member
  obtain ⟨_, _, step⟩ := run.cut split
  exact not_refusesAddressed_of_astray misaddressed
      (refusesAddressed_of_reachesMembers step (reaches _ member))

def passesChecks (visited : Participant AdminService × Event AdminService.Operation) : Bool :=
  match visited.2 with
  | .operation _ => true
  | .engine record =>
    match record.exchanges with
    | (.checkProposal _, .error _) :: _ => false
    | _ => true

theorem meets_refusesAddressed_of_passesChecks (passes : path.all passesChecks = true) :
    Run.Meets (RefusesAddressed formats) path := by
  intro visited member
  obtain ⟨participant, event⟩ := visited
  have step := List.all_eq_true.mp passes _ member
  cases event with
  | operation operation => trivial
  | engine record =>
    intro id error message answer later shape
    simp [passesChecks, shape] at step

/-- Node `a` sends its verification request and, after the timeout, its
rejection to `d`. -/
theorem reaches_members_while_proposing : ∃ path last,
      Run (Participant.Step .protobuf (AdminService.host .standard)) nodeA path last ∧
        Run.Meets (ReachesMembers .standard) path ∧
        (adminServiceId "d", envelope "a" (verificationRequest (proposalIdOf circuitOfA))) ∈
          last.service.shared.sentMessages ∧
        (adminServiceId "d", envelope "a" (resultMessage (proposalIdOf circuitOfA) .reject)) ∈
          last.service.shared.sentMessages := by
  have played : Participant.plays .protobuf workingAdmin nodeA
      (proposing ["a", "d"] ++ [.engine 31 fun _ => some .abortProposalIfTimedOut])
      (fun path last =>
        path.all operatesIdle && path.all passesChecks &&
          (decide
            ((adminServiceId "d", envelope "a" (verificationRequest (proposalIdOf circuitOfA))) ∈
                last.service.shared.sentMessages) &&
            decide
              ((adminServiceId "d",
                envelope "a" (resultMessage (proposalIdOf circuitOfA) .reject)) ∈
                  last.service.shared.sentMessages))) =
        true := by
    decide +kernel
  obtain ⟨path, last, run, checked⟩ := Participant.exists_run _ _ played
  simp only [Bool.and_eq_true, decide_eq_true_eq] at checked
  obtain ⟨⟨idle, passes⟩, requested, rejected⟩ := checked
  refine ⟨path, last, run, ?_, requested, rejected⟩
  exact
    (reaches_members_iff_addressed .standard 30 0 [] "a" .new (.new .new) path
      last run (meets_keepsPayload_of_operatesIdle idle)).mpr
      (meets_refusesAddressed_of_passesChecks passes)

end Admin

end Splinter.Services
