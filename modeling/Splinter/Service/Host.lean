import Splinter.Service.Orchestrator
import Splinter.Service.Processor

/-!
# Service hosts

Orchestrators and processors route the same messages to the same places.
`errors_release_iff` says what happens to a circuit error that answers a request:
it is logged, and the caller goes on waiting.
-/

namespace Splinter.Service

open Library Network Circuits.Protos ServiceOrchestrator ServiceProcessor

inductive Host where
  | orchestrator (services : List ServiceDefinition) (state : ServiceOrchestrator)
  | processor (hosted : Finset String) (state : ServiceProcessor)

namespace Host

inductive IsNew : Host → Prop
  | orchestrator (services : List ServiceDefinition) : IsNew (.orchestrator services .new)
  | processor (hosted : Finset String) : IsNew (.processor hosted .new)

def intake : Host → Intake
  | .orchestrator _ state => state.intake
  | .processor _ state => state.intake

variable {host : Host} {receipt : Receipt}

theorem IsNew.intake (isNew : host.IsNew) : host.intake = .new := by
  cases isNew <;> rfl

def router (host : Host) : InboundRouter CircuitMessageType := host.intake.router

/-- The calls of services, by the id of the service. -/
def calls : Host → List (Call String)
  | .orchestrator _ state =>
    state.calls.map fun call =>
      ⟨call.service.serviceId, call.payload, call.context⟩
  | .processor _ state => state.calls

/-- What happens to a host.  The thread of the orchestrator that handles inbound
messages calls the services itself; a processor has a thread for each. -/
inductive Event where
  | deliver (messageBytes : Bytes)
  | expectReply (correlationId : String) (caller : Caller)
  | abandon (correlationId : String)
  | incoming
  | inbound (returned : Except ServiceError Unit)
  | service (serviceId : String) (returned : Except ServiceError Unit)

def Event.orchestrator : Event → Option ServiceOrchestrator.Event
  | .deliver messageBytes => some (.deliver messageBytes)
  | .expectReply correlationId caller => some (.expectReply correlationId caller)
  | .abandon correlationId => some (.abandon correlationId)
  | .incoming => some .incoming
  | .inbound returned => some (.inbound returned)
  | .service _ _ => none

def Event.processor : Event → ServiceProcessor.Event
  | .deliver messageBytes => .deliver messageBytes
  | .expectReply correlationId caller => .expectReply correlationId caller
  | .abandon correlationId => .abandon correlationId
  | .incoming => .incoming
  | .inbound _ => .inbound
  | .service serviceId returned => .service serviceId returned

variable (codecs : Codecs)

def advance (event : Event) : Host → Option Host
  | .orchestrator services state => do
    let event ← event.orchestrator
    let after ← ServiceOrchestrator.advance codecs services event state
    return .orchestrator services after
  | .processor hosted state => do
    let after ← ServiceProcessor.advance codecs hosted event.processor state
    return .processor hosted after

def Step (before : Host) (event : Event) (after : Host) : Prop :=
  advance codecs event before = some after

/-! ## What is routed -/

theorem incoming_congr {Failure Other : Type} (fails : String → ErrorText → Failure)
    (other : CircuitMessageType → Bytes → Except Failure Unit) (unroutable : RouteError → Failure)
    (standardFails : String → ErrorText → Other)
    (standardOther : CircuitMessageType → Bytes → Except Other Unit)
    (standardUnroutable : RouteError → Other) :
    (Reading.mk (readIncoming codecs fails other) unroutable).incoming =
      (Reading.mk (readIncoming codecs standardFails standardOther)
        standardUnroutable).incoming := by
  funext bytes
  unfold Reading.incoming
  dsimp only
  unfold readIncoming parseOr
  cases codecs.networkMessage.parse bytes with
  | error error => rfl
  | ok msg =>
    obtain ⟨messageType, payload⟩ := msg
    cases messageType with
    | circuit =>
      dsimp only [Except.mapError, bind, Except.bind]
      cases codecs.circuitMessage.parse payload with
      | error error => rfl
      | ok circuitMsg =>
        obtain ⟨messageType, payload⟩ := circuitMsg
        cases messageType with
        | adminDirectMessage =>
          dsimp only
          cases codecs.adminDirectMessage.parse payload <;> rfl
        | circuitDirectMessage =>
          dsimp only
          cases codecs.circuitDirectMessage.parse payload <;> rfl
        | serviceConnectResponse =>
          dsimp only
          cases codecs.serviceConnectResponse.parse payload <;> rfl
        | serviceDisconnectResponse =>
          dsimp only
          cases codecs.serviceDisconnectResponse.parse payload <;> rfl
        | _ =>
          dsimp only
          generalize other _ payload = done
          generalize standardOther _ payload = standardDone
          cases done <;> cases standardDone <;> rfl
    | _ => rfl

theorem incoming_eq : (ServiceOrchestrator.reading codecs).incoming =
    (ServiceProcessor.reading codecs).incoming :=
  incoming_congr codecs _ _ _ _ _ _

/-- What there is to route in a message: its correlation id and payload. -/
def routable (messageBytes : Bytes) : Option (String × ServicePayload) :=
  (ServiceProcessor.reading codecs).incoming messageBytes

def reply (receipt : Receipt) : Option (Caller × ServicePayload) :=
  (ServiceProcessor.reading codecs).reply receipt

/-- What a received message puts into the default channel. -/
def forwarded (receipt : Receipt) : Option ServicePayload :=
  (ServiceProcessor.reading codecs).forwarded receipt

theorem reply_eq : (ServiceOrchestrator.reading codecs).reply = reply codecs := by
  funext receipt
  unfold reply Reading.reply
  rw [incoming_eq]

theorem forwarded_eq : (ServiceOrchestrator.reading codecs).forwarded = forwarded codecs := by
  funext receipt
  unfold forwarded Reading.forwarded
  rw [incoming_eq]

theorem destination_eq (router : InboundRouter CircuitMessageType) :
    (ServiceOrchestrator.reading codecs).destination router =
      (ServiceProcessor.reading codecs).destination router := by
  funext bytes
  unfold Reading.destination
  rw [incoming_eq]

/-! ## What an event does -/

/-- What receiving a message does to a host. -/
structure Received (before : Intake) (receipt : Receipt) (after : Intake) :
    Prop where
  network : before.network = receipt.bytes :: after.network
  receipts : after.receipts = before.receipts ++ [receipt]
  destination : receipt.destination = (ServiceProcessor.reading codecs).destination before.router
    receipt.bytes
  replies : after.router.replies = before.router.replies ++ (reply codecs receipt).toList
  expectedReplies : ∀ correlationId, after.router.expectedReplies.lookup correlationId =
    if (routable codecs receipt.bytes).map Prod.fst = some correlationId then
      none
    else
      before.router.expectedReplies.lookup correlationId

structure Kept (before after : Intake) : Prop where
  network : after.network = before.network
  receipts : after.receipts = before.receipts
  replies : after.router.replies = before.router.replies
  expectedReplies : after.router.expectedReplies = before.router.expectedReplies

inductive Changed (before : Intake) : Event → Intake → Prop
  | deliver (messageBytes : Bytes) :
    Changed before (.deliver messageBytes) (before.deliver messageBytes)
  | expectReply {correlationId : String} (caller : Caller) :
    correlationId ∉ before.router.expectedReplies →
    Changed before (.expectReply correlationId caller)
      { before with router := before.router.expectReply correlationId caller }
  | abandon (correlationId : String) : Changed before (.abandon correlationId)
    { before with router := before.router.abandon correlationId }
  | incoming {receipt : Receipt} {after : Intake} :
    Received codecs before receipt after → Changed before .incoming after
  | inbound {after : Intake} (returned : Except ServiceError Unit) :
    Kept before after → Changed before (.inbound returned) after
  | service (serviceId : String) (returned : Except ServiceError Unit) :
    Changed before (.service serviceId returned) before

variable {codecs}

theorem received_of_orchestrator {before after : Intake} {result : Except OrchestratorError Unit}
    (received : Intake.Received (ServiceOrchestrator.reading codecs) before receipt result after) :
    Received codecs before receipt after where
  network := received.network
  receipts := received.receipts
  destination := by
    rw [← destination_eq]
    exact received.destination
  replies := by
    rw [← reply_eq]
    exact received.replies
  expectedReplies := by
    unfold routable
    rw [← incoming_eq]
    exact received.expectedReplies

theorem received_of_processor {before after : Intake} {result : Except ServiceProcessorError Unit}
    (received : Intake.Received (ServiceProcessor.reading codecs) before receipt result after) :
    Received codecs before receipt after :=
  ⟨received.network, received.receipts, received.destination,
    received.replies, received.expectedReplies⟩

variable {before after : Host} {event : Event}

theorem step_cases (step : Step codecs before event after) :
    (∃ services first orchestratorEvent last, before = .orchestrator services first ∧
      after = .orchestrator services last ∧
      event.orchestrator = some orchestratorEvent ∧
      ServiceOrchestrator.Step codecs services first orchestratorEvent last) ∨
      ∃ hosted first last, before = .processor hosted first ∧ after = .processor hosted last ∧
        ServiceProcessor.Step codecs hosted first event.processor last := by
  cases before with
  | orchestrator services first =>
    obtain ⟨orchestratorEvent, same, rest⟩ := Option.bind_eq_some_iff.mp step
    obtain ⟨last, advanced, done⟩ := Option.bind_eq_some_iff.mp rest
    cases done
    exact Or.inl ⟨services, first, orchestratorEvent, last, rfl, rfl, same, advanced⟩
  | processor hosted first =>
    obtain ⟨last, advanced, done⟩ := Option.bind_eq_some_iff.mp step
    cases done
    exact Or.inr ⟨hosted, first, last, rfl, rfl, advanced⟩

theorem changed (step : Step codecs before event after) :
    Changed codecs before.intake event after.intake := by
  rcases step_cases step with
    ⟨services, first, orchestratorEvent, last, rfl, rfl, same, advanced⟩ |
      ⟨hosted, first, last, rfl, rfl, advanced⟩
  · have happened := happened codecs services advanced
    cases event with
    | service serviceId returned => cases same
    | deliver messageBytes =>
      cases same
      cases happened
      exact Changed.deliver messageBytes
    | expectReply correlationId caller =>
      cases same
      cases happened with
      | expectReply _ fresh => exact Changed.expectReply caller fresh
    | abandon correlationId =>
      cases same
      cases happened
      exact Changed.abandon correlationId
    | incoming =>
      cases same
      cases happened with
      | incoming _ received => exact Changed.incoming (received_of_orchestrator received)
    | inbound returned =>
      cases same
      cases happened
      exact Changed.inbound returned ⟨rfl, rfl, rfl, rfl⟩
  · have happened := happened advanced
    cases event with
    | service serviceId returned =>
      cases happened
      exact Changed.service serviceId returned
    | deliver messageBytes =>
      cases happened
      exact Changed.deliver messageBytes
    | expectReply correlationId caller =>
      cases happened with
      | expectReply _ fresh => exact Changed.expectReply caller fresh
    | abandon correlationId =>
      cases happened
      exact Changed.abandon correlationId
    | incoming =>
      cases happened with
      | incoming received => exact Changed.incoming (received_of_processor received)
    | inbound returned =>
      cases happened
      exact Changed.inbound returned ⟨rfl, rfl, rfl, rfl⟩

theorem calls_grow (step : Step codecs before event after) : before.calls <+: after.calls := by
  rcases step_cases step with
    ⟨services, first, orchestratorEvent, last, rfl, rfl, same, advanced⟩ |
      ⟨hosted, first, last, rfl, rfl, advanced⟩
  · cases happened codecs services advanced with
    | deliver | expectReply | abandon | incoming => exact List.prefix_rfl
    | inbound returned running received => exact List.IsPrefix.map _ (List.prefix_append _ _)
  · generalize event.processor = processorEvent at advanced
    cases happened advanced with
    | deliver | expectReply | abandon | incoming | inbound => exact List.prefix_rfl
    | service => exact List.prefix_append _ _

/-! ## What holds in all runs -/

variable (codecs) in
def Sound : Host → Prop
  | .orchestrator services state => ServiceOrchestrator.Sound codecs services state
  | .processor hosted state => ServiceProcessor.Sound codecs hosted state

theorem IsNew.sound (isNew : host.IsNew) : host.Sound codecs := by
  cases isNew with
  | orchestrator services => exact sound_new codecs services
  | processor hosted => exact sound_new

theorem Sound.step (sound : before.Sound codecs) (step : Step codecs before event after) :
    after.Sound codecs := by
  rcases step_cases step with
    ⟨services, first, orchestratorEvent, last, rfl, rfl, same, advanced⟩ |
      ⟨hosted, first, last, rfl, rfl, advanced⟩
  · exact ServiceOrchestrator.Sound.step sound advanced
  · exact ServiceProcessor.Sound.step sound advanced

def directMessage (codecs : Codecs) (payload : ServicePayload) : Option DirectMessage :=
  (ServiceProcessor.readInbound codecs payload).map ServiceMessage.direct

variable {payload : ServicePayload}

theorem directMessage_of_called {services : List ServiceDefinition} {call : Call ServiceDefinition}
    (called : ServiceOrchestrator.called codecs services payload = some call) :
    ∃ message, directMessage codecs payload = some message ∧
      Call.mk call.service.serviceId call.payload call.context =
        Call.ofMessage message.recipient message := by
  obtain ⟨messageType, bytes⟩ := payload
  have addressed : ∀ message : DirectMessage,
      ServiceOrchestrator.address services message = some call →
        Call.mk call.service.serviceId call.payload call.context =
          Call.ofMessage message.recipient message := by
    intro message address
    obtain ⟨service, found, same⟩ := Option.map_eq_some_iff.mp address
    have named := List.find?_some found
    simp only [decide_eq_true_eq] at named
    subst same
    simp only [Call.ofMessage, named.2]
  unfold ServiceOrchestrator.called at called
  unfold directMessage
  cases messageType with
  | adminDirectMessage =>
    simp only [ServiceOrchestrator.readInbound, parseOr] at called
    simp only [ServiceProcessor.readInbound]
    cases parsed : codecs.adminDirectMessage.parse bytes with
    | error error =>
      rw [parsed] at called
      cases called
    | ok message =>
      rw [parsed] at called
      exact ⟨message, rfl, addressed message called⟩
  | circuitDirectMessage =>
    simp only [ServiceOrchestrator.readInbound, parseOr] at called
    simp only [ServiceProcessor.readInbound]
    cases parsed : codecs.circuitDirectMessage.parse bytes with
    | error error =>
      rw [parsed] at called
      cases called
    | ok message =>
      rw [parsed] at called
      exact ⟨message, rfl, addressed message called⟩
  | _ => cases called

theorem Sound.exists_receipt {call : Call String}
    (sound : host.Sound codecs) (made : call ∈ host.calls) :
    ∃ receipt ∈ host.intake.receipts, ∃ payload message, forwarded codecs receipt = some payload ∧
      directMessage codecs payload = some message ∧
      call = Call.ofMessage message.recipient message := by
  cases host with
  | orchestrator services state =>
    obtain ⟨inner, listed, rfl⟩ := List.mem_map.mp made
    rw [sound.calls] at listed
    obtain ⟨payload, taken, called⟩ := List.mem_filterMap.mp listed
    have sent := sound.intake.forwarded.subset (List.mem_append_left _ taken)
    obtain ⟨receipt, received, forwarded⟩ := List.mem_filterMap.mp sent
    obtain ⟨message, read, same⟩ := directMessage_of_called called
    rw [forwarded_eq] at forwarded
    exact ⟨receipt, received, payload, message, forwarded, read, same⟩
  | processor hosted state =>
    have own : call ∈ state.callsOf call.service := List.mem_filter.mpr ⟨made, decide_eq_true rfl⟩
    rw [sound.calls] at own
    obtain ⟨message, taken, rfl⟩ := List.mem_map.mp own
    have handed := (sound.threads _).sent.subset (List.mem_append_left _ taken)
    obtain ⟨payload, taken, read⟩ := List.mem_filterMap.mp handed
    have sent := sound.intake.forwarded.subset (List.mem_append_left _ taken)
    obtain ⟨receipt, received, forwarded⟩ := List.mem_filterMap.mp sent
    have direct := (Option.filter_eq_some_iff.mp read).1
    refine ⟨receipt, received, payload, message.direct, forwarded, ?_, rfl⟩
    unfold directMessage
    rw [direct]
    rfl

theorem routable_of_forwarded {message : DirectMessage}
    (sent : forwarded codecs receipt = some payload)
    (read : directMessage codecs payload = some message) :
    routable codecs receipt.bytes = some (message.correlationId, payload) := by
  unfold forwarded Reading.forwarded at sent
  split at sent
  · rename_i correlationId other found _
    cases sent
    have routed := found
    unfold Reading.incoming at found
    split at found
    · rename_i incoming
      subst found
      unfold routable
      rw [routed]
      dsimp only [ServiceProcessor.reading] at incoming
      cases incoming_of_readIncoming incoming with
      | adminDirectMessage parsed =>
        simp only [directMessage, ServiceProcessor.readInbound, parsed,
          Option.map_some, ServiceMessage.direct, Option.some.injEq] at read
        rw [read]
      | circuitDirectMessage parsed =>
        simp only [directMessage, ServiceProcessor.readInbound, parsed,
          Option.map_some, ServiceMessage.direct, Option.some.injEq] at read
        rw [read]
      | serviceConnectResponse _ => cases read
      | serviceDisconnectResponse _ => cases read
    · cases found
  · cases sent

theorem directMessage_write (message : CircuitDirectMessage) : directMessage codecs
    (.circuitDirectMessage, codecs.circuitDirectMessage.write message) =
    some message := by
  unfold directMessage ServiceProcessor.readInbound
  rw [codecs.circuitDirectMessage.parse_write]
  rfl

section Received

variable {first last : Intake} {receipt : Receipt} (received : Received codecs first receipt last)
include received

theorem Received.delivered : last.delivered = first.delivered := by
  simp only [Intake.delivered, received.receipts, received.network,
    List.map_append, List.map_singleton, List.append_assoc,
    List.singleton_append]

theorem Received.lookup_of_lookup {correlationId : String} {expected : ExpectedReply}
    (found : last.router.expectedReplies.lookup correlationId = some expected) :
    first.router.expectedReplies.lookup correlationId = some expected ∧
      (routable codecs receipt.bytes).map Prod.fst ≠ some correlationId := by
  rw [received.expectedReplies] at found
  split at found
  · cases found
  · rename_i other
    exact ⟨found, other⟩

theorem Received.exists_expected {caller : Caller} {payload : ServicePayload}
    (replied : reply codecs receipt = some (caller, payload)) :
    ∃ correlationId expected, routable codecs receipt.bytes = some (correlationId, payload) ∧
      first.router.expectedReplies.lookup correlationId = some expected ∧
      expected.caller = caller := by
  unfold reply Reading.reply at replied
  split at replied
  · rename_i correlationId other addressee found goes
    cases replied
    have destination := received.destination
    unfold Reading.destination at destination
    rw [goes, found] at destination
    dsimp only at destination
    unfold InboundRouter.destination at destination
    split at destination
    · rename_i expected present
      split at destination
      · obtain rfl := InboundRouter.Destination.caller.inj destination
        exact ⟨correlationId, expected, found, present, rfl⟩
      · cases destination
    · cases destination
  · cases replied

end Received

/-! ## Circuit errors -/

section Errors

variable (codecs)

def errorId (messageBytes : Bytes) : Option String :=
  match codecs.networkMessage.parse messageBytes with
  | .ok ⟨.circuit, payload⟩ =>
    match codecs.circuitMessage.parse payload with
    | .ok ⟨.circuitErrorMessage, payload⟩ =>
      match codecs.circuitError.parse payload with
      | .ok error => some error.correlationId
      | .error _ => none
    | _ => none
  | _ => none

variable {codecs} {correlationId : String}

theorem routable_of_errorId {bytes : Bytes} (error : errorId codecs bytes = some correlationId) :
    routable codecs bytes = none := by
  unfold errorId at error
  split at error
  · rename_i payload message
    split at error
    · rename_i payload circuitMessage
      simp only [routable, Reading.incoming, ServiceProcessor.reading,
        readIncoming, parseOr, message, circuitMessage, Except.mapError, bind,
        Except.bind]
      rfl
    · cases error
  · cases error

variable (codecs)

/-- The next message is a circuit error that answers a request whose caller is
still waiting. -/
def ErrorAnswers (intake : Intake) (correlationId : String) : Prop := ∃ bytes rest,
    intake.network = bytes :: rest ∧ errorId codecs bytes = some correlationId ∧
      correlationId ∈ intake.router.expectedReplies

/-- A caller does not wait any longer once an error for it is received. -/
def Releases (before : Host) (event : Event) : Prop := ∀ after, Step codecs before event after →
    event = .incoming → ∀ correlationId, ErrorAnswers codecs before.intake correlationId →
      correlationId ∉ after.router.expectedReplies

variable {codecs}

theorem Received.mem_expectedReplies {before after : Intake} {receipt : Receipt}
    (received : Received codecs before receipt after)
    (expected : correlationId ∈ before.router.expectedReplies)
    (other : (routable codecs receipt.bytes).map Prod.fst ≠ some correlationId) :
    correlationId ∈ after.router.expectedReplies := by
  rw [← Finmap.lookup_isSome] at expected ⊢
  rw [received.expectedReplies, if_neg other]
  exact expected

theorem releases_iff (step : Step codecs before event after) : Releases codecs before event ↔
    (event = .incoming → ∀ correlationId, ¬ ErrorAnswers codecs before.intake correlationId) := by
  refine ⟨?_, ?_⟩
  · intro releases incoming correlationId answers
    subst incoming
    apply releases after step rfl correlationId answers
    obtain ⟨bytes, rest, waits, error, expected⟩ := answers
    cases changed step with
    | incoming received =>
      have same := received.network
      rw [waits] at same
      apply received.mem_expectedReplies expected
      rw [← (List.cons.inj same).1, routable_of_errorId error]
      exact nofun
  · intro none after _ incoming correlationId answers
    exact absurd answers (none incoming correlationId)

variable {first last : Host} {path : List (Host × Event)}

/-- An error answer releases the waiting caller in exactly the runs in which no
error answers a waiting caller. -/
theorem errors_release_iff (run : Run (Step codecs) first path last) :
    Run.Meets (Releases codecs) path ↔ Run.Meets
        (fun before event =>
          event = .incoming → ∀ correlationId,
            ¬ ErrorAnswers codecs before.intake correlationId) path := by
  have throughout : Run.Throughout (fun _ => True) path last := ⟨fun _ _ => trivial, trivial⟩
  exact run.meets_congr throughout fun _ _ _ _ step => releases_iff step

variable (codecs)

/-- The caller waits, and nothing that has been delivered releases it. -/
def Waits (correlationId : String) (intake : Intake) : Prop :=
  correlationId ∈ intake.router.expectedReplies ∧ ∀ bytes ∈ intake.network,
    (routable codecs bytes).map Prod.fst ≠ some correlationId

def Event.Silent (correlationId : String) : Event → Prop
  | .deliver bytes => (routable codecs bytes).map Prod.fst ≠ some correlationId
  | _ => True

variable {codecs}

theorem mem_expectedReplies_abandon {router : InboundRouter CircuitMessageType}
    {abandoned : String} :
    correlationId ∈ (router.abandon abandoned).expectedReplies ↔
      correlationId ∈ router.expectedReplies := by
  unfold InboundRouter.abandon
  split
  · rename_i expected found
    have present : abandoned ∈ router.expectedReplies := Finmap.mem_of_lookup_eq_some found
    rw [Finmap.mem_insert]
    constructor
    · intro either
      rcases either with rfl | present
      · exact present
      · exact present
    · exact Or.inr
  · rfl

theorem Waits.changed {before after : Intake} {event : Event}
    (waits : Waits codecs correlationId before) (changed : Changed codecs before event after)
    (silent : event.Silent codecs correlationId) :
    Waits codecs correlationId after := by
  obtain ⟨expected, others⟩ := waits
  cases changed with
  | deliver messageBytes =>
    refine ⟨expected, ?_⟩
    intro bytes waiting
    rcases List.mem_append.mp waiting with earlier | now
    · exact others bytes earlier
    · rw [List.mem_singleton.mp now]
      exact silent
  | expectReply caller _ => exact ⟨Finmap.mem_insert.mpr (Or.inr expected), others⟩
  | abandon abandoned => exact ⟨mem_expectedReplies_abandon.mpr expected, others⟩
  | incoming received =>
    rw [received.network] at others
    obtain ⟨other, rest⟩ := List.forall_mem_cons.mp others
    exact ⟨received.mem_expectedReplies expected other, rest⟩
  | inbound _ kept =>
    unfold Waits
    rw [kept.network, kept.expectedReplies]
    exact ⟨expected, others⟩
  | service _ _ => exact ⟨expected, others⟩

theorem Waits.run (run : Run (Step codecs) first path last)
    (waits : Waits codecs correlationId first.intake)
    (silent : Run.Meets (fun _ event => event.Silent codecs correlationId) path) :
    Waits codecs correlationId last.intake := by
  have throughout : Run.Throughout (fun host => Waits codecs correlationId host.intake) path last :=
    run.guarded waits
      (fun _ _ _ waits silent step =>
        waits.changed (Host.changed step) silent)
      silent
  exact throughout.2

/-! A service sends a request to a service that is not connected, and the node
answers with an error. -/

def unconnectedError : CircuitError where
  correlationId := "1"
  serviceId := "a"
  circuitName := "x"
  error := .errorRecipientNotInDirectory
  errorMessage := "Recipient is not in the service directory: b"

def unconnectedEvents : List Event :=
  [.expectReply "1" 0, .deliver
    (createMessage .protobuf (Codecs.protobuf.circuitError.write unconnectedError)
      .circuitErrorMessage),
    .incoming]

/-- The error has been received, nothing waits on the connection, and the caller
has got no reply.  It goes on waiting until a direct message or a response with
its correlation id is delivered. -/
def Stranded (host : Host) : Prop := ∃ path last, Run (Step .protobuf) host path last ∧
    path.map Prod.snd = unconnectedEvents ∧
    last.intake.network = [] ∧ last.router.replies = [] ∧
    ∀ later reached, Run (Step .protobuf) last later reached →
      Run.Meets (fun _ event => event.Silent .protobuf "1") later →
        "1" ∈ reached.router.expectedReplies

theorem stranded_of_leads {host : Host}
    (leads : Run.leads (advance .protobuf) unconnectedEvents host
      (fun last =>
        decide (last.intake.network = []) && decide (last.router.replies = []) &&
          decide ("1" ∈ last.router.expectedReplies)) = true) :
    Stranded host := by
  obtain ⟨path, last, run, labels, checked⟩ := Run.exists_run_of_leads _ _ _ _ leads
  simp only [Bool.and_eq_true, decide_eq_true_eq] at checked
  obtain ⟨⟨received, unanswered⟩, expected⟩ := checked
  refine ⟨path, last, run, labels, received, unanswered, ?_⟩
  intro later reached continued silent
  have waits : Waits .protobuf "1" last.intake := by
    refine ⟨expected, ?_⟩
    rw [received]
    exact nofun
  exact (Waits.run continued waits silent).1

theorem callers_stranded_by_error : Stranded (.orchestrator [⟨"x", "a", "scabbard"⟩] .new) ∧
      Stranded (.processor {"a"} .new) :=
  ⟨stranded_of_leads (by decide +kernel), stranded_of_leads (by decide +kernel)⟩

def errorNext (intake : Intake) : Bool :=
  intake.network.head?.any fun bytes => (errorId .protobuf bytes).isSome

theorem not_errorAnswers_of_errorNext {intake : Intake} (other : errorNext intake = false)
    (correlationId : String) :
    ¬ ErrorAnswers .protobuf intake correlationId := by
  intro answers
  obtain ⟨bytes, rest, waits, error, _⟩ := answers
  unfold errorNext at other
  rw [waits, List.head?_cons, Option.any_some, error] at other
  cases other

/-- A reply releases its caller. -/
theorem caller_released_by_reply : ∃ path last,
      Run (Step .protobuf) (.processor {"a"} .new) path last ∧ path.map Prod.snd =
          [.expectReply "1" 0, .deliver (createDirectMessage .protobuf ⟨"x", "b", "a", [2], "1"⟩),
            .incoming] ∧
        Run.Meets (Releases .protobuf) path ∧
        "1" ∉ last.router.expectedReplies ∧
        last.router.replies.map Prod.fst = [0] := by
  obtain ⟨path, last, run, labels, checked⟩ := Run.exists_run_of_plays (advance .protobuf)
      [.expectReply "1" 0, .deliver (createDirectMessage .protobuf ⟨"x", "b", "a", [2], "1"⟩),
        .incoming]
      (.processor {"a"} .new)
      (fun path last =>
        (path.all fun visited => !errorNext visited.1.intake) &&
          decide ("1" ∉ last.router.expectedReplies) &&
          decide (last.router.replies.map Prod.fst = [0]))
      (by decide +kernel)
  simp only [Bool.and_eq_true, decide_eq_true_eq, List.all_eq_true, Bool.not_eq_true'] at checked
  obtain ⟨⟨others, released⟩, replies⟩ := checked
  refine ⟨path, last, run, labels, ?_, released, replies⟩
  apply (errors_release_iff run).mpr
  intro visited member _
  exact not_errorAnswers_of_errorNext (others visited member)

end Errors

end Host

end Splinter.Service
