import Splinter.Library.Run
import Splinter.Service.Intake
import Mathlib.Data.Fintype.EquivFin

/-!
# The threads of the orchestrator

`run_incoming_loop` routes the messages of the node; what is not a reply goes to
`run_inbound_loop`, which calls the services.  Each loop returns at its first
error, and when the inbound loop has returned, its channel is closed.  The channels are
bounded in the source, where a send to a full one waits, and unbounded here.
-/

namespace Splinter.Service

open Library Network Circuits.Protos Intake

inductive OrchestratorError where
  | internal (source : ErrorText)
  deriving DecidableEq

structure ServiceOrchestrator where
  intake : Intake
  incoming : Thread OrchestratorError
  inbound : Thread OrchestratorError
  calls : List (Call ServiceDefinition)

namespace ServiceOrchestrator

def new : ServiceOrchestrator where
  intake := .new
  incoming := .running
  inbound := .running
  calls := []

variable (codecs : Codecs) (services : List ServiceDefinition)

/-- The circuit errors are parsed, too, but only logged. -/
def reading : Reading OrchestratorError where
  read := readIncoming codecs (fun _ source => .internal source) fun
    | .circuitErrorMessage, payload =>
      (parseOr (fun _ source => .internal source) "" codecs.circuitError payload).map fun _ => ()
    | _, _ => .ok ()
  unroutable := fun error => .internal error.display

def address (message : DirectMessage) : Option (Call ServiceDefinition) :=
  (services.find? fun service =>
    service.circuit = message.circuit ∧ service.serviceId = message.recipient).map fun service =>
      Call.ofMessage service message

def readInbound (message : ServicePayload) :
    Except OrchestratorError (Option (Call ServiceDefinition)) :=
  match message.1 with
  | .adminDirectMessage =>
    (parseOr (fun _ source => .internal source) "" codecs.adminDirectMessage
      message.2).map (address services)
  | .circuitDirectMessage =>
    (parseOr (fun _ source => .internal source) ""
      codecs.circuitDirectMessage message.2).map (address services)
  -- the others are only logged
  | _ => .ok none

/-- The inbound thread after it has received from its channel. -/
def setInbound (channel : Channel ServicePayload)
    (orchestrator : ServiceOrchestrator) : ServiceOrchestrator :=
  { orchestrator with
    intake := { orchestrator.intake with
      router := { orchestrator.intake.router with defaultSender := channel } } }

/-- The inbound thread returns, which drops the receiving end. -/
def endInbound (error : OrchestratorError) (channel : Channel ServicePayload)
    (orchestrator : ServiceOrchestrator) : ServiceOrchestrator :=
  { orchestrator.setInbound channel.close with inbound := .ended error }

/-- What happens to an orchestrator: a message is delivered on its connection, a
caller expects a reply under a new correlation id or drops its future, or one
of the threads handles the next message.  A service that is called returns the
given result. -/
inductive Event where
  | deliver (messageBytes : Bytes)
  | expectReply (correlationId : String) (caller : Caller)
  | abandon (correlationId : String)
  | incoming
  | inbound (returned : Except ServiceError Unit)

/-- The orchestrator after an event, if it can happen. -/
def advance (event : Event) (orchestrator : ServiceOrchestrator) : Option ServiceOrchestrator :=
  match event with
  | .deliver messageBytes =>
    some { orchestrator with intake := orchestrator.intake.deliver messageBytes }
  | .expectReply correlationId caller =>
    if correlationId ∈ orchestrator.intake.router.expectedReplies then
      none
    else
      some
        { orchestrator with
          intake := { orchestrator.intake with
            router := orchestrator.intake.router.expectReply correlationId caller } }
  | .abandon correlationId =>
    some
      { orchestrator with
        intake := { orchestrator.intake with
          router := orchestrator.intake.router.abandon correlationId } }
  | .incoming =>
    match orchestrator.incoming,
      orchestrator.intake.receive (reading codecs) with
    | .running, some (.ok _, intake) => some { orchestrator with intake := intake }
    | .running, some (.error error, intake) =>
      some { orchestrator with intake := intake, incoming := .ended error }
    | _, _ => none
  | .inbound returned =>
    match orchestrator.inbound,
      orchestrator.intake.router.defaultSender.receive with
    | .running, some (message, channel) =>
      match readInbound codecs services message with
      | .error error => some (orchestrator.endInbound error channel)
      | .ok none => some (orchestrator.setInbound channel)
      | .ok (some call) =>
        let calling := { orchestrator with calls := orchestrator.calls ++ [call] }
        match returned with
        | .ok _ => some (calling.setInbound channel)
        | .error error => some (calling.endInbound (.internal error.display) channel)
    | _, _ => none

def Step (before : ServiceOrchestrator) (event : Event) (after : ServiceOrchestrator) : Prop :=
  advance codecs services event before = some after

/-! ## Serving -/

def called (message : ServicePayload) : Option (Call ServiceDefinition) :=
  match readInbound codecs services message with
  | .ok call => call
  | .error _ => none

/-- The call that is due for a received message: it is a direct message to a
service that is hosted here, and no caller waits for it. -/
def due (receipt : Receipt) : Option (Call ServiceDefinition) :=
  ((reading codecs).forwarded receipt).bind (called codecs services)

/-- Something that a thread does. -/
def Event.Internal : Event → Prop
  | .incoming | .inbound _ => True
  | _ => False

variable (orchestrator : ServiceOrchestrator)

def Idle : Prop := ∀ event, event.Internal →
    ∀ after, ¬ Step codecs services orchestrator event after

/-- Every message has been received, every reply has been sent to its caller
and every direct message to a hosted service has been passed to it, exactly
once and in order. -/
structure Served (orchestrator : ServiceOrchestrator) : Prop where
  received : orchestrator.intake.network = []
  answered : orchestrator.intake.router.replies =
    orchestrator.intake.receipts.filterMap (reading codecs).reply
  called : orchestrator.calls = orchestrator.intake.receipts.filterMap (due codecs services)

/-- A message that can be read is delivered; a future is dropped when no reply
is expected any more; a service that is called returns without an error. -/
def Harmless : Event → Prop
  | .deliver messageBytes => ∃ found, (reading codecs).read messageBytes = .ok found
  | .abandon correlationId => correlationId ∉ orchestrator.intake.router.expectedReplies
  | .inbound returned =>
    ∀ message channel call, orchestrator.intake.router.defaultSender.receive =
      some (message, channel) →
      readInbound codecs services message = .ok (some call) → returned = .ok ()
  | _ => True

/-- As long as nothing harmful happens from now on, everything is served
whenever the threads have nothing left to do. -/
def Reliable : Prop := ∀ path last,
    Run (Step codecs services) orchestrator path last → Run.Meets (Harmless codecs services) path →
      Idle codecs services last → Served codecs services last

/-! ## What an event does -/

/-- How the inbound thread goes on after a message. -/
def inboundResult (message : ServicePayload)
    (returned : Except ServiceError Unit) : Except OrchestratorError Unit :=
  match readInbound codecs services message with
  | .error error => .error error
  | .ok none => .ok ()
  | .ok (some _) => returned.mapError fun error => .internal error.display

inductive Happened (before : ServiceOrchestrator) :
    Event → ServiceOrchestrator → Prop
  | deliver (messageBytes : Bytes) : Happened before (.deliver messageBytes)
    { before with intake := before.intake.deliver messageBytes }
  | expectReply {correlationId : String} (caller : Caller) :
    correlationId ∉ before.intake.router.expectedReplies →
    Happened before (.expectReply correlationId caller)
      { before with
        intake := { before.intake with
          router := before.intake.router.expectReply correlationId caller } }
  | abandon (correlationId : String) : Happened before (.abandon correlationId)
    { before with
      intake := { before.intake with router := before.intake.router.abandon correlationId } }
  | incoming {receipt : Receipt} {result : Except OrchestratorError Unit} {intake : Intake} :
    before.incoming = .running →
    Intake.Received (reading codecs) before.intake receipt result intake →
    Happened before .incoming { before with intake := intake, incoming := .after result }
  | inbound {message : ServicePayload} {channel : Channel ServicePayload}
    (returned : Except ServiceError Unit) :
    before.inbound = .running →
    before.intake.router.defaultSender.receive = some (message, channel) →
    Happened before (.inbound returned)
      { before.setInbound (closeAfter (inboundResult codecs services message returned) channel) with
        inbound := .after (inboundResult codecs services message returned)
        calls := before.calls ++ (called codecs services message).toList }

theorem happened {before after : ServiceOrchestrator} {event : Event}
    (step : Step codecs services before event after) :
    Happened codecs services before event after := by
  unfold Step advance at step
  cases event with
  | deliver messageBytes =>
    cases step
    exact Happened.deliver messageBytes
  | expectReply correlationId caller =>
    dsimp only at step
    split at step
    · cases step
    · rename_i fresh
      cases step
      exact Happened.expectReply caller fresh
  | abandon correlationId =>
    cases step
    exact Happened.abandon correlationId
  | incoming =>
    dsimp only at step
    split at step
    · rename_i running received
      cases step
      obtain ⟨receipt, received⟩ := Intake.received _ received
      have same : before.incoming = Thread.after (.ok ()) := running
      rw [same]
      exact Happened.incoming running received
    · rename_i error intake running received
      cases step
      obtain ⟨receipt, received⟩ := Intake.received _ received
      exact Happened.incoming running received
    · cases step
  | inbound returned =>
    dsimp only at step
    split at step
    · rename_i message channel running received
      have happened : Happened codecs services before (.inbound returned) _ :=
        Happened.inbound returned running received
      obtain ⟨intake, incoming, inbound, calls⟩ := before
      dsimp only at running
      subst running
      unfold called inboundResult at happened
      split at step
      · rename_i error unread
        cases step
        simp only [unread, Option.toList_none, List.append_nil] at happened
        exact happened
      · rename_i unaddressed
        cases step
        simp only [unaddressed, Option.toList_none, List.append_nil] at happened
        exact happened
      · rename_i call addressed
        simp only [addressed, Option.toList_some] at happened
        split at step
        · cases step
          exact happened
        · cases step
          exact happened
    · cases step

/-! ## What holds in all runs -/

/-- The services have been called for what the inbound thread has taken, and
its channel is closed when it has ended. -/
structure Sound (orchestrator : ServiceOrchestrator) : Prop where
  intake : orchestrator.intake.Sound (reading codecs)
  calls : orchestrator.calls = orchestrator.intake.router.defaultSender.taken.filterMap
    (called codecs services)
  closed : orchestrator.intake.router.defaultSender.closed = true ↔ orchestrator.inbound ≠ .running

theorem sound_new : Sound codecs services new where
  intake := Intake.sound_new _
  calls := rfl
  closed := by decide

variable {codecs services} {before after : ServiceOrchestrator} {event : Event}
  {Failure Item : Type} {intake : Intake} {result : Except OrchestratorError Unit}
  {correlationId : String}

theorem taken_closeAfter (result : Except Failure Unit) (channel : Channel Item) :
    (closeAfter result channel).taken = channel.taken := by
  cases result <;> rfl

theorem Sound.step (sound : Sound codecs services before)
    (step : Step codecs services before event after) :
    Sound codecs services after := by
  cases happened codecs services step with
  | deliver messageBytes => exact ⟨sound.intake.congr rfl rfl rfl id, sound.calls, sound.closed⟩
  | expectReply caller _ => exact ⟨sound.intake.congr rfl rfl rfl id, sound.calls, sound.closed⟩
  | abandon correlationId =>
    have same := before.intake.router.abandon_eq correlationId
    exact
      ⟨sound.intake.congr rfl same.1 (by rw [same.2]) (by rw [same.2]; exact id),
        by rw [same.2]; exact sound.calls, by rw [same.2]; exact sound.closed⟩
  | incoming running received =>
    refine ⟨sound.intake.receive received, ?_, ?_⟩
    · rw [received.defaultSender, taken_forward]
      exact sound.calls
    · rw [received.defaultSender, closed_forward]
      exact sound.closed
  | @inbound message channel returned running received =>
    have opened : channel.closed = false := by
      rw [Channel.closed_of_receive received]
      exact Bool.eq_false_iff.mpr fun closed => sound.closed.mp closed running
    refine ⟨sound.intake.congr rfl rfl ?_ ?_, ?_, ?_⟩
    · rw [← Channel.sent_of_receive received]
      cases inboundResult codecs services message returned <;> rfl
    · intro _
      rw [← Channel.closed_of_receive received]
      exact opened
    · dsimp only [setInbound]
      rw [taken_closeAfter, Channel.taken_of_receive received, List.filterMap_append, sound.calls]
      cases shown : called codecs services message <;> simp [shown]
    · dsimp only [setInbound]
      cases inboundResult codecs services message returned <;>
        simp [closeAfter, Thread.after, opened, Channel.close]

variable {receipt : Receipt} {message : ServicePayload} {first last : ServiceOrchestrator}
  {path : List (ServiceOrchestrator × Event)}

theorem exists_readInbound (forwarded : (reading codecs).forwarded receipt = some message) :
    ∃ call, readInbound codecs services message = .ok call := by
  unfold Reading.forwarded at forwarded
  split at forwarded
  · rename_i id payload found _
    cases forwarded
    unfold Reading.incoming at found
    split at found
    · rename_i read
      subst found
      dsimp only [reading] at read
      cases incoming_of_readIncoming read with
      | @adminDirectMessage message _ parsed =>
        refine ⟨address services message, ?_⟩
        simp only [readInbound, parseOr_eq_ok_iff.mpr parsed, Except.map]
      | @circuitDirectMessage message _ parsed =>
        refine ⟨address services message, ?_⟩
        simp only [readInbound, parseOr_eq_ok_iff.mpr parsed, Except.map]
      | serviceConnectResponse _ => exact ⟨none, rfl⟩
      | serviceDisconnectResponse _ => exact ⟨none, rfl⟩
    · cases found
  · cases forwarded

theorem Sound.exists_readInbound (sound : Sound codecs services before)
    {channel : Channel ServicePayload}
    (received : before.intake.router.defaultSender.receive = some (message, channel)) :
    ∃ call, readInbound codecs services message = .ok call := by
  have sent : message ∈ before.intake.router.defaultSender.sent := by
    rw [Channel.sent, Channel.waiting_of_receive received]
    exact List.mem_append_right _ (List.mem_cons_self ..)
  obtain ⟨receipt, _, forwarded⟩ := List.mem_filterMap.mp (sound.intake.forwarded.subset sent)
  exact ServiceOrchestrator.exists_readInbound forwarded

/-! ## Harmless events -/

variable (codecs) in
/-- Both threads are running, everything that waits can be read, and every
caller that is registered waits. -/
structure Healthy (orchestrator : ServiceOrchestrator) : Prop where
  incoming : orchestrator.incoming = .running
  inbound : orchestrator.inbound = .running
  readable : ∀ bytes ∈ orchestrator.intake.network, ∃ found, (reading codecs).read bytes = .ok found
  waiting : orchestrator.intake.router.AllWait

theorem healthy_new : Healthy codecs new where
  incoming := rfl
  inbound := rfl
  readable := nofun
  waiting := by
    intro correlationId expected found
    simp [new, Intake.new, InboundRouter.new] at found

theorem inboundResult_eq_ok_iff {returned : Except ServiceError Unit}
    (readable : ∃ call, readInbound codecs services message = .ok call) :
    inboundResult codecs services message returned = .ok () ↔
      ∀ call, readInbound codecs services message = .ok (some call) → returned = .ok () := by
  obtain ⟨call, read⟩ := readable
  unfold inboundResult
  rw [read]
  cases call with
  | none => simp
  | some call => simp [mapError_eq_ok_iff]

theorem destination_ne_nobody {router : InboundRouter CircuitMessageType} {bytes : Bytes}
    (waiting : router.AllWait) :
    (reading codecs).destination router bytes ≠ .nobody := by
  unfold Reading.destination
  split
  · rename_i id payload _
    unfold InboundRouter.destination
    split
    · rename_i expected found
      simp [waiting id expected found]
    · simp
  · simp

theorem waits_of_received {after : Intake}
    (received : Intake.Received (reading codecs) intake receipt result after)
    (accepted : receipt.destination ≠ .nobody)
    (waiting : after.router.AllWait) {expected : ExpectedReply}
    (found : intake.router.expectedReplies.lookup correlationId = some expected) :
    expected.waits = true := by
  have later := received.expectedReplies correlationId
  split at later
  · rename_i routed
    rw [received.destination] at accepted
    obtain ⟨⟨id, payload⟩, incoming, same⟩ := Option.map_eq_some_iff.mp routed
    subst same
    simp only [Reading.destination, incoming, InboundRouter.destination, found] at accepted
    by_contra gone
    simp [gone] at accepted
  · rw [found] at later
    exact waiting _ _ later

theorem healthy_received_iff (sound : Sound codecs services before)
    (running : before.incoming = .running)
    (received : Intake.Received (reading codecs) before.intake receipt result intake) :
    Healthy codecs { before with intake := intake, incoming := .after result } ↔
      Healthy codecs before := by
  constructor
  · intro healthy
    have succeeded := (Thread.after_eq_running_iff _).mp healthy.incoming
    obtain ⟨accepted, _⟩ := received.result.mp succeeded
    refine ⟨running, healthy.inbound, ?_, ?_⟩
    · intro bytes member
      rw [received.network, List.mem_cons] at member
      rcases member with rfl | later
      · by_contra unread
        refine accepted (Or.inl ?_)
        cases read : (reading codecs).read receipt.bytes with
        | ok found => exact (unread ⟨found, read⟩).elim
        | error failure => exact ⟨failure, rfl⟩
      · exact healthy.readable bytes later
    · intro correlationId expected found
      exact waits_of_received received (fun nobody => accepted (Or.inr nobody))
        healthy.waiting found
  · intro healthy
    have opened : before.intake.router.defaultSender.closed = false :=
      Bool.eq_false_iff.mpr fun closed => sound.closed.mp closed healthy.inbound
    have succeeded : result = .ok () := by
      refine received.result.mpr ⟨?_, ?_⟩
      · intro rejected
        rcases rejected with ⟨failure, unread⟩ | nobody
        · obtain ⟨found, read⟩ := healthy.readable receipt.bytes
            (received.network ▸ List.mem_cons_self ..)
          rw [read] at unread
          cases unread
        · rw [received.destination] at nobody
          exact destination_ne_nobody healthy.waiting nobody
      · intro closed
        rw [opened] at closed
        cases closed
    refine ⟨(Thread.after_eq_running_iff _).mpr succeeded, healthy.inbound, ?_, ?_⟩
    · intro bytes member
      exact healthy.readable bytes (received.network ▸ List.mem_cons_of_mem _ member)
    · intro correlationId expected found
      rw [received.expectedReplies] at found
      split at found
      · cases found
      · exact healthy.waiting _ _ found

theorem healthy_deliver_iff (messageBytes : Bytes) : Healthy codecs
    { before with intake := before.intake.deliver messageBytes } ↔
      Healthy codecs before ∧ Harmless codecs services before (.deliver messageBytes) := by
  constructor
  · intro healthy
    refine ⟨⟨healthy.incoming, healthy.inbound, ?_, healthy.waiting⟩, ?_⟩
    · exact fun bytes member =>
        healthy.readable bytes (List.mem_append_left _ member)
    · exact healthy.readable messageBytes (List.mem_append_right _ (List.mem_singleton.mpr rfl))
  · rintro ⟨healthy, read⟩
    refine ⟨healthy.incoming, healthy.inbound, ?_, healthy.waiting⟩
    intro bytes member
    rcases List.mem_append.mp member with earlier | new
    · exact healthy.readable bytes earlier
    · rw [List.mem_singleton.mp new]
      exact read

theorem healthy_expectReply_iff (caller : Caller)
    (fresh : correlationId ∉ before.intake.router.expectedReplies) :
    Healthy codecs
      { before with
        intake := { before.intake with
            router := before.intake.router.expectReply correlationId caller } } ↔
      Healthy codecs before := by
  have absent := Finmap.lookup_eq_none.mpr fresh
  constructor
  · intro healthy
    refine ⟨healthy.incoming, healthy.inbound, healthy.readable, ?_⟩
    intro other expected found
    apply healthy.waiting other expected
    have different : other ≠ correlationId := by
      rintro rfl
      rw [absent] at found
      cases found
    exact (Finmap.lookup_insert_of_ne _ different).trans found
  · intro healthy
    refine ⟨healthy.incoming, healthy.inbound, healthy.readable, ?_⟩
    intro other expected found
    rcases lookup_of_insert found with earlier | ⟨_, rfl⟩
    · exact healthy.waiting other expected earlier
    · rfl

theorem healthy_abandon_iff (correlationId : String) :
    Healthy codecs { before with
      intake := { before.intake with router := before.intake.router.abandon correlationId } } ↔
      Healthy codecs before ∧ Harmless codecs services before (.abandon correlationId) := by
  by_cases registered : correlationId ∈ before.intake.router.expectedReplies
  · obtain ⟨expected, found⟩ := Finmap.mem_iff.mp registered
    refine iff_of_false ?_ fun both => both.2 registered
    intro healthy
    have waits := healthy.waiting correlationId { expected with waits := false }
    simp [InboundRouter.abandon, found] at waits
  · have unchanged : before.intake.router.abandon correlationId = before.intake.router := by
      simp only [InboundRouter.abandon, Finmap.lookup_eq_none.mpr registered]
    rw [unchanged]
    exact (and_iff_left registered).symm

theorem healthy_step_iff (sound : Sound codecs services before)
    (step : Step codecs services before event after) :
    Healthy codecs after ↔ Healthy codecs before ∧ Harmless codecs services before event := by
  cases happened codecs services step with
  | deliver messageBytes => exact healthy_deliver_iff messageBytes
  | @expectReply correlationId caller fresh =>
    rw [healthy_expectReply_iff caller fresh]
    exact (and_iff_left trivial).symm
  | abandon correlationId => exact healthy_abandon_iff correlationId
  | incoming running received =>
    rw [healthy_received_iff sound running received]
    exact (and_iff_left trivial).symm
  | @inbound message channel returned running received =>
    have goesOn : inboundResult codecs services message returned = .ok () ↔
        Harmless codecs services before (.inbound returned) := by
      rw [inboundResult_eq_ok_iff (sound.exists_readInbound received)]
      constructor
      · intro returns taken rest call again
        rw [received] at again
        cases again
        exact returns call
      · intro harmless call
        exact harmless message channel call received
    rw [← goesOn, ← Thread.after_eq_running_iff]
    constructor
    · intro healthy
      exact ⟨⟨healthy.incoming, running, healthy.readable, healthy.waiting⟩, healthy.inbound⟩
    · rintro ⟨healthy, goes⟩
      exact ⟨healthy.incoming, goes, healthy.readable, healthy.waiting⟩

theorem healthy_iff_harmless (run : Run (Step codecs services) first path last)
    (sound : Sound codecs services first) (healthy : Healthy codecs first) :
    Healthy codecs last ↔ Run.Meets (Harmless codecs services) path :=
  run.holds_last_iff (Sound codecs services) (Healthy codecs)
    (Harmless codecs services) sound healthy
    (fun _ _ _ => Sound.step)
    (fun _ _ _ => healthy_step_iff)

theorem Sound.run (sound : Sound codecs services first)
    (run : Run (Step codecs services) first path last) :
    Sound codecs services last :=
  run.invariant sound fun _ _ _ => Sound.step

/-! ## Idle threads -/

theorem exists_incoming (running : before.incoming = .running)
    (waits : before.intake.network ≠ []) :
    ∃ after, Step codecs services before .incoming after := by
  cases received : before.intake.receive (reading codecs) with
  | none => exact (waits ((receive_eq_none_iff _ _).mp received)).elim
  | some outcome =>
    obtain ⟨result, intake⟩ := outcome
    simp only [Step, advance, running, received]
    cases result with
    | ok _ => exact ⟨_, rfl⟩
    | error error => exact ⟨_, rfl⟩

theorem exists_inbound (running : before.inbound = .running)
    (waits : before.intake.router.defaultSender.waiting ≠ [])
    (returned : Except ServiceError Unit) :
    ∃ after, Step codecs services before (.inbound returned) after := by
  cases received : before.intake.router.defaultSender.receive with
  | none => exact (waits ((Channel.receive_eq_none_iff _).mp received)).elim
  | some outcome =>
    obtain ⟨message, channel⟩ := outcome
    simp only [Step, advance, running, received]
    rcases readInbound codecs services message with error | _ | call
    · exact ⟨_, rfl⟩
    · exact ⟨_, rfl⟩
    · cases returned with
      | ok _ => exact ⟨_, rfl⟩
      | error error => exact ⟨_, rfl⟩

theorem network_of_idle (idle : Idle codecs services before)
    (running : before.incoming = .running) :
    before.intake.network = [] := by
  by_contra waits
  obtain ⟨after, step⟩ := exists_incoming running waits
  exact idle .incoming trivial after step

theorem waiting_of_idle (idle : Idle codecs services before) (running : before.inbound = .running) :
    before.intake.router.defaultSender.waiting = [] := by
  by_contra waits
  obtain ⟨after, step⟩ := exists_inbound running waits (.ok ())
  exact idle (.inbound (.ok ())) trivial after step

theorem filterMap_forwarded (receipts : List Receipt) :
    (receipts.filterMap (reading codecs).forwarded).filterMap (called codecs services) =
      receipts.filterMap (due codecs services) :=
  List.filterMap_filterMap

theorem served_of_healthy (sound : Sound codecs services before) (healthy : Healthy codecs before)
    (idle : Idle codecs services before) :
    Served codecs services before where
  received := network_of_idle idle healthy.incoming
  answered := sound.intake.replies
  called := by
    have opened : before.intake.router.defaultSender.closed = false :=
      Bool.eq_false_iff.mpr fun closed => sound.closed.mp closed healthy.inbound
    have complete := sound.intake.complete opened
    rw [Channel.sent, waiting_of_idle idle healthy.inbound, List.append_nil] at complete
    rw [sound.calls, complete, filterMap_forwarded]

theorem reliable_of_healthy (sound : Sound codecs services before)
    (healthy : Healthy codecs before) :
    Reliable codecs services before := by
  intro path last run harmless idle
  exact served_of_healthy (sound.run run)
    ((healthy_iff_harmless run sound healthy).mpr harmless) idle

/-- The number of things that the threads have to do, at most. -/
def work (orchestrator : ServiceOrchestrator) : Nat := 2 * orchestrator.intake.network.length +
    orchestrator.intake.router.defaultSender.waiting.length

theorem work_decreases (internal : event.Internal)
    (step : Step codecs services before event after) :
    work after < work before := by
  cases happened codecs services step with
  | deliver | expectReply | abandon => cases internal
  | @incoming receipt _ _ _ received =>
    have fewer := congrArg List.length received.network
    have more := length_waiting_forward before.intake.router.defaultSender
      ((reading codecs).forwarded receipt)
    rw [List.length_cons] at fewer
    rw [← received.defaultSender] at more
    unfold work
    dsimp only
    omega
  | @inbound message channel returned _ received =>
    have fewer := congrArg List.length (Channel.waiting_of_receive received)
    have same :
        (closeAfter (inboundResult codecs services message returned)
          channel).waiting = channel.waiting := by
      cases inboundResult codecs services message returned <;> rfl
    unfold work setInbound
    dsimp only
    rw [same]
    rw [List.length_cons] at fewer
    omega

/-! ## Harmful events -/

/-- A step of a thread in which no service returns an error. -/
def Quiet (_ : ServiceOrchestrator) (event : Event) : Prop :=
  event = .incoming ∨ event = .inbound (.ok ())

theorem harmless_of_quiet (quiet : Quiet before event) : Harmless codecs services before event := by
  rcases quiet with rfl | rfl
  · trivial
  · intro _ _ _ _ _
    rfl

theorem idle_of_exhausted
    (exhausted : ∀ event after, Quiet before event → ¬ Step codecs services before event after) :
    Idle codecs services before := by
  intro event internal after step
  cases happened codecs services step with
  | deliver | expectReply | abandon => cases internal
  | incoming _ _ => exact exhausted _ _ (Or.inl rfl) step
  | inbound _ running received =>
    have waits : before.intake.router.defaultSender.waiting ≠ [] := by
      rw [Channel.waiting_of_receive received]
      exact List.cons_ne_nil _ _
    obtain ⟨next, quiet⟩ := exists_inbound running waits (.ok ())
    exact exhausted _ _ (Or.inr rfl) quiet

def deliverAll (messages : List Bytes) (orchestrator : ServiceOrchestrator) : ServiceOrchestrator :=
  { orchestrator with
    intake := { orchestrator.intake with network := orchestrator.intake.network ++ messages } }

theorem run_deliverAll (messages : List Bytes) (first : ServiceOrchestrator)
    (readable : ∀ bytes ∈ messages, ∃ found, (reading codecs).read bytes = .ok found) :
    ∃ path, Run (Step codecs services) first path (first.deliverAll messages) ∧
      Run.Meets (Harmless codecs services) path := by
  induction messages using List.reverseRecOn with
  | nil =>
    refine ⟨[], ?_, Run.meets_nil _⟩
    have same : first.deliverAll [] = first := by simp [deliverAll]
    rw [same]
    exact Run.start
  | append_singleton messages last ih =>
    obtain ⟨path, run, meets⟩ := ih fun bytes member =>
      readable bytes (List.mem_append_left _ member)
    refine ⟨path ++ [(first.deliverAll messages, .deliver last)], ?_, ?_⟩
    · refine Run.snoc run ?_
      simp [Step, advance, deliverAll, deliver]
    · rw [Run.meets_snoc]
      exact ⟨meets, readable last (List.mem_append_right _ (List.mem_singleton.mpr rfl))⟩

theorem Sound.length_calls_le (sound : Sound codecs services before) : before.calls.length ≤
    (before.intake.receipts.filterMap (due codecs services)).length := by
  have taken : before.intake.router.defaultSender.taken <+:
      before.intake.receipts.filterMap (reading codecs).forwarded :=
    (List.prefix_append _ _).trans sound.intake.forwarded
  rw [sound.calls, ← filterMap_forwarded]
  exact (taken.filterMap _).length_le

/-- The fate of the last message, which is a direct message to a service that is
hosted here: it waits, or both threads are running, or it is lost. -/
inductive Fate (codecs : Codecs) (services : List ServiceDefinition)
    (message : CircuitDirectMessage) (orchestrator : ServiceOrchestrator) : Prop
  | waits {earlier : List Bytes} : orchestrator.intake.network =
    earlier ++ [createDirectMessage codecs message] →
    orchestrator.intake.router.expectedReplies.lookup message.correlationId = none →
    Fate codecs services message orchestrator
  | received : orchestrator.intake.network = [] → orchestrator.incoming = .running →
    orchestrator.inbound = .running →
    Fate codecs services message orchestrator
  | lost : orchestrator.inbound ≠ .running → orchestrator.calls.length <
    (orchestrator.intake.receipts.filterMap (due codecs services)).length →
    Fate codecs services message orchestrator

section LastMessage

variable {message : CircuitDirectMessage}

theorem read_createDirectMessage (message : CircuitDirectMessage) :
    (reading codecs).read (createDirectMessage codecs message) =
      .ok (some (DirectMessage.incoming codecs message)) := by
  dsimp only [reading]
  exact readIncoming_createDirectMessage codecs _ _ message

theorem incoming_createDirectMessage (message : CircuitDirectMessage) :
    (reading codecs).incoming (createDirectMessage codecs message) =
      some (DirectMessage.incoming codecs message) :=
  Reading.incoming_of_read _ (read_createDirectMessage message)

theorem due_of_message {receipt : Receipt}
    (bytes : receipt.bytes = createDirectMessage codecs message)
    (goes : receipt.destination = .defaultSender) :
    due codecs services receipt = address services message := by
  unfold due Reading.forwarded
  rw [bytes, incoming_createDirectMessage, goes]
  simp [DirectMessage.incoming, called, readInbound, Except.map]

variable {intake : Intake} {result : Except OrchestratorError Unit}

theorem length_due_le {after : Intake} {receipt : Receipt}
    (received : Intake.Received (reading codecs) intake receipt result after) :
    (intake.receipts.filterMap (due codecs services)).length ≤
      (after.receipts.filterMap (due codecs services)).length := by
  rw [received.receipts_filterMap, List.length_append]
  exact Nat.le_add_right _ _

theorem fate_of_received {receipt : Receipt} (hosted : (address services message).isSome)
    (sound : Sound codecs services before)
    (received : Intake.Received (reading codecs) before.intake receipt result intake)
    (last : receipt.bytes = createDirectMessage codecs message) (nothing : intake.network = [])
    (absent : before.intake.router.expectedReplies.lookup message.correlationId = none) :
    Fate codecs services message { before with intake := intake, incoming := .after result } := by
  have goes : receipt.destination = .defaultSender := by
    rw [received.destination, last]
    simp [Reading.destination, incoming_createDirectMessage, DirectMessage.incoming,
      InboundRouter.destination, absent]
  by_cases running : before.inbound = .running
  · have succeeded : result = .ok () := by
      refine received.result.mpr ⟨?_, ?_⟩
      · intro rejected
        rcases rejected with ⟨failure, unread⟩ | nobody
        · rw [last, read_createDirectMessage] at unread
          cases unread
        · rw [goes] at nobody
          cases nobody
      · intro closed
        exact (sound.closed.mp closed running).elim
    exact Fate.received nothing ((Thread.after_eq_running_iff _).mpr succeeded) running
  · refine Fate.lost running ?_
    have fewer := sound.length_calls_le
    dsimp only
    rw [received.receipts_filterMap, due_of_message last goes, List.length_append]
    obtain ⟨call, addressed⟩ := Option.isSome_iff_exists.mp hosted
    rw [addressed, Option.toList_some, List.length_singleton]
    omega

theorem Fate.step (hosted : (address services message).isSome)
    (fate : Fate codecs services message before) (sound : Sound codecs services before)
    (quiet : Quiet before event) (step : Step codecs services before event after) :
    Fate codecs services message after := by
  cases happened codecs services step with
  | deliver | expectReply | abandon =>
    rcases quiet with impossible | impossible <;> cases impossible
  | @incoming receipt result intake _ received =>
    cases fate with
    | @waits earlier waiting absent =>
      rw [received.network] at waiting
      cases earlier with
      | nil =>
        obtain ⟨last, nothing⟩ := List.cons.inj waiting
        exact fate_of_received hosted sound received last nothing absent
      | cons first earlier =>
        obtain ⟨_, later⟩ := List.cons.inj waiting
        refine Fate.waits later ?_
        rw [received.expectedReplies, absent, ite_self]
    | received nothing _ _ =>
      have waits := received.network
      rw [nothing] at waits
      cases waits
    | lost ended fewer => exact Fate.lost ended (fewer.trans_le (length_due_le received))
  | @inbound payload channel returned running received =>
    cases fate with
    | waits waiting absent => exact Fate.waits waiting absent
    | received nothing incoming _ =>
      refine Fate.received nothing incoming ?_
      have harmless : Harmless codecs services before (.inbound returned) := harmless_of_quiet quiet
      have readable := sound.exists_readInbound received
      rw [Thread.after_eq_running_iff, inboundResult_eq_ok_iff readable]
      exact fun call => harmless payload channel call received
    | lost ended _ => exact (ended running).elim

/-- A caller that is gone, and a message for it that waits: the incoming thread
will end. -/
def Doomed (codecs : Codecs) (message : CircuitDirectMessage)
    (expected : ExpectedReply) (orchestrator : ServiceOrchestrator) : Prop :=
  orchestrator.incoming ≠ .running ∨
    createDirectMessage codecs message ∈ orchestrator.intake.network ∧
      orchestrator.intake.router.expectedReplies.lookup message.correlationId = some expected

theorem Doomed.step {expected : ExpectedReply} (gone : expected.waits = false)
    (doomed : Doomed codecs message expected before) (quiet : Quiet before event)
    (step : Step codecs services before event after) :
    Doomed codecs message expected after := by
  cases happened codecs services step with
  | deliver | expectReply | abandon =>
    rcases quiet with impossible | impossible <;> cases impossible
  | @incoming receipt result intake running received =>
    rcases doomed with ended | ⟨waits, registered⟩
    · exact (ended running).elim
    by_cases routed : ((reading codecs).incoming receipt.bytes).map Prod.fst =
      some message.correlationId
    · -- whatever has this correlation id goes nowhere
      left
      rw [Ne, Thread.after_eq_running_iff]
      intro succeeded
      obtain ⟨accepted, _⟩ := received.result.mp succeeded
      refine accepted (Or.inr ?_)
      obtain ⟨⟨id, payload⟩, incoming, same⟩ := Option.map_eq_some_iff.mp routed
      subst same
      rw [received.destination]
      simp [Reading.destination, incoming, InboundRouter.destination, registered, gone]
    · right
      refine ⟨?_, ?_⟩
      · rw [received.network, List.mem_cons] at waits
        rcases waits with same | later
        · rw [← same, incoming_createDirectMessage] at routed
          exact (routed rfl).elim
        · exact later
      · dsimp only
        rw [received.expectedReplies, if_neg routed]
        exact registered
  | inbound _ _ _ => exact doomed

end LastMessage

/-- From a reliable state with more messages, the last one to a hosted service,
the threads get to an idle state, where both are running. -/
theorem exists_idle_of_reliable {message : CircuitDirectMessage} (messages : List Bytes)
    (sound : Sound codecs services before) (reliable : Reliable codecs services before)
    (hosted : (address services message).isSome)
    (readable : ∀ bytes ∈ messages, ∃ found, (reading codecs).read bytes = .ok found)
    (absent : before.intake.router.expectedReplies.lookup message.correlationId = none) :
    ∃ path last, Run (Step codecs services)
      (before.deliverAll (messages ++ [createDirectMessage codecs message]))
      path last ∧
      Run.Meets Quiet path ∧
      last.intake.network = [] ∧ last.incoming = .running ∧
      last.inbound = .running := by
  have allReadable : ∀ bytes ∈ messages ++ [createDirectMessage codecs message],
      ∃ found, (reading codecs).read bytes = .ok found := by
    intro bytes member
    rcases List.mem_append.mp member with earlier | new
    · exact readable bytes earlier
    · rw [List.mem_singleton.mp new]
      exact ⟨_, read_createDirectMessage message⟩
  obtain ⟨delivering, delivered, harmless⟩ : ∃ path,
      Run (Step codecs services) before path (before.deliverAll _) ∧
        Run.Meets (Harmless codecs services) path :=
    run_deliverAll _ before allReadable
  have decreases : ∀ state event next, Quiet state event →
      Step codecs services state event next → work next < work state := by
    intro state event next quiet step
    refine work_decreases ?_ step
    rcases quiet with rfl | rfl <;> trivial
  obtain ⟨path, last, run, quiet, exhausted⟩ := Run.exists_exhausted work decreases
    (before.deliverAll (messages ++ [createDirectMessage codecs message]))
  have served := reliable _ _ (delivered.append run)
    (by
      intro visited member
      rcases List.mem_append.mp member with earlier | later
      · exact harmless visited earlier
      · exact harmless_of_quiet (quiet visited later))
    (idle_of_exhausted exhausted)
  refine ⟨path, last, run, quiet, served.received, ?_⟩
  have first : Fate codecs services message
      (before.deliverAll (messages ++ [createDirectMessage codecs message])) :=
    Fate.waits (List.append_assoc _ _ _).symm absent
  have throughout : Run.Throughout
      (fun state =>
        Sound codecs services state ∧ Fate codecs services message state)
      path last :=
    run.guarded ⟨sound.run delivered, first⟩
      (fun _ _ _ held quiet step =>
        ⟨held.1.step step, held.2.step hosted held.1 quiet step⟩)
      quiet
  cases throughout.2.2 with
  | waits waiting _ =>
    rw [served.received] at waiting
    simp at waiting
  | received _ incoming inbound => exact ⟨incoming, inbound⟩
  | lost _ fewer =>
    rw [served.called] at fewer
    exact (Nat.lt_irrefl _ fewer).elim

theorem healthy_of_run (run : Run (Step codecs services) first path last)
    (sound : Sound codecs services first) (healthy : Healthy codecs last) :
    Healthy codecs first := by
  induction run with
  | start => exact healthy
  | snoc earlier step ih =>
    have before := (healthy_step_iff (sound.run earlier) step).mp healthy
    exact ih before.1

theorem waiting_of_quiet (run : Run (Step codecs services) first path last)
    (quiet : Run.Meets Quiet path) (waiting : first.intake.router.AllWait) :
    last.intake.router.AllWait := by
  have preserved : ∀ before event after, before.intake.router.AllWait →
      Quiet before event → Step codecs services before event after →
        after.intake.router.AllWait := by
    intro before event after held quiet step
    cases happened codecs services step with
    | deliver | expectReply | abandon =>
      rcases quiet with impossible | impossible <;> cases impossible
    | incoming _ received =>
      intro correlationId expected found
      rw [received.expectedReplies] at found
      split at found
      · cases found
      · exact held _ _ found
    | inbound _ _ _ => exact held
  have throughout : Run.Throughout (fun state => state.intake.router.AllWait) path last :=
    run.guarded waiting preserved quiet
  exact throughout.2

theorem exists_unexpected (hosted : services ≠ []) (orchestrator : ServiceOrchestrator) :
    ∃ message : CircuitDirectMessage, (address services message).isSome ∧
      orchestrator.intake.router.expectedReplies.lookup message.correlationId = none := by
  obtain ⟨service, rest, rfl⟩ := List.exists_cons_of_ne_nil hosted
  obtain ⟨correlationId, fresh⟩ := Infinite.exists_notMem_finset
    orchestrator.intake.router.expectedReplies.keys
  refine ⟨⟨service.circuit, "", service.serviceId, [], correlationId⟩, ?_, ?_⟩
  · simp [address]
  · rw [Finmap.lookup_eq_none]
    exact fun member => fresh (Finmap.mem_keys.mpr member)

theorem healthy_of_reliable (hosted : services ≠ []) (sound : Sound codecs services before)
    (reliable : Reliable codecs services before) :
    Healthy codecs before := by
  obtain ⟨message, addressed, absent⟩ := exists_unexpected hosted before
  have waiting : before.intake.router.AllWait := by
    intro correlationId expected registered
    by_contra gone
    -- a message for this caller and then one for a service
    let answer : CircuitDirectMessage := ⟨"", "", "", [], correlationId⟩
    obtain ⟨path, last, run, quiet, nothing, running, _⟩ :=
      exists_idle_of_reliable [createDirectMessage codecs answer] sound reliable addressed
        (by
          intro bytes member
          rw [List.mem_singleton.mp member]
          exact ⟨_, read_createDirectMessage answer⟩)
        absent
    have doomed : Doomed codecs answer expected last :=
      (run.guarded (Or.inr ⟨List.mem_append_right _ (List.mem_cons_self ..), registered⟩)
        (fun _ _ _ held quiet step =>
          held.step (Bool.eq_false_iff.mpr gone) quiet step)
        quiet).2
    rcases doomed with ended | ⟨waits, _⟩
    · exact ended running
    · rw [nothing] at waits
      cases waits
  obtain ⟨path, last, run, quiet, nothing, incoming, inbound⟩ :=
    exists_idle_of_reliable [] sound reliable addressed nofun absent
  have healthy : Healthy codecs last :=
    { incoming := incoming
      inbound := inbound
      readable := by
        rw [nothing]
        nofun
      waiting := waiting_of_quiet run quiet waiting }
  have soundMore : Sound codecs services
      (before.deliverAll ([] ++ [createDirectMessage codecs message])) :=
    ⟨sound.intake.congr rfl rfl rfl id, sound.calls, sound.closed⟩
  have more := healthy_of_run run soundMore healthy
  exact
    { incoming := more.incoming
      inbound := more.inbound
      readable := fun bytes member =>
        more.readable bytes (List.mem_append_left _ member)
      waiting := waiting }

theorem reliable_iff_harmless (hosted : services ≠ [])
    (run : Run (Step codecs services) new path last) :
    Reliable codecs services last ↔ Run.Meets (Harmless codecs services) path := by
  have sound : Sound codecs services last := (sound_new codecs services).run run
  rw [← healthy_iff_harmless run (sound_new codecs services) healthy_new]
  exact ⟨healthy_of_reliable hosted sound, reliable_of_healthy sound⟩

end ServiceOrchestrator

end Splinter.Service
