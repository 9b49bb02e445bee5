import Splinter.Library.Run
import Splinter.Service.Intake
import Mathlib.Algebra.BigOperators.Group.Finset.Piecewise
import Mathlib.Algebra.Order.BigOperators.Group.Finset
import Mathlib.Data.Fintype.EquivFin

/-!
# The threads of the service processor

The incoming thread routes the messages of the node, the inbound thread hands what
is not a reply to the threads of the services.  These two only log their errors,
but `run_service_loop` returns at the first error of `handle_message`.  The channels are
bounded in the source, where a send to a full one waits, and unbounded here.
-/

namespace Splinter.Service

open Library Network Circuits.Protos

inductive ServiceProcessorError where
  | processError (context : String) (source : ErrorText)
  deriving DecidableEq

def ServiceProcessorError.display : ServiceProcessorError → ErrorText
  | .processError context source => "error processing message: " ++ context ++ " (" ++ source ++ ")"

inductive ServiceMessage where
  | adminDirectMessage (message : AdminDirectMessage)
  | circuitDirectMessage (message : CircuitDirectMessage)
  deriving DecidableEq

namespace ServiceMessage

def direct : ServiceMessage → DirectMessage
  | .adminDirectMessage message => message
  | .circuitDirectMessage message => message

def call (message : ServiceMessage) : Call String :=
  Call.ofMessage message.direct.recipient message.direct

/-- What could not be done when the service fails. -/
def attempt : ServiceMessage → String
  | .adminDirectMessage _ => "unable to handle admin direct message"
  | .circuitDirectMessage _ => "unable to handle circuit direct message"

end ServiceMessage

structure ServiceThread where
  queue : Channel ServiceMessage
  thread : Thread ServiceProcessorError

structure ServiceProcessor where
  intake : Intake
  services : String → ServiceThread
  calls : List (Call String)

namespace ServiceProcessor

def new : ServiceProcessor where
  intake := .new
  services := fun _ => ⟨.new, .running⟩
  calls := []

variable (codecs : Codecs) (hosted : Finset String)

def reading : Reading ServiceProcessorError where
  read := readIncoming codecs .processError fun _ _ => .ok ()
  unroutable := fun error =>
    .processError "unable to route message" error.display

/-- `handle_admin_direct_msg` and `handle_circuit_direct_msg`: send a message to
the service that it is for. -/
def handleDirectMsg (attempt : String) (message : ServiceMessage) :
    EStateM ServiceProcessorError (String → ServiceThread) Unit := do
  let services ← get
  let recipient := message.direct.recipient
  if recipient ∈ hosted then
    if (services recipient).queue.closed then
      throw (.processError attempt "sending on a disconnected channel")
    else
      set
        (Function.update services recipient
          { services recipient with queue := (services recipient).queue.send message })

def processInboundMsgWithCorrelationId (message : ServicePayload) :
    EStateM ServiceProcessorError (String → ServiceThread) Unit := do
  match message.1 with
  | .adminDirectMessage =>
    let adminDirectMessage ← fromExcept
      (parseOr .processError "unable to parse inbound admin direct message"
        codecs.adminDirectMessage message.2)
    mapError
      (fun error =>
        .processError "unable to handle inbound admin direct message" error.display)
      (handleDirectMsg hosted
        "unable to send service (admin direct) message"
        (.adminDirectMessage adminDirectMessage))
  | .circuitDirectMessage =>
    let circuitDirectMessage ← fromExcept
      (parseOr .processError
        "unable to parse inbound circuit direct message"
        codecs.circuitDirectMessage message.2)
    mapError
      (fun error =>
        .processError "unable to handle inbound circuit direct message" error.display)
      (handleDirectMsg hosted
        "unable to send service (circuit direct) message"
        (.circuitDirectMessage circuitDirectMessage))
  | .circuitErrorMessage =>
    let _ ← fromExcept
      (parseOr .processError "unable to parse circuit error message" codecs.circuitError message.2)
    pure ()
  -- the others are only logged
  | _ => pure ()

/-- What happens to a processor: a message is delivered on its connection, a
caller expects a reply under a new correlation id or drops its future, or a
thread handles the next message.  A service that is called returns the given
result. -/
inductive Event where
  | deliver (messageBytes : Bytes)
  | expectReply (correlationId : String) (caller : Caller)
  | abandon (correlationId : String)
  | incoming
  | inbound
  | service (serviceId : String) (returned : Except ServiceError Unit)

def ServiceThread.after (message : ServiceMessage) (queue : Channel ServiceMessage) :
    Except ServiceError Unit → ServiceThread
  | .ok _ => ⟨queue, .running⟩
  | .error error => ⟨queue.close, .ended (.processError message.attempt error.display)⟩

/-- The processor after an event, if it can happen. -/
def advance (event : Event) (processor : ServiceProcessor) : Option ServiceProcessor :=
  match event with
  | .deliver messageBytes => some { processor with intake := processor.intake.deliver messageBytes }
  | .expectReply correlationId caller =>
    if correlationId ∈ processor.intake.router.expectedReplies then
      none
    else
      some
        { processor with
          intake := { processor.intake with
            router := processor.intake.router.expectReply correlationId caller } }
  | .abandon correlationId =>
    some
      { processor with
        intake := { processor.intake with
          router := processor.intake.router.abandon correlationId } }
  | .incoming =>
    match processor.intake.receive (reading codecs) with
    | some (_, intake) => some { processor with intake := intake }
    | none => none
  | .inbound =>
    match processor.intake.router.defaultSender.receive with
    | some (message, channel) =>
      some
        { processor with
          intake := { processor.intake with
            router := { processor.intake.router with defaultSender := channel } }
          services := finalState (processInboundMsgWithCorrelationId codecs hosted message)
            processor.services }
    | none => none
  | .service serviceId returned =>
    if serviceId ∈ hosted then
      match (processor.services serviceId).thread,
        (processor.services serviceId).queue.receive with
      | .running, some (message, queue) =>
        some
          { processor with
            services := Function.update processor.services serviceId
              (ServiceThread.after message queue returned)
            calls := processor.calls ++ [message.call] }
      | _, _ => none
    else
      none

def Step (before : ServiceProcessor) (event : Event) (after : ServiceProcessor) : Prop :=
  advance codecs hosted event before = some after

/-! ## Serving -/

def readInbound (message : ServicePayload) : Option ServiceMessage :=
  match message.1 with
  | .adminDirectMessage =>
    match codecs.adminDirectMessage.parse message.2 with
    | .ok parsed => some (.adminDirectMessage parsed)
    | .error _ => none
  | .circuitDirectMessage =>
    match codecs.circuitDirectMessage.parse message.2 with
    | .ok parsed => some (.circuitDirectMessage parsed)
    | .error _ => none
  | _ => none

def ServiceMessage.IsFor (serviceId : String) (message : ServiceMessage) : Bool :=
  message.direct.recipient = serviceId ∧ serviceId ∈ hosted

def messageFor (serviceId : String) (message : ServicePayload) : Option ServiceMessage :=
  (readInbound codecs message).filter (ServiceMessage.IsFor hosted serviceId)

/-- The call of a service that is due for a received message: it is a direct
message to the service, and no caller waits for it. -/
def due (serviceId : String) (receipt : Receipt) : Option (Call String) :=
  ((reading codecs).forwarded receipt).bind fun message =>
    (messageFor codecs hosted serviceId message).map ServiceMessage.call

def callsOf (serviceId : String) (processor : ServiceProcessor) : List (Call String) :=
  processor.calls.filter fun call => call.service = serviceId

/-- Something that a thread does. -/
def Event.Internal : Event → Prop
  | .incoming | .inbound | .service _ _ => True
  | _ => False

def Idle (processor : ServiceProcessor) : Prop := ∀ event, event.Internal →
    ∀ after, ¬ Step codecs hosted processor event after

/-- Every message has been received, every reply has been sent to its caller and
every direct message to the service has been passed to it, exactly once and in
order. -/
structure Served (serviceId : String) (processor : ServiceProcessor) :
    Prop where
  received : processor.intake.network = []
  answered : processor.intake.router.replies =
    processor.intake.receipts.filterMap (reading codecs).reply
  called : processor.callsOf serviceId =
    processor.intake.receipts.filterMap (due codecs hosted serviceId)

/-- The service does not return an error. -/
def Harmless (serviceId : String) (_ : ServiceProcessor) : Event → Prop
  | .service called returned => called = serviceId → returned = .ok ()
  | _ => True

/-- As long as the service returns no error from now on, everything is served
whenever the threads have nothing left to do. -/
def Reliable (serviceId : String) (processor : ServiceProcessor) : Prop := ∀ path last,
    Run (Step codecs hosted) processor path last → Run.Meets (Harmless serviceId) path →
      Idle codecs hosted last → Served codecs hosted serviceId last

/-! ## What an event does -/

/-- The thread of a service with what is sent to it, unless its channel is
closed. -/
def sendTo (thread : ServiceThread) (message : Option ServiceMessage) : ServiceThread :=
  match message with
  | some message =>
    if thread.queue.closed then thread else { thread with queue := thread.queue.send message }
  | none => thread

variable {codecs hosted} {serviceId : String}
  {message : ServiceMessage} {taken : List ServicePayload} {thread : ServiceThread}
  {queue : Channel ServiceMessage} {last : ServiceProcessor}
  {path : List (ServiceProcessor × Event)}

theorem ends_handleDirectMsg {services : String → ServiceThread} {attempt : String} :
    EndsIn (handleDirectMsg hosted attempt message) services fun after =>
      after serviceId = sendTo (services serviceId)
        ((some message).filter (ServiceMessage.IsFor hosted serviceId)) := by
  unfold handleDirectMsg
  by_cases same : message.direct.recipient = serviceId
  · subst same
    by_cases here : message.direct.recipient ∈ hosted
    · have own : (some message).filter (ServiceMessage.IsFor hosted message.direct.recipient) =
          some message := by
        simp [ServiceMessage.IsFor, here]
      rw [own]
      cases closed : (services message.direct.recipient).queue.closed <;>
        simp [here, closed, sendTo]
    · have other : (some message).filter (ServiceMessage.IsFor hosted message.direct.recipient) =
          none := by
        simp [ServiceMessage.IsFor, here]
      simp [here, other, sendTo]
  · have other : (some message).filter (ServiceMessage.IsFor hosted serviceId) = none := by
      simp [ServiceMessage.IsFor, same]
    have different : serviceId ≠ message.direct.recipient := Ne.symm same
    by_cases here : message.direct.recipient ∈ hosted
    · cases closed : (services message.direct.recipient).queue.closed <;>
        simp [here, closed, other, sendTo, different]
    · simp [here, other, sendTo]

theorem services_inbound (services : String → ServiceThread) (message : ServicePayload)
    (serviceId : String) :
    finalState (processInboundMsgWithCorrelationId codecs hosted message) services serviceId =
      sendTo (services serviceId) (messageFor codecs hosted serviceId message) := by
  have ends : EndsIn (processInboundMsgWithCorrelationId codecs hosted message) services
      fun after => after serviceId = sendTo (services serviceId)
        (messageFor codecs hosted serviceId message) := by
    obtain ⟨messageType, bytes⟩ := message
    unfold processInboundMsgWithCorrelationId messageFor readInbound EndsIn
    cases messageType with
    | adminDirectMessage =>
      cases parsed : codecs.adminDirectMessage.parse bytes with
      | ok read =>
        rw [ends_bind, parseOr, parsed]
        exact (ends_mapError _ _).mpr ends_handleDirectMsg
      | error error =>
        rw [ends_bind, parseOr, parsed]
        exact rfl
    | circuitDirectMessage =>
      cases parsed : codecs.circuitDirectMessage.parse bytes with
      | ok read =>
        rw [ends_bind, parseOr, parsed]
        exact (ends_mapError _ _).mpr ends_handleDirectMsg
      | error error =>
        rw [ends_bind, parseOr, parsed]
        exact rfl
    | circuitErrorMessage =>
      dsimp only
      cases parsed : codecs.circuitError.parse bytes with
      | ok read =>
        rw [ends_bind, parseOr, parsed]
        exact rfl
      | error error =>
        rw [ends_bind, parseOr, parsed]
        exact rfl
    | _ => simp [sendTo]
  exact ends.finalState

variable (codecs hosted) in
inductive Happened (before : ServiceProcessor) :
    Event → ServiceProcessor → Prop
  | deliver (messageBytes : Bytes) : Happened before (.deliver messageBytes)
    { before with intake := before.intake.deliver messageBytes }
  | expectReply {correlationId : String} (caller : Caller) :
    correlationId ∉ before.intake.router.expectedReplies →
    Happened before (.expectReply correlationId caller)
      { before with
        intake := { before.intake with
          router := before.intake.router.expectReply correlationId caller } }
  | abandon (correlationId : String) : Happened before (.abandon correlationId)
    { before with
      intake := { before.intake with router := before.intake.router.abandon correlationId } }
  | incoming {receipt : Receipt} {result : Except ServiceProcessorError Unit} {intake : Intake} :
    Intake.Received (reading codecs) before.intake receipt result intake →
    Happened before .incoming { before with intake := intake }
  | inbound {message : ServicePayload} {channel : Channel ServicePayload} :
    before.intake.router.defaultSender.receive = some (message, channel) →
    Happened before .inbound
      { before with
        intake := { before.intake with
          router := { before.intake.router with defaultSender := channel } }
        services := fun serviceId =>
          sendTo (before.services serviceId) (messageFor codecs hosted serviceId message) }
  | service {message : ServiceMessage} {queue : Channel ServiceMessage}
    {serviceId : String} (returned : Except ServiceError Unit) :
    serviceId ∈ hosted →
    (before.services serviceId).thread = .running →
    (before.services serviceId).queue.receive = some (message, queue) →
    Happened before (.service serviceId returned)
      { before with
        services := Function.update before.services serviceId
          (ServiceThread.after message queue returned)
        calls := before.calls ++ [message.call] }

variable {before after : ServiceProcessor} {event : Event}

theorem happened (step : Step codecs hosted before event after) :
    Happened codecs hosted before event after := by
  unfold Step advance at step
  cases event with
  | deliver messageBytes =>
    cases step
    exact Happened.deliver messageBytes
  | expectReply correlationId caller =>
    dsimp only at step
    split at step
    · cases step
    · rename_i fresh
      cases step
      exact Happened.expectReply caller fresh
  | abandon correlationId =>
    cases step
    exact Happened.abandon correlationId
  | incoming =>
    dsimp only at step
    split at step
    · rename_i result intake received
      cases step
      obtain ⟨receipt, received⟩ := Intake.received _ received
      exact Happened.incoming received
    · cases step
  | inbound =>
    dsimp only at step
    split at step
    · rename_i message channel received
      cases step
      have services : finalState (processInboundMsgWithCorrelationId codecs hosted message)
          before.services =
          fun serviceId =>
            sendTo (before.services serviceId) (messageFor codecs hosted serviceId message) :=
        funext fun serviceId =>
          services_inbound before.services message serviceId
      rw [services]
      exact Happened.inbound received
    · cases step
  | service serviceId returned =>
    dsimp only at step
    split at step
    · rename_i here
      split at step
      · rename_i message queue running received
        cases step
        exact Happened.service returned here running received
      · cases step
    · cases step

/-! ## What holds in all runs -/

section Send

variable (thread : ServiceThread) (message : Option ServiceMessage)

theorem closed_sendTo : (sendTo thread message).queue.closed = thread.queue.closed := by
  cases message with
  | none => rfl
  | some message =>
    unfold sendTo
    cases closed : thread.queue.closed <;> simp [closed, Channel.send]

theorem taken_sendTo : (sendTo thread message).queue.taken = thread.queue.taken := by
  cases message with
  | none => rfl
  | some message =>
    unfold sendTo
    cases thread.queue.closed <;> simp [Channel.send]

theorem thread_sendTo : (sendTo thread message).thread = thread.thread := by
  cases message with
  | none => rfl
  | some message =>
    unfold sendTo
    cases thread.queue.closed <;> simp

theorem sent_sendTo : (sendTo thread message).queue.sent =
    if thread.queue.closed then thread.queue.sent
    else thread.queue.sent ++ message.toList := by
  cases message with
  | none => simp [sendTo]
  | some message => cases closed : thread.queue.closed <;> simp [sendTo, closed]

end Send

variable (codecs hosted) in
/-- What the thread of a service has to do with what the inbound thread has
taken: the messages for the service have been sent up to the one at which the
channel was found closed. -/
structure Handed (serviceId : String) (taken : List ServicePayload)
    (thread : ServiceThread) : Prop where
  sent : thread.queue.sent <+: taken.filterMap (messageFor codecs hosted serviceId)
  complete : thread.queue.closed = false →
    thread.queue.sent = taken.filterMap (messageFor codecs hosted serviceId)
  closed : thread.queue.closed = true ↔ thread.thread ≠ .running

variable (codecs hosted) in
/-- The services have been called for what their threads have taken. -/
structure Sound (processor : ServiceProcessor) : Prop where
  intake : processor.intake.Sound (reading codecs)
  opened : processor.intake.router.defaultSender.closed = false
  threads : ∀ serviceId, Handed codecs hosted serviceId processor.intake.router.defaultSender.taken
    (processor.services serviceId)
  calls : ∀ serviceId, processor.callsOf serviceId =
    (processor.services serviceId).queue.taken.map ServiceMessage.call

theorem sound_new : Sound codecs hosted new where
  intake := Intake.sound_new _
  opened := rfl
  threads := fun _ =>
    { sent := List.prefix_rfl
      complete := fun _ => rfl
      closed := by simp [new, Channel.new] }
  calls := fun _ => rfl

section

variable (handed : Handed codecs hosted serviceId taken thread)
include handed

theorem Handed.recipient (received : thread.queue.receive = some (message, queue)) :
    message.direct.recipient = serviceId := by
  have sent : message ∈ thread.queue.sent := by
    rw [Channel.sent, Channel.waiting_of_receive received]
    exact List.mem_append_right _ (List.mem_cons_self ..)
  obtain ⟨payload, _, found⟩ := List.mem_filterMap.mp (handed.sent.subset sent)
  have own := (Option.filter_eq_some_iff.mp found).2
  exact (of_decide_eq_true own).1

theorem Handed.inbound (payload : ServicePayload) :
    Handed codecs hosted serviceId (taken ++ [payload])
      (sendTo thread (messageFor codecs hosted serviceId payload)) := by
  have grown : (taken ++ [payload]).filterMap (messageFor codecs hosted serviceId) =
      taken.filterMap (messageFor codecs hosted serviceId) ++
        (messageFor codecs hosted serviceId payload).toList := by
    rw [List.filterMap_append]
    cases shown : messageFor codecs hosted serviceId payload <;> simp [shown]
  refine ⟨?_, ?_, ?_⟩
  · rw [grown, sent_sendTo]
    split
    · exact handed.sent.trans (List.prefix_append _ _)
    · rename_i opened
      rw [handed.complete (Bool.eq_false_iff.mpr opened)]
  · intro opened
    rw [closed_sendTo] at opened
    rw [grown, sent_sendTo, opened, handed.complete opened]
    rfl
  · rw [closed_sendTo, thread_sendTo]
    exact handed.closed

theorem Handed.service (running : thread.thread = .running)
    (received : thread.queue.receive = some (message, queue))
    (returned : Except ServiceError Unit) :
    Handed codecs hosted serviceId taken (ServiceThread.after message queue returned) := by
  have opened : thread.queue.closed = false :=
    Bool.eq_false_iff.mpr fun closed => handed.closed.mp closed running
  have same := Channel.sent_of_receive received
  have still := (Channel.closed_of_receive received).trans opened
  have complete := handed.complete opened
  cases returned with
  | ok _ =>
    refine ⟨?_, ?_, ?_⟩
    · rw [ServiceThread.after, same]
      exact handed.sent
    · intro _
      rw [ServiceThread.after, same]
      exact complete
    · simp [ServiceThread.after, still]
  | error error =>
    refine ⟨?_, ?_, ?_⟩
    · rw [ServiceThread.after, Channel.sent_close, same]
      exact handed.sent
    · intro closed
      cases closed
    · simp [ServiceThread.after, Channel.close]

end

theorem callsOf_append {called : String}
    (own : message.direct.recipient = called) (serviceId : String)
    (processor : ServiceProcessor) (services : String → ServiceThread) :
    callsOf serviceId
        { processor with
          services := services
          calls := processor.calls ++ [message.call] } =
      processor.callsOf serviceId ++
        if called = serviceId then [message.call] else [] := by
  unfold callsOf
  rw [List.filter_append]
  congr 1
  have named : message.call.service = called := own
  by_cases same : called = serviceId <;> simp [named, same]

theorem Sound.step (sound : Sound codecs hosted before)
    (step : Step codecs hosted before event after) :
    Sound codecs hosted after := by
  cases happened step with
  | deliver messageBytes =>
    exact ⟨sound.intake.congr rfl rfl rfl id, sound.opened, sound.threads, sound.calls⟩
  | expectReply caller _ =>
    exact ⟨sound.intake.congr rfl rfl rfl id, sound.opened, sound.threads, sound.calls⟩
  | abandon correlationId =>
    have same := before.intake.router.abandon_eq correlationId
    refine ⟨sound.intake.congr rfl same.1 ?_ ?_, ?_, ?_, sound.calls⟩
    · rw [same.2]
    · rw [same.2]
      exact id
    · rw [same.2]
      exact sound.opened
    · rw [same.2]
      exact sound.threads
  | incoming received =>
    refine ⟨sound.intake.receive received, ?_, ?_, sound.calls⟩
    · rw [received.defaultSender, Intake.closed_forward]
      exact sound.opened
    · rw [received.defaultSender, Intake.taken_forward]
      exact sound.threads
  | @inbound message channel received =>
    have closed := Channel.closed_of_receive received
    refine ⟨sound.intake.congr rfl rfl ?_ ?_, ?_, ?_, ?_⟩
    · exact Channel.sent_of_receive received
    · intro _
      exact sound.opened
    · exact closed.trans sound.opened
    · intro serviceId
      rw [Channel.taken_of_receive received]
      exact (sound.threads serviceId).inbound message
    · intro serviceId
      rw [taken_sendTo]
      exact sound.calls serviceId
  | @service message queue called returned _ running received =>
    have own := (sound.threads called).recipient received
    refine ⟨sound.intake, sound.opened, ?_, ?_⟩
    · intro serviceId
      dsimp only
      rw [Function.update_apply]
      split
      · rename_i same
        subst same
        exact (sound.threads serviceId).service running received returned
      · exact sound.threads serviceId
    · intro serviceId
      rw [callsOf_append own, sound.calls]
      dsimp only
      rw [Function.update_apply]
      by_cases same : serviceId = called
      · subst same
        have taken := Channel.taken_of_receive received
        rw [if_pos rfl, if_pos rfl]
        cases returned <;> simp [ServiceThread.after, taken, Channel.close]
      · rw [if_neg same, if_neg (Ne.symm same), List.append_nil]

variable {first : ServiceProcessor}

theorem Sound.run (sound : Sound codecs hosted first)
    (run : Run (Step codecs hosted) first path last) :
    Sound codecs hosted last :=
  run.invariant sound fun _ _ _ => Sound.step

/-! ## Harmless events -/

def Healthy (serviceId : String) (processor : ServiceProcessor) : Prop :=
  (processor.services serviceId).thread = .running

theorem healthy_step_iff (step : Step codecs hosted before event after) : Healthy serviceId after ↔
    Healthy serviceId before ∧ Harmless serviceId before event := by
  cases happened step with
  | deliver | expectReply | abandon | incoming => exact (and_iff_left trivial).symm
  | inbound _ =>
    unfold Healthy
    rw [thread_sendTo]
    exact (and_iff_left trivial).symm
  | @service message queue called returned _ running _ =>
    unfold Healthy Harmless
    dsimp only
    rw [Function.update_apply]
    by_cases same : serviceId = called
    · subst same
      rw [if_pos rfl]
      cases returned <;> simp [ServiceThread.after, running]
    · rw [if_neg same]
      have other : called ≠ serviceId := Ne.symm same
      simp [other]

theorem healthy_iff_harmless (run : Run (Step codecs hosted) first path last)
    (healthy : Healthy serviceId first) :
    Healthy serviceId last ↔ Run.Meets (Harmless serviceId) path :=
  run.holds_last_iff (fun _ => True) (Healthy serviceId) (Harmless serviceId)
    trivial healthy (fun _ _ _ _ _ => trivial)
    (fun _ _ _ _ => healthy_step_iff)

/-! ## Idle threads -/

theorem network_of_idle (idle : Idle codecs hosted before) : before.intake.network = [] := by
  rw [← Intake.receive_eq_none_iff (reading codecs)]
  by_contra waits
  obtain ⟨⟨result, intake⟩, received⟩ := Option.ne_none_iff_exists'.mp waits
  refine idle .incoming trivial { before with intake := intake } ?_
  simp only [Step, advance, received]

theorem waiting_of_idle (idle : Idle codecs hosted before) :
    before.intake.router.defaultSender.waiting = [] := by
  rw [← Channel.receive_eq_none_iff]
  by_contra waits
  obtain ⟨⟨message, channel⟩, received⟩ := Option.ne_none_iff_exists'.mp waits
  have possible : ∃ after, Step codecs hosted before .inbound after := by
    simp only [Step, advance, received]
    exact ⟨_, rfl⟩
  obtain ⟨after, step⟩ := possible
  exact idle .inbound trivial after step

theorem exists_service (here : serviceId ∈ hosted)
    (running : (before.services serviceId).thread = .running)
    (received : (before.services serviceId).queue.receive = some (message, queue))
    (returned : Except ServiceError Unit) :
    ∃ after, Step codecs hosted before (.service serviceId returned) after := by
  simp only [Step, advance, if_pos here, running, received]
  exact ⟨_, rfl⟩

theorem queue_of_idle (here : serviceId ∈ hosted) (idle : Idle codecs hosted before)
    (running : (before.services serviceId).thread = .running) :
    (before.services serviceId).queue.waiting = [] := by
  rw [← Channel.receive_eq_none_iff]
  by_contra waits
  obtain ⟨⟨message, queue⟩, received⟩ := Option.ne_none_iff_exists'.mp waits
  obtain ⟨after, step⟩ := exists_service here running received (.ok ())
  exact idle (.service serviceId (.ok ())) trivial after step

theorem filterMap_due (receipts : List Receipt) :
    ((receipts.filterMap (reading codecs).forwarded).filterMap
      (messageFor codecs hosted serviceId)).map ServiceMessage.call =
      receipts.filterMap (due codecs hosted serviceId) := by
  rw [List.filterMap_filterMap, List.map_filterMap]
  congr 1
  funext receipt
  unfold due
  cases (reading codecs).forwarded receipt <;> rfl

theorem served_of_healthy (here : serviceId ∈ hosted) (sound : Sound codecs hosted before)
    (healthy : Healthy serviceId before) (idle : Idle codecs hosted before) :
    Served codecs hosted serviceId before where
  received := network_of_idle idle
  answered := sound.intake.replies
  called := by
    have handed := sound.threads serviceId
    have opened : (before.services serviceId).queue.closed = false :=
      Bool.eq_false_iff.mpr fun closed => handed.closed.mp closed healthy
    have all := sound.intake.complete sound.opened
    have own := handed.complete opened
    rw [Channel.sent, waiting_of_idle idle, List.append_nil] at all
    rw [Channel.sent, queue_of_idle here idle healthy, List.append_nil] at own
    rw [sound.calls, own, all, filterMap_due]

theorem reliable_of_healthy (here : serviceId ∈ hosted) (sound : Sound codecs hosted before)
    (healthy : Healthy serviceId before) :
    Reliable codecs hosted serviceId before := by
  intro path last run harmless idle
  exact served_of_healthy here (sound.run run)
    ((healthy_iff_harmless run healthy).mpr harmless) idle

variable (hosted) in
/-- The number of things that the threads have to do, at most. -/
def work (processor : ServiceProcessor) : Nat := 3 * processor.intake.network.length +
    2 * processor.intake.router.defaultSender.waiting.length +
    ∑ serviceId ∈ hosted, (processor.services serviceId).queue.waiting.length

theorem length_waiting_sendTo (thread : ServiceThread) (message : Option ServiceMessage) :
    (sendTo thread message).queue.waiting.length ≤
      thread.queue.waiting.length + message.toList.length := by
  cases message with
  | none => exact Nat.le_refl _
  | some message =>
    unfold sendTo
    cases thread.queue.closed <;> simp [Channel.send]

theorem sum_messageFor_le (message : ServicePayload) : ∑ serviceId ∈ hosted,
    (messageFor codecs hosted serviceId message).toList.length ≤ 1 := by
  cases read : readInbound codecs message with
  | none => simp [messageFor, read]
  | some parsed =>
    have bound : ∀ serviceId ∈ hosted, (messageFor codecs hosted serviceId message).toList.length ≤
        if parsed.direct.recipient = serviceId then 1 else 0 := by
      intro serviceId _
      unfold messageFor
      rw [read]
      by_cases same : parsed.direct.recipient = serviceId
      · rw [if_pos same]
        cases (some parsed).filter (ServiceMessage.IsFor hosted serviceId) <;>
          simp
      · simp [ServiceMessage.IsFor, same]
    refine (Finset.sum_le_sum bound).trans ?_
    rw [Finset.sum_ite_eq]
    split <;> decide

theorem work_decreases (internal : event.Internal) (step : Step codecs hosted before event after) :
    work hosted after < work hosted before := by
  cases happened step with
  | deliver | expectReply | abandon => cases internal
  | @incoming receipt _ _ received =>
    have fewer := congrArg List.length received.network
    have more := Intake.length_waiting_forward before.intake.router.defaultSender
      ((reading codecs).forwarded receipt)
    rw [List.length_cons] at fewer
    rw [← received.defaultSender] at more
    unfold work
    dsimp only
    omega
  | @inbound message channel received =>
    have fewer := congrArg List.length (Channel.waiting_of_receive received)
    rw [List.length_cons] at fewer
    have more : ∑ serviceId ∈ hosted,
        (sendTo (before.services serviceId)
          (messageFor codecs hosted serviceId message)).queue.waiting.length ≤
        ∑ serviceId ∈ hosted, (before.services serviceId).queue.waiting.length + 1 := by
      refine
        (Finset.sum_le_sum fun serviceId _ =>
          length_waiting_sendTo _ _).trans ?_
      rw [Finset.sum_add_distrib]
      exact Nat.add_le_add_left (sum_messageFor_le message) _
    unfold work
    dsimp only
    omega
  | @service message queue called returned here running received =>
    have fewer := congrArg List.length (Channel.waiting_of_receive received)
    rw [List.length_cons] at fewer
    have same : (ServiceThread.after message queue returned).queue.waiting = queue.waiting := by
      cases returned <;> rfl
    have less : ∑ serviceId ∈ hosted,
        (Function.update before.services called (ServiceThread.after message queue returned)
          serviceId).queue.waiting.length <
        ∑ serviceId ∈ hosted, (before.services serviceId).queue.waiting.length := by
      refine Finset.sum_lt_sum ?_ ⟨called, here, ?_⟩
      · intro serviceId _
        rw [Function.update_apply]
        split
        · rename_i equal
          subst equal
          rw [same]
          omega
        · exact Nat.le_refl _
      · rw [Function.update_self, same]
        omega
    unfold work
    dsimp only
    omega

/-! ## Harmful events -/

/-- A step of a thread in which no service returns an error. -/
def Quiet (_ : ServiceProcessor) (event : Event) : Prop := event.Internal ∧
    ∀ serviceId returned, event = .service serviceId returned → returned = .ok ()

theorem harmless_of_quiet (quiet : Quiet before event) : Harmless serviceId before event := by
  cases event with
  | service called returned => exact fun _ => quiet.2 called returned rfl
  | _ => trivial

theorem idle_of_exhausted
    (exhausted : ∀ event after, Quiet before event → ¬ Step codecs hosted before event after) :
    Idle codecs hosted before := by
  intro event internal after step
  cases happened step with
  | deliver | expectReply | abandon => cases internal
  | incoming _ => exact exhausted .incoming _ ⟨trivial, nofun⟩ step
  | inbound _ => exact exhausted .inbound _ ⟨trivial, nofun⟩ step
  | @service _ _ called _ here running received =>
    obtain ⟨next, quiet⟩ := exists_service here running received (.ok ())
    refine exhausted (.service called (.ok ())) next ⟨trivial, ?_⟩ quiet
    intro _ _ same
    cases same
    rfl

theorem Sound.length_callsOf_le (sound : Sound codecs hosted before) :
    (before.callsOf serviceId).length ≤
      (before.intake.receipts.filterMap (due codecs hosted serviceId)).length := by
  have all : before.intake.router.defaultSender.taken <+:
      before.intake.receipts.filterMap (reading codecs).forwarded :=
    (List.prefix_append _ _).trans sound.intake.forwarded
  have own : (before.services serviceId).queue.taken <+:
      before.intake.router.defaultSender.taken.filterMap (messageFor codecs hosted serviceId) :=
    (List.prefix_append _ _).trans (sound.threads serviceId).sent
  rw [sound.calls, ← filterMap_due, List.length_map, List.length_map]
  exact (own.trans (all.filterMap _)).length_le

variable (codecs hosted) in
/-- The thread of the service has ended, and the last message, which is for the
service, waits or is lost. -/
def Lost (serviceId : String) (message : CircuitDirectMessage)
    (processor : ServiceProcessor) : Prop :=
  (processor.services serviceId).thread ≠ .running ∧
    (createDirectMessage codecs message ∈ processor.intake.network ∧
      processor.intake.router.expectedReplies.lookup message.correlationId = none ∨
      (processor.callsOf serviceId).length <
        (processor.intake.receipts.filterMap (due codecs hosted serviceId)).length)

section LastMessage

variable {message : CircuitDirectMessage}

theorem incoming_createDirectMessage (message : CircuitDirectMessage) :
    (reading codecs).incoming (createDirectMessage codecs message) =
      some (DirectMessage.incoming codecs message) := by
  apply Reading.incoming_of_read
  dsimp only [reading]
  exact readIncoming_createDirectMessage codecs _ _ message

theorem due_of_message {receipt : Receipt} (here : serviceId ∈ hosted)
    (own : message.recipient = serviceId)
    (bytes : receipt.bytes = createDirectMessage codecs message)
    (goes : receipt.destination = .defaultSender) :
    due codecs hosted serviceId receipt =
      some (ServiceMessage.circuitDirectMessage message).call := by
  unfold due Reading.forwarded
  rw [bytes, incoming_createDirectMessage, goes]
  simp [DirectMessage.incoming, messageFor, readInbound, ServiceMessage.IsFor,
    ServiceMessage.direct, here, own]

theorem lost_of_received {intake : Intake} {receipt : Receipt}
    {result : Except ServiceProcessorError Unit} (here : serviceId ∈ hosted)
    (own : message.recipient = serviceId) (sound : Sound codecs hosted before)
    (lost : Lost codecs hosted serviceId message before)
    (received : Intake.Received (reading codecs) before.intake receipt result intake) :
    Lost codecs hosted serviceId message { before with intake := intake } := by
  refine ⟨lost.1, ?_⟩
  rcases lost.2 with ⟨waits, absent⟩ | fewer
  · rw [received.network, List.mem_cons] at waits
    rcases waits with same | later
    · right
      have goes : receipt.destination = .defaultSender := by
        rw [received.destination, ← same]
        simp [Reading.destination, incoming_createDirectMessage, DirectMessage.incoming,
          InboundRouter.destination, absent]
      have atMost : (before.callsOf serviceId).length ≤ _ := sound.length_callsOf_le
      rw [received.receipts_filterMap, due_of_message here own same.symm goes,
        List.length_append, Option.toList_some, List.length_singleton]
      exact Nat.lt_succ_of_le atMost
    · left
      refine ⟨later, ?_⟩
      rw [received.expectedReplies, absent, ite_self]
  · right
    rw [received.receipts_filterMap, List.length_append]
    exact fewer.trans_le (Nat.le_add_right _ _)

theorem Lost.step (here : serviceId ∈ hosted) (own : message.recipient = serviceId)
    (sound : Sound codecs hosted before) (lost : Lost codecs hosted serviceId message before)
    (quiet : Quiet before event) (step : Step codecs hosted before event after) :
    Lost codecs hosted serviceId message after := by
  cases happened step with
  | deliver | expectReply | abandon => cases quiet.1
  | incoming received => exact lost_of_received here own sound lost received
  | inbound _ =>
    refine ⟨?_, lost.2⟩
    rw [thread_sendTo]
    exact lost.1
  | @service taken queue called returned _ running received =>
    have different : serviceId ≠ called := by
      rintro rfl
      exact lost.1 running
    refine ⟨?_, ?_⟩
    · dsimp only
      rw [Function.update_of_ne different]
      exact lost.1
    · rw [callsOf_append ((sound.threads called).recipient received),
        if_neg (Ne.symm different), List.append_nil]
      exact lost.2

end LastMessage

theorem healthy_of_reliable (here : serviceId ∈ hosted) (sound : Sound codecs hosted before)
    (reliable : Reliable codecs hosted serviceId before) :
    Healthy serviceId before := by
  by_contra ended
  -- a message for the service that is not a reply
  obtain ⟨correlationId, fresh⟩ :=
    Infinite.exists_notMem_finset before.intake.router.expectedReplies.keys
  have absent : before.intake.router.expectedReplies.lookup correlationId = none := by
    rw [Finmap.lookup_eq_none]
    exact fun member => fresh (Finmap.mem_keys.mpr member)
  let message : CircuitDirectMessage := ⟨"", "", serviceId, [], correlationId⟩
  let delivered : ServiceProcessor :=
    { before with intake := before.intake.deliver (createDirectMessage codecs message) }
  have delivery : Step codecs hosted before
      (.deliver (createDirectMessage codecs message)) delivered := rfl
  have decreases : ∀ state event next, Quiet state event → Step codecs hosted state event next →
      work hosted next < work hosted state :=
    fun _ _ _ quiet step => work_decreases quiet.1 step
  obtain ⟨path, last, run, quiet, exhausted⟩ :=
    Run.exists_exhausted (work hosted) decreases delivered
  have first : Lost codecs hosted serviceId message delivered :=
    ⟨ended, Or.inl ⟨List.mem_append_right _ (List.mem_singleton.mpr rfl), absent⟩⟩
  have throughout : Run.Throughout
      (fun state =>
        Sound codecs hosted state ∧ Lost codecs hosted serviceId message state)
      path last :=
    run.guarded ⟨sound.step delivery, first⟩
      (fun _ _ _ held quiet step =>
        ⟨held.1.step step, held.2.step here rfl held.1 quiet step⟩)
      quiet
  have served := reliable _ _ (Run.cons delivery run)
    (List.forall_mem_cons.mpr
      ⟨trivial, fun visited member =>
        harmless_of_quiet (quiet visited member)⟩)
    (idle_of_exhausted exhausted)
  rcases throughout.2.2.2 with ⟨waits, _⟩ | fewer
  · rw [served.received] at waits
    cases waits
  · rw [served.called] at fewer
    exact Nat.lt_irrefl _ fewer

theorem reliable_iff_harmless (here : serviceId ∈ hosted)
    (run : Run (Step codecs hosted) new path last) :
    Reliable codecs hosted serviceId last ↔ Run.Meets (Harmless serviceId) path := by
  have sound : Sound codecs hosted last := sound_new.run run
  rw [← healthy_iff_harmless run rfl]
  exact ⟨healthy_of_reliable here sound, reliable_of_healthy here sound⟩

end ServiceProcessor

end Splinter.Service
