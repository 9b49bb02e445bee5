import Splinter.Circuits.Protos
import Splinter.Network.Reply

/-!
# What a service host receives

A service host reads the messages of its node in order and routes those that may
be replies.  For every message a receipt says where the router was to send it;
`Intake.Sound` relates the receipts to what the router has sent.
-/

namespace Splinter.Service

open Library Network
open Consensus (ProtobufError)
open Circuits.Protos
open InboundRouter (Destination)

abbrev ServicePayload := CircuitMessageType × Bytes

/-- A call of `Service::handle_message`. -/
structure Call (Name : Type) where
  service : Name
  payload : Bytes
  context : ServiceMessageContext
  deriving DecidableEq

def Call.ofMessage {Name : Type} (service : Name) (message : DirectMessage) : Call Name where
  service := service
  payload := message.payload
  context := ⟨message.sender, message.circuit, message.correlationId⟩

/-! ## Reading a message -/

section Read

variable {Failure Message : Type}

/-- Parse a message; `fails` makes an error of a description of what could not
be done and of the error of the protobuf library. -/
def parseOr (fails : String → ErrorText → Failure) (attempt : String)
    (codec : Codec ProtobufError Message) (bytes : Bytes) :
    Except Failure Message :=
  (codec.parse bytes).mapError fun error => fails attempt error.description

@[simp]
theorem parseOr_write (fails : String → ErrorText → Failure)
    (attempt : String) (codec : Codec ProtobufError Message) (message : Message) :
    parseOr fails attempt codec (codec.write message) = .ok message := by
  unfold parseOr
  rw [codec.parse_write]
  rfl

theorem parseOr_eq_ok_iff {fails : String → ErrorText → Failure}
    {attempt : String} {codec : Codec ProtobufError Message} {bytes : Bytes} {message : Message} :
    parseOr fails attempt codec bytes = .ok message ↔ codec.parse bytes = .ok message :=
  mapError_eq_ok_iff _ _ _

variable (codecs : Codecs) (fails : String → ErrorText → Failure)

/-- The correlation id of a message that may be a reply, with its payload.
`other` says what is done with the other circuit messages. -/
def readIncoming (other : CircuitMessageType → Bytes → Except Failure Unit) (messageBytes : Bytes) :
    Except Failure (Option (String × ServicePayload)) := do
  let msg ← parseOr fails "unable parse network message" codecs.networkMessage
    messageBytes
  match msg.messageType with
  | .circuit =>
    let circuitMsg ← parseOr fails "unable to parse circuit message" codecs.circuitMessage
      msg.payload
    let payload := circuitMsg.payload
    match circuitMsg.messageType with
    | .adminDirectMessage =>
      let message ←
        parseOr fails "unable to parse admin direct message" codecs.adminDirectMessage payload
      return some (message.correlationId, (.adminDirectMessage, payload))
    | .circuitDirectMessage =>
      let message ←
        parseOr fails "unable to parse circuit direct message" codecs.circuitDirectMessage payload
      return some (message.correlationId, (.circuitDirectMessage, payload))
    | .serviceConnectResponse =>
      let response ←
        parseOr fails "unable to parse service connect response"
          codecs.serviceConnectResponse payload
      return some (response.correlationId, (.serviceConnectResponse, payload))
    | .serviceDisconnectResponse =>
      let response ←
        parseOr fails "unable to parse service disconnect response"
          codecs.serviceDisconnectResponse payload
      return some (response.correlationId, (.serviceDisconnectResponse, payload))
    | messageType =>
      other messageType payload
      return none
  -- heartbeats and messages of other types are only logged
  | _ => return none

inductive Incoming : String × ServicePayload → Prop
  | adminDirectMessage {message : AdminDirectMessage} {payload : Bytes} :
    codecs.adminDirectMessage.parse payload = .ok message →
    Incoming (message.correlationId, (.adminDirectMessage, payload))
  | circuitDirectMessage {message : CircuitDirectMessage} {payload : Bytes} :
    codecs.circuitDirectMessage.parse payload = .ok message →
    Incoming (message.correlationId, (.circuitDirectMessage, payload))
  | serviceConnectResponse {response : ServiceConnectResponse} {payload : Bytes} :
    codecs.serviceConnectResponse.parse payload = .ok response →
    Incoming (response.correlationId, (.serviceConnectResponse, payload))
  | serviceDisconnectResponse {response : ServiceDisconnectResponse} {payload : Bytes} :
    codecs.serviceDisconnectResponse.parse payload = .ok response →
    Incoming (response.correlationId, (.serviceDisconnectResponse, payload))

variable {codecs fails}

theorem incoming_of_readIncoming {other : CircuitMessageType → Bytes → Except Failure Unit}
    {messageBytes : Bytes} {found : String × ServicePayload}
    (read : readIncoming codecs fails other messageBytes = .ok (some found)) :
    Incoming codecs found := by
  obtain ⟨msg, _, read⟩ := (bind_eq_ok_iff _ _ _).mp read
  split at read
  · obtain ⟨circuitMsg, _, read⟩ := (bind_eq_ok_iff _ _ _).mp read
    split at read
    · obtain ⟨message, parsed, same⟩ := (bind_eq_ok_iff _ _ _).mp read
      cases same
      exact Incoming.adminDirectMessage (parseOr_eq_ok_iff.mp parsed)
    · obtain ⟨message, parsed, same⟩ := (bind_eq_ok_iff _ _ _).mp read
      cases same
      exact Incoming.circuitDirectMessage (parseOr_eq_ok_iff.mp parsed)
    · obtain ⟨message, parsed, same⟩ := (bind_eq_ok_iff _ _ _).mp read
      cases same
      exact Incoming.serviceConnectResponse (parseOr_eq_ok_iff.mp parsed)
    · obtain ⟨message, parsed, same⟩ := (bind_eq_ok_iff _ _ _).mp read
      cases same
      exact Incoming.serviceDisconnectResponse (parseOr_eq_ok_iff.mp parsed)
    · obtain ⟨_, _, same⟩ := (bind_eq_ok_iff _ _ _).mp read
      cases same
  · cases read

variable (codecs fails)

/-- `create_message`: the payload of a circuit message, ready to be sent. -/
def createMessage (payload : Bytes) (messageType : CircuitMessageType) : Bytes :=
  codecs.networkMessage.write ⟨.circuit, codecs.circuitMessage.write ⟨messageType, payload⟩⟩

def createDirectMessage (message : CircuitDirectMessage) : Bytes :=
  createMessage codecs (codecs.circuitDirectMessage.write message) .circuitDirectMessage

def DirectMessage.incoming (message : CircuitDirectMessage) : String × ServicePayload :=
  (message.correlationId, (.circuitDirectMessage, codecs.circuitDirectMessage.write message))

theorem readIncoming_createDirectMessage (other : CircuitMessageType → Bytes → Except Failure Unit)
    (message : CircuitDirectMessage) :
    readIncoming codecs fails other (createDirectMessage codecs message) =
      .ok (some (DirectMessage.incoming codecs message)) := by
  simp only [readIncoming, createDirectMessage, createMessage, parseOr_write, bind, Except.bind]
  rfl

end Read

/-! ## Routing it -/

variable {Failure : Type}

/-- How a host reads a message, and its error when the router fails. -/
structure Reading (Failure : Type) where
  read : Bytes → Except Failure (Option (String × ServicePayload))
  unroutable : RouteError → Failure

/-- The bytes of a message and where the router was to send it. -/
structure Receipt where
  bytes : Bytes
  destination : Destination
  deriving DecidableEq

namespace Reading

variable (reading : Reading Failure)

def process (messageBytes : Bytes) :
    EStateM Failure (InboundRouter CircuitMessageType) Unit := do
  match ← fromExcept (reading.read messageBytes) with
  | some (correlationId, payload) =>
    mapError reading.unroutable (InboundRouter.route correlationId payload)
  | none => pure ()

def incoming (messageBytes : Bytes) : Option (String × ServicePayload) :=
  match reading.read messageBytes with
  | .ok found => found
  | .error _ => none

theorem incoming_of_read {bytes : Bytes} {found : Option (String × ServicePayload)}
    (read : reading.read bytes = .ok found) :
    reading.incoming bytes = found := by
  unfold incoming
  rw [read]

/-- Where a message is to be sent; what is not routed counts for the default
channel. -/
def destination (router : InboundRouter CircuitMessageType) (messageBytes : Bytes) : Destination :=
  match reading.incoming messageBytes with
  | some (correlationId, _) => router.destination correlationId
  | none => .defaultSender

/-- The reply that a received message is, and to whom. -/
def reply (receipt : Receipt) : Option (Caller × ServicePayload) :=
  match reading.incoming receipt.bytes, receipt.destination with
  | some (_, payload), .caller caller => some (caller, payload)
  | _, _ => none

/-- What a received message puts into the default channel. -/
def forwarded (receipt : Receipt) : Option ServicePayload :=
  match reading.incoming receipt.bytes, receipt.destination with
  | some (_, payload), .defaultSender => some payload
  | _, _ => none

/-- A message that cannot be read, or a reply to a caller that is gone. -/
def Rejects (receipt : Receipt) : Prop := (∃ failure, reading.read receipt.bytes = .error failure) ∨
    receipt.destination = .nobody

end Reading

/-- What waits on the connection, the receipts of what has been received, and
the router. -/
structure Intake where
  network : List Bytes
  receipts : List Receipt
  router : InboundRouter CircuitMessageType

namespace Intake

def new : Intake where
  network := []
  receipts := []
  router := .new

def delivered (intake : Intake) : List Bytes := intake.receipts.map Receipt.bytes ++ intake.network

def deliver (messageBytes : Bytes) (intake : Intake) : Intake :=
  { intake with network := intake.network ++ [messageBytes] }

variable (reading : Reading Failure)

def receive (intake : Intake) : Option (Except Failure Unit × Intake) :=
  match intake.network with
  | [] => none
  | messageBytes :: rest =>
    let receipts := intake.receipts ++
      [⟨messageBytes, reading.destination intake.router messageBytes⟩]
    match (reading.process messageBytes).run intake.router with
    | .ok _ router => some (.ok (), ⟨rest, receipts, router⟩)
    | .error failure router => some (.error failure, ⟨rest, receipts, router⟩)

theorem receive_eq_none_iff (intake : Intake) :
    intake.receive reading = none ↔ intake.network = [] := by
  unfold receive
  split
  · simp [*]
  · split <;> simp [*]

/-- The channel with what has been forwarded, unless it is closed. -/
def forward (channel : Channel ServicePayload)
    (payload : Option ServicePayload) : Channel ServicePayload :=
  match payload with
  | some payload => if channel.closed then channel else channel.send payload
  | none => channel

/-- What receiving a message does. -/
structure Received (intake : Intake) (receipt : Receipt)
    (result : Except Failure Unit) (after : Intake) : Prop where
  network : intake.network = receipt.bytes :: after.network
  receipts : after.receipts = intake.receipts ++ [receipt]
  destination : receipt.destination = reading.destination intake.router receipt.bytes
  replies : after.router.replies = intake.router.replies ++ (reading.reply receipt).toList
  defaultSender : after.router.defaultSender =
    forward intake.router.defaultSender (reading.forwarded receipt)
  expectedReplies : ∀ correlationId, after.router.expectedReplies.lookup correlationId =
    if (reading.incoming receipt.bytes).map Prod.fst =
      some correlationId then
      none
    else
      intake.router.expectedReplies.lookup correlationId
  result : result = .ok () ↔ ¬ reading.Rejects receipt ∧
    (intake.router.defaultSender.closed = true → reading.forwarded receipt = none)

variable {correlationId : String} {bytes : Bytes} {rest : List Bytes} {receipt : Receipt}

theorem lookup_of_destination {router : InboundRouter CircuitMessageType}
    (goes : router.destination correlationId = .defaultSender) :
    router.expectedReplies.lookup correlationId = none := by
  unfold InboundRouter.destination at goes
  split at goes
  · split at goes <;> cases goes
  · assumption

def conclude : EStateM.Result RouteError (InboundRouter CircuitMessageType) Unit →
    Except Failure Unit × InboundRouter CircuitMessageType
  | .ok _ router => (.ok (), router)
  | .error error router => (.error (reading.unroutable error), router)

variable {intake after : Intake} {result : Except Failure Unit}

theorem received_of_routed {payload : ServicePayload}
    {routed : EStateM.Result RouteError (InboundRouter CircuitMessageType) Unit}
    (waits : intake.network = bytes :: rest)
    (read : reading.read bytes = .ok (some (correlationId, payload)))
    (outcome : intake.router.Routed correlationId payload routed) :
    Received reading intake ⟨bytes, reading.destination intake.router bytes⟩
      (conclude reading routed).1
      ⟨rest, intake.receipts ++ [⟨bytes, reading.destination intake.router bytes⟩],
        (conclude reading routed).2⟩ := by
  have found := reading.incoming_of_read read
  have goes : reading.destination intake.router bytes =
      intake.router.destination correlationId := by
    simp only [Reading.destination, found]
  rw [goes]
  cases outcome with
  | @answered caller destination =>
    simp only [conclude]
    refine ⟨waits, rfl, goes.symm, ?_, ?_, ?_, ?_⟩
    · simp [Reading.reply, found, destination]
    · simp only [Reading.forwarded, found, destination, forward]
    · intro other
      simp [found, lookup_erase_eq, eq_comm]
    · simp [Reading.Rejects, Reading.forwarded, found, destination, read]
  | @unanswered error destination =>
    simp only [conclude]
    refine ⟨waits, rfl, goes.symm, ?_, ?_, ?_, ?_⟩
    · simp [Reading.reply, found, destination]
    · simp only [Reading.forwarded, found, destination, forward]
    · intro other
      simp [found, lookup_erase_eq, eq_comm]
    · simp [Reading.Rejects, destination]
  | forwarded destination opened =>
    simp only [conclude]
    refine ⟨waits, rfl, goes.symm, ?_, ?_, ?_, ?_⟩
    · simp [Reading.reply, found, destination]
    · simp [Reading.forwarded, found, destination, forward, opened]
    · intro other
      simp only [found, Option.map_some, Option.some.injEq]
      split
      · rename_i same
        rw [← same]
        exact lookup_of_destination destination
      · rfl
    · simp [Reading.Rejects, destination, read, opened]
  | @refused error destination closed =>
    simp only [conclude]
    refine ⟨waits, rfl, goes.symm, ?_, ?_, ?_, ?_⟩
    · simp [Reading.reply, found, destination]
    · simp [Reading.forwarded, found, destination, forward, closed]
    · intro other
      simp only [found, Option.map_some, Option.some.injEq]
      split
      · rename_i same
        rw [← same]
        exact lookup_of_destination destination
      · rfl
    · simp [Reading.Rejects, Reading.forwarded, found, destination, read, closed]

theorem received_of_unrouted (waits : intake.network = bytes :: rest)
    (read : reading.read bytes = result.map fun _ => none) :
    Received reading intake ⟨bytes, reading.destination intake.router bytes⟩ result
      ⟨rest, intake.receipts ++ [⟨bytes, reading.destination intake.router bytes⟩],
        intake.router⟩ := by
  have found : reading.incoming bytes = none := by
    unfold Reading.incoming
    rw [read]
    cases result <;> rfl
  have goes : reading.destination intake.router bytes = .defaultSender := by
    simp only [Reading.destination, found]
  rw [goes]
  refine ⟨waits, rfl, goes.symm, ?_, ?_, ?_, ?_⟩
  · simp [Reading.reply, found]
  · simp [Reading.forwarded, found, forward]
  · intro other
    simp [found]
  · cases result with
    | ok _ => simp [Reading.Rejects, Reading.forwarded, found, read, Except.map]
    | error failure => simp [Reading.Rejects, read, Except.map]

theorem received (returned : intake.receive reading = some (result, after)) :
    ∃ receipt, Received reading intake receipt result after := by
  unfold receive at returned
  split at returned
  · cases returned
  · rename_i bytes rest waits
    refine ⟨⟨bytes, reading.destination intake.router bytes⟩, ?_⟩
    rcases read : reading.read bytes with failure | _ | ⟨id, payload⟩
    · have ran : (reading.process bytes).run intake.router = .error failure intake.router := by
        rw [Reading.process, read]
        rfl
      simp only [ran] at returned
      cases returned
      exact received_of_unrouted reading waits read
    · have ran : (reading.process bytes).run intake.router = .ok () intake.router := by
        rw [Reading.process, read]
        rfl
      simp only [ran] at returned
      cases returned
      exact received_of_unrouted reading waits read
    · have ran : (reading.process bytes).run intake.router =
          (mapError reading.unroutable (InboundRouter.route id payload)).run intake.router := by
        rw [Reading.process, read]
        rfl
      have outcome := intake.router.routed id payload
      cases routed : (InboundRouter.route id payload).run intake.router with
      | ok _ router =>
        rw [routed] at outcome
        simp only [ran, run_mapError, routed] at returned
        cases returned
        exact received_of_routed reading waits read outcome
      | error error router =>
        rw [routed] at outcome
        simp only [ran, run_mapError, routed] at returned
        cases returned
        exact received_of_routed reading waits read outcome

/-- The router has sent what the receipts say: all replies, and to the default
channel everything up to the message at which it was found closed. -/
structure Sound (intake : Intake) : Prop where
  replies : intake.router.replies = intake.receipts.filterMap reading.reply
  forwarded : intake.router.defaultSender.sent <+: intake.receipts.filterMap reading.forwarded
  complete : intake.router.defaultSender.closed = false → intake.router.defaultSender.sent =
    intake.receipts.filterMap reading.forwarded

theorem sound_new : Sound reading new := ⟨rfl, List.prefix_rfl, fun _ => rfl⟩

variable {reading}

theorem Sound.congr (sound : Sound reading intake) (receipts : after.receipts = intake.receipts)
    (replies : after.router.replies = intake.router.replies)
    (sent : after.router.defaultSender.sent = intake.router.defaultSender.sent)
    (opened : after.router.defaultSender.closed = false →
        intake.router.defaultSender.closed = false) :
    Sound reading after where
  replies := by rw [receipts, replies, sound.replies]
  forwarded := by
    rw [receipts, sent]
    exact sound.forwarded
  complete := by
    intro still
    rw [receipts, sent]
    exact sound.complete (opened still)

variable (channel : Channel ServicePayload) (payload : Option ServicePayload)

theorem sent_forward : (forward channel payload).sent =
    if channel.closed then channel.sent
    else channel.sent ++ payload.toList := by
  cases payload with
  | none => simp [forward]
  | some payload => cases closed : channel.closed <;> simp [forward, closed]

theorem closed_forward : (forward channel payload).closed = channel.closed := by
  cases payload with
  | none => rfl
  | some payload =>
    unfold forward
    cases closed : channel.closed <;> simp [closed, Channel.send]

theorem taken_forward : (forward channel payload).taken = channel.taken := by
  cases payload with
  | none => rfl
  | some payload =>
    unfold forward
    cases closed : channel.closed <;> simp [Channel.send]

theorem length_waiting_forward :
    (forward channel payload).waiting.length ≤ channel.waiting.length + 1 := by
  cases payload with
  | none => exact Nat.le_succ _
  | some payload =>
    unfold forward
    cases channel.closed <;> simp [Channel.send]

theorem Received.receipts_filterMap {Item : Type}
    (received : Received reading intake receipt result after) (view : Receipt → Option Item) :
    after.receipts.filterMap view = intake.receipts.filterMap view ++ (view receipt).toList := by
  rw [received.receipts, List.filterMap_append]
  cases shown : view receipt <;> simp [shown]

theorem Sound.receive (sound : Sound reading intake)
    (received : Received reading intake receipt result after) :
    Sound reading after where
  replies := by
    rw [received.replies, sound.replies, received.receipts_filterMap]
  forwarded := by
    rw [received.receipts_filterMap, received.defaultSender, sent_forward]
    split
    · exact sound.forwarded.trans (List.prefix_append _ _)
    · rename_i opened
      rw [sound.complete (Bool.eq_false_iff.mpr opened)]
  complete := by
    intro opened
    rw [received.defaultSender, closed_forward] at opened
    rw [received.receipts_filterMap, received.defaultSender, sent_forward,
      opened, sound.complete opened]
    rfl

end Intake

inductive Thread (Failure : Type) where
  | running
  | ended (failure : Failure)
  deriving DecidableEq

def Thread.after : Except Failure Unit → Thread Failure
  | .ok _ => .running
  | .error failure => .ended failure

theorem Thread.after_eq_running_iff (result : Except Failure Unit) :
    Thread.after result = .running ↔ result = .ok () := by
  cases result <;> simp [Thread.after]

/-- The channel of a thread after an iteration of its loop. -/
def closeAfter {Item : Type} (result : Except Failure Unit)
    (channel : Channel Item) : Channel Item :=
  match result with
  | .ok _ => channel
  | .error _ => channel.close

end Splinter.Service
