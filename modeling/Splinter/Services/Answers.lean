import Splinter.Service.Host

/-!
# Requests and their replies

A request (`send_and_await`) and its reply have the same correlation id, so on a
connection that hosts both services the router takes the request for its own
reply.  `genuine_iff_crosses` says that a reply is wrong in no other way.
-/

namespace Splinter.Service

open Library Network Circuits.Protos Host

/-- A call of `reply`: who replies, to which message and with what. -/
structure Reply where
  service : String
  origin : ServiceMessageContext
  payload : Bytes
  deriving DecidableEq

/-- The message that `reply` sends. -/
def Reply.message (reply : Reply) : CircuitDirectMessage where
  circuit := reply.origin.circuit
  sender := reply.service
  recipient := reply.origin.sender
  payload := reply.payload
  correlationId := reply.origin.correlationId

/-- The hosts of all connections, what their services have sent, and the
requests and replies among it.  `others` are the correlation ids of messages
that services of these hosts have not sent. -/
structure Exchange (Connection : Type) where
  hosts : Connection → Host
  sent : List CircuitDirectMessage
  requests : List CircuitDirectMessage
  replies : List Reply
  others : List String

namespace Exchange

variable {Connection : Type}

structure IsNew (exchange : Exchange Connection) : Prop where
  hosts : ∀ connection, (exchange.hosts connection).IsNew
  sent : exchange.sent = []
  requests : exchange.requests = []
  replies : exchange.replies = []
  others : exchange.others = []

/-- What happens: a service calls `send_and_await`, `send` or `reply`, the node
delivers a message of a service or any other message, or something happens at
a host. -/
inductive Event (Connection : Type) where
  | sendAndAwait (request : CircuitDirectMessage)
  | send (circuit sender recipient : String) (payload : Bytes)
  | reply (connection : Connection) (call : Call String) (payload : Bytes)
  | deliver (message : CircuitDirectMessage)
  | other (connection : Connection) (messageBytes : Bytes)
  | atHost (connection : Connection) (event : Host.Event)

variable (codecs : Codecs) (placement : String → String → Connection)

def recipientConnection (message : CircuitDirectMessage) : Connection :=
  placement message.circuit message.recipient

/-- The connection of the service that sends a message. -/
def senderConnection (message : CircuitDirectMessage) : Connection :=
  placement message.circuit message.sender

section Step

variable [DecidableEq Connection]

/-- The exchange after something has happened at a host. -/
def atHost (connection : Connection) (event : Host.Event)
    (exchange : Exchange Connection) : Option (Exchange Connection) :=
  (Host.advance codecs event (exchange.hosts connection)).map fun host =>
    { exchange with hosts := Function.update exchange.hosts connection host }

/-- What a host does by itself. -/
def internal : Host.Event → Bool
  | .deliver _ | .expectReply _ _ => false
  | _ => true

/-- The exchange after an event, if it can happen.  The correlation id of a
request is new; a service replies to a message that it has been called with;
the node may deliver a message late, again or never. -/
def advance (event : Event Connection) (exchange : Exchange Connection) :
    Option (Exchange Connection) :=
  match event with
  | .sendAndAwait request =>
    if request.correlationId ≠ "" ∧
      request.correlationId ∉ exchange.others ∧
      request.correlationId ∉ exchange.requests.map DirectMessage.correlationId then
      atHost codecs (senderConnection placement request)
        (.expectReply request.correlationId exchange.requests.length)
        { exchange with
          sent := exchange.sent ++ [request]
          requests := exchange.requests ++ [request] }
    else
      none
  | .send circuit sender recipient payload =>
    some { exchange with sent := exchange.sent ++ [⟨circuit, sender, recipient, payload, ""⟩] }
  | .reply connection call payload =>
    if call ∈ (exchange.hosts connection).calls then
      let reply : Reply := ⟨call.service, call.context, payload⟩
      some
        { exchange with
          sent := exchange.sent ++ [reply.message]
          replies := exchange.replies ++ [reply] }
    else
      none
  | .deliver message =>
    if message ∈ exchange.sent then
      atHost codecs (recipientConnection placement message)
        (.deliver (createDirectMessage codecs message)) exchange
    else
      none
  | .other connection messageBytes =>
    let ids := ((Host.routable codecs messageBytes).map Prod.fst).toList
    if ∀ correlationId ∈ ids,
      correlationId ∉ exchange.requests.map DirectMessage.correlationId then
      atHost codecs connection (.deliver messageBytes)
        { exchange with others := exchange.others ++ ids }
    else
      none
  | .atHost connection event =>
    if internal event then atHost codecs connection event exchange else none

def Step (before : Exchange Connection) (event : Event Connection)
    (after : Exchange Connection) : Prop :=
  advance codecs placement event before = some after

end Step

/-- `send_and_await` has returned the payload of a message: it has been sent to
the caller, and it could be parsed. -/
def Returned (exchange : Exchange Connection) (request : CircuitDirectMessage)
    (message : CircuitDirectMessage) : Prop :=
  ∃ caller messageType bytes, exchange.requests[caller]? = some request ∧
    (caller, (messageType, bytes)) ∈
      (exchange.hosts (senderConnection placement request)).router.replies ∧
    codecs.circuitDirectMessage.parse bytes = .ok message

structure Answers (exchange : Exchange Connection)
    (request message : CircuitDirectMessage) : Prop where
  called : Call.ofMessage request.recipient request ∈
    (exchange.hosts (recipientConnection placement request)).calls
  replied : ∃ reply ∈ exchange.replies, reply.service = request.recipient ∧ reply.origin =
    ⟨request.sender, request.circuit, request.correlationId⟩ ∧
    message = reply.message

/-- The reply comes from the recipient and is not the request. -/
def Genuine (exchange : Exchange Connection) (request message : CircuitDirectMessage) : Prop :=
  Answers placement exchange request message ∧ message ≠ request

/-- The recipient is on another connection than the sender. -/
def Crosses (request : CircuitDirectMessage) : Prop :=
  recipientConnection placement request ≠ senderConnection placement request

/-! ## What holds in all runs -/

variable {codecs placement} {before after exchange : Exchange Connection}

structure Grows (before after : Exchange Connection) : Prop where
  calls : ∀ connection, (before.hosts connection).calls <+: (after.hosts connection).calls
  sent : before.sent <+: after.sent
  requests : before.requests <+: after.requests
  replies : before.replies <+: after.replies
  others : before.others <+: after.others

variable {request message : CircuitDirectMessage} {connection : Connection} {correlationId : String}

theorem Answers.mono (grows : Grows before after)
    (answers : Answers placement before request message) :
    Answers placement after request message := by
  obtain ⟨called, reply, listed, rest⟩ := answers
  exact ⟨(grows.calls _).subset called, reply, grows.replies.subset listed, rest⟩

theorem Grows.getElem? {caller : Nat} (grows : Grows before after)
    (found : before.requests[caller]? = some request) :
    after.requests[caller]? = some request := by
  obtain ⟨more, same⟩ := grows.requests
  obtain ⟨bound, _⟩ := List.getElem?_eq_some_iff.mp found
  rw [← same, List.getElem?_append_left bound]
  exact found

variable (codecs placement)

/-- What a host has received and what it expects, compared with what has been
sent: a reply is the request itself exactly if this comes back to the
connection. -/
structure Consistent (exchange : Exchange Connection)
    (connection : Connection) (intake : Intake) : Prop where
  delivered : ∀ bytes ∈ intake.delivered, ∀ correlationId payload,
    Host.routable codecs bytes = some (correlationId, payload) → correlationId ∈ exchange.others ∨
      ∃ message ∈ exchange.sent, recipientConnection placement message = connection ∧
        message.correlationId = correlationId ∧
        payload = (.circuitDirectMessage, codecs.circuitDirectMessage.write message)
  expected : ∀ correlationId expected,
    intake.router.expectedReplies.lookup correlationId = some expected → ∃ request,
      exchange.requests[expected.caller]? = some request ∧ request.correlationId = correlationId ∧
        senderConnection placement request = connection
  unrouted : ∀ correlationId ∈ intake.router.expectedReplies, ∀ receipt ∈ intake.receipts,
    (Host.routable codecs receipt.bytes).map Prod.fst ≠ some correlationId
  replies : ∀ caller payload, (caller, payload) ∈ intake.router.replies → ∃ request message,
    exchange.requests[caller]? = some request ∧ senderConnection placement request = connection ∧
      payload = (.circuitDirectMessage, codecs.circuitDirectMessage.write message) ∧
      (Crosses placement request → Answers placement exchange request message) ∧
      (¬ Crosses placement request → message = request)

/-- A caller that is waiting can only be answered by its request or by a reply
of the recipient to it. -/
structure Sound (exchange : Exchange Connection) : Prop where
  hosts : ∀ connection, (exchange.hosts connection).Sound codecs
  consistent : ∀ connection, Consistent codecs placement exchange connection
    (exchange.hosts connection).intake
  fresh : ∀ request ∈ exchange.requests,
    request.correlationId ≠ "" ∧ request.correlationId ∉ exchange.others
  sent : ∀ message ∈ exchange.sent,
    message.correlationId = "" ∨ message.correlationId ∈ exchange.others ∨ message.correlationId ∈
      exchange.requests.map DirectMessage.correlationId
  pending : ∀ request ∈ exchange.requests, request.correlationId ∈
    (exchange.hosts (senderConnection placement request)).router.expectedReplies →
    ∀ message ∈ exchange.sent, message.correlationId = request.correlationId →
      message = request ∨ Answers placement exchange request message

variable {codecs placement}

theorem IsNew.sound (isNew : exchange.IsNew) : Sound codecs placement exchange where
  hosts := fun connection => (isNew.hosts connection).sound
  consistent := by
    intro connection
    rw [(isNew.hosts connection).intake]
    refine ⟨?_, ?_, ?_, ?_⟩
    · intro bytes delivered
      cases delivered
    · intro correlationId expected found
      simp [Intake.new, InboundRouter.new] at found
    · intro correlationId expected receipt received
      cases received
    · intro caller reply replied
      cases replied
  fresh := by
    simp [isNew.requests]
  sent := by
    simp [isNew.sent]
  pending := by
    simp [isNew.requests]

variable {intake : Intake} {call : Call String} {replies : List Reply}

theorem Consistent.mono (grows : Grows before after)
    (consistent : Consistent codecs placement before connection intake) :
    Consistent codecs placement after connection intake where
  delivered := by
    intro bytes listed correlationId payload routed
    rcases consistent.delivered bytes listed correlationId payload routed with
      other | ⟨message, sent, rest⟩
    · exact Or.inl (grows.others.subset other)
    · exact Or.inr ⟨message, grows.sent.subset sent, rest⟩
  expected := by
    intro correlationId expected found
    obtain ⟨request, listed, rest⟩ := consistent.expected correlationId expected found
    exact ⟨request, grows.getElem? listed, rest⟩
  unrouted := consistent.unrouted
  replies := by
    intro caller payload replied
    obtain ⟨request, message, listed, here, same, crossing, staying⟩ :=
      consistent.replies caller payload replied
    exact
      ⟨request, message, grows.getElem? listed, here, same,
        fun crosses => (crossing crosses).mono grows, staying⟩

theorem Consistent.congr {first last : Intake}
    (consistent : Consistent codecs placement exchange connection first)
    (network : last.network = first.network) (receipts : last.receipts = first.receipts)
    (replies : last.router.replies = first.router.replies) (expected : ∀ correlationId expected,
      last.router.expectedReplies.lookup correlationId = some expected → ∃ earlier,
          first.router.expectedReplies.lookup correlationId = some earlier ∧
            earlier.caller = expected.caller) :
    Consistent codecs placement exchange connection last where
  delivered := by
    unfold Intake.delivered
    rw [network, receipts]
    exact consistent.delivered
  expected := by
    intro correlationId reply found
    obtain ⟨earlier, before, same⟩ := expected correlationId reply found
    rw [← same]
    exact consistent.expected correlationId earlier before
  unrouted := by
    intro correlationId present
    obtain ⟨reply, found⟩ := Finmap.mem_iff.mp present
    obtain ⟨earlier, before, _⟩ := expected correlationId reply found
    rw [receipts]
    exact consistent.unrouted correlationId (Finmap.mem_of_lookup_eq_some before)
  replies := by
    rw [replies]
    exact consistent.replies

section Events

variable (sound : Sound codecs placement exchange)
include sound

theorem Sound.exists_message (called : call ∈ (exchange.hosts connection).calls) :
    ∃ message, call = Call.ofMessage message.recipient message ∧
      (∃ receipt ∈ (exchange.hosts connection).intake.receipts,
        (Host.routable codecs receipt.bytes).map Prod.fst = some message.correlationId) ∧
      (message.correlationId ∈ exchange.others ∨ message ∈ exchange.sent ∧
        recipientConnection placement message = connection) := by
  obtain ⟨receipt, received, payload, message, forwarded, read, same⟩ :=
    (sound.hosts connection).exists_receipt called
  have routed := routable_of_forwarded forwarded read
  refine ⟨message, same, ⟨receipt, received, by rw [routed]; rfl⟩, ?_⟩
  have delivered : receipt.bytes ∈ (exchange.hosts connection).intake.delivered :=
    List.mem_append_left _ (List.mem_map_of_mem received)
  rcases (sound.consistent connection).delivered _ delivered _ _ routed with
    other | ⟨original, sent, here, _, written⟩
  · exact Or.inl other
  · rw [written, directMessage_write] at read
    cases read
    exact Or.inr ⟨sent, here⟩

/-- A service that shares the connection of the caller has not been called with
the request while the caller waits. -/
theorem Sound.crosses_of_called (pending : request.correlationId ∈
      (exchange.hosts (senderConnection placement request)).router.expectedReplies)
    (called : Call.ofMessage request.recipient request ∈
      (exchange.hosts (recipientConnection placement request)).calls) :
    Crosses placement request := by
  intro same
  rw [same] at called
  obtain ⟨message, call, ⟨receipt, received, routed⟩, _⟩ := sound.exists_message called
  have correlated : request.correlationId = message.correlationId :=
    congrArg (fun call => call.context.correlationId) call
  apply (sound.consistent _).unrouted _ pending receipt received
  rw [routed, correlated]

theorem Sound.receive {receipt : Receipt}
    (received : Host.Received codecs (exchange.hosts connection).intake receipt intake) :
    Consistent codecs placement exchange connection intake where
  delivered := by
    rw [received.delivered]
    exact (sound.consistent connection).delivered
  expected := by
    intro correlationId expected found
    exact (sound.consistent connection).expected correlationId expected
        (received.lookup_of_lookup found).1
  unrouted := by
    intro correlationId present other listed
    obtain ⟨expected, found⟩ := Finmap.mem_iff.mp present
    obtain ⟨earlier, different⟩ := received.lookup_of_lookup found
    rw [received.receipts] at listed
    rcases List.mem_append.mp listed with before | now
    · exact (sound.consistent connection).unrouted correlationId
          (Finmap.mem_of_lookup_eq_some earlier) other before
    · rw [List.mem_singleton.mp now]
      exact different
  replies := by
    intro caller payload replied
    rw [received.replies] at replied
    rcases List.mem_append.mp replied with before | now
    · exact (sound.consistent connection).replies caller payload before
    · obtain ⟨correlationId, expected, routed, found, rfl⟩ :=
        received.exists_expected (Option.mem_toList.mp now)
      obtain ⟨request, listed, rfl, rfl⟩ :=
        (sound.consistent connection).expected correlationId expected found
      have asked : request ∈ exchange.requests := List.mem_of_getElem? listed
      have pending := Finmap.mem_of_lookup_eq_some found
      have delivered : receipt.bytes ∈
            (exchange.hosts (senderConnection placement request)).intake.delivered := by
        rw [Intake.delivered, received.network]
        exact List.mem_append_right _ (List.mem_cons_self ..)
      rcases (sound.consistent _).delivered _ delivered _ _ routed with
        other | ⟨message, sent, here, correlated, written⟩
      · exact absurd other (sound.fresh request asked).2
      · refine ⟨request, message, listed, rfl, written, ?_, ?_⟩
        · intro crosses
          rcases sound.pending request asked pending message sent correlated
            with rfl | answers
          · exact absurd here crosses
          · exact answers
        · intro stays
          rcases sound.pending request asked pending message sent correlated
            with same | answers
          · exact same
          · exact absurd (sound.crosses_of_called pending answers.called) stays

omit sound in
theorem lookup_abandon {router : InboundRouter CircuitMessageType}
    {abandoned : String} {expected : ExpectedReply}
    (found : (router.abandon abandoned).expectedReplies.lookup correlationId = some expected) :
    ∃ earlier, router.expectedReplies.lookup correlationId = some earlier ∧
      earlier.caller = expected.caller := by
  unfold InboundRouter.abandon at found
  split at found
  · rename_i earlier present
    rw [lookup_insert_eq] at found
    split at found
    · rename_i same
      cases found
      rw [same]
      exact ⟨earlier, present, rfl⟩
    · exact ⟨expected, found, rfl⟩
  · exact ⟨expected, found, rfl⟩

/-- A correlation id that has not been used. -/
structure Unused (exchange : Exchange Connection) (correlationId : String) : Prop where
  nonempty : correlationId ≠ ""
  others : correlationId ∉ exchange.others
  requests : correlationId ∉ exchange.requests.map DirectMessage.correlationId

theorem Sound.ne_of_unused
    (unused : exchange.Unused correlationId) (sent : message ∈ exchange.sent) :
    message.correlationId ≠ correlationId := by
  intro same
  rcases sound.sent message sent with empty | other | requested
  · exact unused.nonempty (same ▸ empty)
  · exact unused.others (same ▸ other)
  · exact unused.requests (same ▸ requested)

theorem Sound.unrouted_of_unused {bytes : Bytes} (unused : exchange.Unused correlationId)
    (delivered : bytes ∈ (exchange.hosts connection).intake.delivered) :
    (Host.routable codecs bytes).map Prod.fst ≠ some correlationId := by
  intro routed
  obtain ⟨⟨id, payload⟩, found, rfl⟩ := Option.map_eq_some_iff.mp routed
  rcases (sound.consistent connection).delivered bytes delivered _ _ found with
    other | ⟨message, sent, _, same, _⟩
  · exact unused.others other
  · exact sound.ne_of_unused unused sent same

/-! ## One event -/

omit sound in
theorem Grows.of_sent {sent : List CircuitDirectMessage} (kept : exchange.replies <+: replies) :
    Grows exchange { exchange with sent := exchange.sent ++ sent, replies := replies } :=
  ⟨fun _ => List.prefix_rfl, List.prefix_append _ _, List.prefix_rfl, kept, List.prefix_rfl⟩

theorem Sound.sent_append (kept : exchange.replies <+: replies)
    (known : message.correlationId = "" ∨ message.correlationId ∈ exchange.others ∨
      message.correlationId ∈ exchange.requests.map DirectMessage.correlationId)
    (answering : ∀ request ∈ exchange.requests, request.correlationId ∈
      (exchange.hosts (senderConnection placement request)).router.expectedReplies →
      message.correlationId = request.correlationId → Answers placement
        { exchange with
          sent := exchange.sent ++ [message], replies := replies } request message) :
    Sound codecs placement
      { exchange with sent := exchange.sent ++ [message], replies := replies } where
  hosts := sound.hosts
  consistent := fun connection =>
    (sound.consistent connection).mono (.of_sent kept)
  fresh := sound.fresh
  sent := by
    intro other listed
    rcases List.mem_append.mp listed with before | now
    · exact sound.sent other before
    · rw [List.mem_singleton.mp now]
      exact known
  pending := by
    intro request asked pending other listed correlated
    rcases List.mem_append.mp listed with before | now
    · rcases sound.pending request asked pending other before correlated with
        same | answers
      · exact Or.inl same
      · exact Or.inr (answers.mono (.of_sent kept))
    · obtain rfl := List.mem_singleton.mp now
      exact Or.inr (answering request asked pending correlated)

theorem Sound.others_append {ids : List String} (foreign : ∀ correlationId ∈ ids,
      correlationId ∉ exchange.requests.map DirectMessage.correlationId) :
    Sound codecs placement { exchange with others := exchange.others ++ ids } := by
  have grows : Grows exchange { exchange with others := exchange.others ++ ids } :=
    ⟨fun _ => List.prefix_rfl, List.prefix_rfl, List.prefix_rfl,
      List.prefix_rfl, List.prefix_append _ _⟩
  refine ⟨sound.hosts, fun connection => (sound.consistent connection).mono grows, ?_, ?_, ?_⟩
  · intro request asked
    obtain ⟨nonempty, other⟩ := sound.fresh request asked
    refine ⟨nonempty, ?_⟩
    intro listed
    rcases List.mem_append.mp listed with before | now
    · exact other before
    · exact foreign _ now (List.mem_map_of_mem asked)
  · intro message sent
    rcases sound.sent message sent with empty | other | requested
    · exact Or.inl empty
    · exact Or.inr (Or.inl (List.mem_append_left _ other))
    · exact Or.inr (Or.inr requested)
  · intro request asked pending message sent correlated
    rcases sound.pending request asked pending message sent correlated with
      same | answers
    · exact Or.inl same
    · exact Or.inr (answers.mono grows)

theorem Sound.reply {payload : Bytes} (called : call ∈ (exchange.hosts connection).calls) :
    Sound codecs placement
      { exchange with
        sent := exchange.sent ++ [(Reply.mk call.service call.context payload).message]
        replies := exchange.replies ++ [⟨call.service, call.context, payload⟩] } := by
  obtain ⟨message, rfl, ⟨receipt, received, routed⟩, origin⟩ := sound.exists_message called
  apply sound.sent_append (List.prefix_append _ _)
  · rcases origin with other | ⟨sent, _⟩
    · exact Or.inr (Or.inl other)
    · exact sound.sent message sent
  · intro request asked pending correlated
    have same : message.correlationId = request.correlationId := correlated
    rcases origin with other | ⟨sent, here⟩
    · rw [same] at other
      exact absurd other (sound.fresh request asked).2
    · rcases sound.pending request asked pending message sent same with
        rfl | answers
      · subst here
        refine ⟨called, _, List.mem_append_right _ (List.mem_cons_self ..), ?_⟩
        exact ⟨rfl, rfl, rfl⟩
      · -- a reply to the caller is not handed to its service while it waits
        obtain ⟨_, reply, _, service, context, rfl⟩ := answers
        exfalso
        have returned : connection = senderConnection placement request := by
          rw [← here]
          simp only [recipientConnection, senderConnection, Reply.message, context]
        subst returned
        apply (sound.consistent _).unrouted _ pending receipt received
        rw [routed, same]

section Asking

variable {request : CircuitDirectMessage} (unused : exchange.Unused request.correlationId)

include unused

theorem Sound.expectReply (grows : Grows exchange after)
    (listed : after.requests[exchange.requests.length]? = some request) :
    Consistent codecs placement after (senderConnection placement request)
      { (exchange.hosts (senderConnection placement request)).intake with
        router := (exchange.hosts (senderConnection placement request)).intake.router.expectReply
              request.correlationId exchange.requests.length } := by
  have consistent := sound.consistent (senderConnection placement request)
  have mono := consistent.mono grows
  refine ⟨mono.delivered, ?_, ?_, mono.replies⟩
  · intro correlationId expected found
    rcases lookup_of_insert found with before | ⟨rfl, rfl⟩
    · exact mono.expected correlationId expected before
    · exact ⟨request, listed, rfl, rfl⟩
  · intro correlationId present receipt received
    rcases Finmap.mem_insert.mp present with rfl | before
    · apply sound.unrouted_of_unused unused
      exact List.mem_append_left _ (List.mem_map_of_mem received)
    · exact consistent.unrouted correlationId before receipt received

omit unused in
theorem Sound.sent_request : ∀ message ∈ exchange.sent ++ [request], message.correlationId = "" ∨
    message.correlationId ∈ exchange.others ∨
    message.correlationId ∈ (exchange.requests ++ [request]).map DirectMessage.correlationId := by
  intro message listed
  rw [List.map_append]
  rcases List.mem_append.mp listed with before | now
  · rcases sound.sent message before with empty | other | requested
    · exact Or.inl empty
    · exact Or.inr (Or.inl other)
    · exact Or.inr (Or.inr (List.mem_append_left _ requested))
  · rw [List.mem_singleton.mp now]
    exact Or.inr (Or.inr (List.mem_append_right _ (List.mem_cons_self ..)))

omit sound in
theorem Unused.ne {asked : CircuitDirectMessage} (listed : asked ∈ exchange.requests) :
    asked.correlationId ≠ request.correlationId := by
  intro same
  apply unused.requests
  rw [← same]
  exact List.mem_map_of_mem listed

end Asking

section Step

variable [DecidableEq Connection]

section OneHost

variable {connection : Connection} {event : Host.Event} {host : Host}

omit sound in
theorem calls_update (step : Host.Step codecs (exchange.hosts connection) event host) : ∀ other,
    (exchange.hosts other).calls <+:
      (Function.update exchange.hosts connection host other).calls := by
  rw [Function.forall_update_iff exchange.hosts
    (p := fun other host => (exchange.hosts other).calls <+: host.calls)]
  exact ⟨calls_grow step, fun _ _ => List.prefix_rfl⟩

theorem Sound.hosts_update (step : Host.Step codecs (exchange.hosts connection) event host) :
    ∀ other, (Function.update exchange.hosts connection host other).Sound codecs := by
  rw [Function.forall_update_iff exchange.hosts (p := fun _ host => host.Sound codecs)]
  exact ⟨(sound.hosts connection).step step, fun other _ => sound.hosts other⟩

theorem Sound.consistent_update (grows : Grows exchange after)
    (consistent : Consistent codecs placement after connection host.intake) :
    ∀ other, Consistent codecs placement after other
      (Function.update exchange.hosts connection host other).intake := by
  rw [Function.forall_update_iff exchange.hosts
    (p := fun other host =>
      Consistent codecs placement after other host.intake)]
  exact ⟨consistent, fun other _ => (sound.consistent other).mono grows⟩

omit sound in
theorem mem_expectedReplies_update {other : Connection} {correlationId : String}
    (pending : correlationId ∈
      (Function.update exchange.hosts connection host other).router.expectedReplies)
    (expected : correlationId ∈ host.router.expectedReplies → correlationId ∈
      (exchange.hosts connection).router.expectedReplies) :
    correlationId ∈ (exchange.hosts other).router.expectedReplies := by
  rw [Function.update_apply] at pending
  split at pending
  · rename_i same
    rw [same]
    exact expected pending
  · exact pending

theorem Sound.atHost (step : Host.Step codecs (exchange.hosts connection) event host)
    (consistent : Consistent codecs placement exchange connection host.intake)
    (expected : ∀ correlationId ∈ host.router.expectedReplies, correlationId ∈
      (exchange.hosts connection).router.expectedReplies) :
    Sound codecs placement
      { exchange with hosts := Function.update exchange.hosts connection host } := by
  have grows : Grows exchange
      { exchange with hosts := Function.update exchange.hosts connection host } :=
    ⟨calls_update step, List.prefix_rfl, List.prefix_rfl, List.prefix_rfl, List.prefix_rfl⟩
  refine
    ⟨sound.hosts_update step, sound.consistent_update grows (consistent.mono grows), sound.fresh,
      sound.sent, ?_⟩
  intro request asked pending message sent correlated
  have earlier := mem_expectedReplies_update pending (expected _)
  rcases sound.pending request asked earlier message sent correlated with
    same | answers
  · exact Or.inl same
  · exact Or.inr (answers.mono grows)

end OneHost

theorem Sound.deliver {connection : Connection} {bytes : Bytes}
    (known : ∀ correlationId payload, Host.routable codecs bytes = some (correlationId, payload) →
      correlationId ∈ exchange.others ∨ ∃ message ∈ exchange.sent,
        recipientConnection placement message = connection ∧ message.correlationId = correlationId ∧
          payload = (.circuitDirectMessage, codecs.circuitDirectMessage.write message))
    (done : exchange.atHost codecs connection (.deliver bytes) = some after) :
    Sound codecs placement after := by
  obtain ⟨host, step, rfl⟩ := Option.map_eq_some_iff.mp done
  have consistent := sound.consistent connection
  have changed := changed step
  generalize found : host.intake = intake at changed
  cases changed
  apply sound.atHost step
  · rw [found]
    refine ⟨?_, consistent.expected, consistent.unrouted, consistent.replies⟩
    intro other listed
    have either : other ∈ (exchange.hosts connection).intake.delivered ∨ other = bytes := by
      simpa [Intake.delivered, Intake.deliver, or_assoc] using listed
    rcases either with before | rfl
    · exact consistent.delivered other before
    · exact known
  · unfold router
    rw [found]
    exact fun _ present => present

theorem Sound.internal {connection : Connection} {event : Host.Event}
    (inside : internal event = true)
    (done : exchange.atHost codecs connection event = some after) :
    Sound codecs placement after := by
  obtain ⟨host, step, rfl⟩ := Option.map_eq_some_iff.mp done
  have consistent := sound.consistent connection
  have changed := changed step
  generalize found : host.intake = intake at changed
  cases changed with
  | deliver | expectReply => cases inside
  | abandon abandoned =>
    apply sound.atHost step
    · rw [found]
      exact consistent.congr rfl rfl (InboundRouter.abandon_eq _ _).1
        fun _ _ present => lookup_abandon present
    · unfold router
      rw [found]
      exact fun _ present => mem_expectedReplies_abandon.mp present
  | incoming received =>
    apply sound.atHost step
    · rw [found]
      exact sound.receive received
    · intro correlationId present
      unfold router at present ⊢
      rw [found] at present
      obtain ⟨expected, found⟩ := Finmap.mem_iff.mp present
      exact Finmap.mem_of_lookup_eq_some (received.lookup_of_lookup found).1
  | inbound _ kept =>
    apply sound.atHost step
    · rw [found]
      refine consistent.congr kept.network kept.receipts kept.replies ?_
      intro correlationId expected present
      rw [kept.expectedReplies] at present
      exact ⟨expected, present, rfl⟩
    · unfold router
      rw [found, kept.expectedReplies]
      exact fun _ present => present
  | service _ _ =>
    apply sound.atHost step
    · rw [found]
      exact consistent
    · unfold router
      rw [found]
      exact fun _ present => present

theorem Sound.sendAndAwait {request : CircuitDirectMessage}
    (unused : exchange.Unused request.correlationId)
    (done :
      { exchange with
          sent := exchange.sent ++ [request]
          requests := exchange.requests ++ [request] }.atHost codecs
        (senderConnection placement request)
        (.expectReply request.correlationId exchange.requests.length) = some after) :
    Sound codecs placement after := by
  obtain ⟨host, step, rfl⟩ := Option.map_eq_some_iff.mp done
  have grows : Grows exchange
        { exchange with
          sent := exchange.sent ++ [request]
          requests := exchange.requests ++ [request]
          hosts := Function.update exchange.hosts (senderConnection placement request) host } :=
    ⟨calls_update step, List.prefix_append _ _, List.prefix_append _ _,
      List.prefix_rfl, List.prefix_rfl⟩
  have changed := changed step
  generalize registered : host.intake = intake at changed
  cases changed with
  | expectReply _ _ =>
    have consistent := sound.expectReply unused grows List.getElem?_concat_length
    rw [← registered] at consistent
    refine
      ⟨sound.hosts_update step, sound.consistent_update grows consistent,
        ?_, sound.sent_request, ?_⟩
    · intro asked listed
      rcases List.mem_append.mp listed with before | now
      · exact sound.fresh asked before
      · rw [List.mem_singleton.mp now]
        exact ⟨unused.nonempty, unused.others⟩
    · intro asked listed pending message sent correlated
      rcases List.mem_append.mp listed with before | now
      · have different := unused.ne before
        have earlier : asked.correlationId ∈
              (exchange.hosts (senderConnection placement asked)).router.expectedReplies := by
          refine mem_expectedReplies_update pending fun expected => ?_
          unfold router at expected
          rw [registered] at expected
          exact (Finmap.mem_insert.mp expected).resolve_left different
        rcases List.mem_append.mp sent with old | new
        · rcases sound.pending asked before earlier message old correlated
            with same | answers
          · exact Or.inl same
          · exact Or.inr (answers.mono grows)
        · rw [List.mem_singleton.mp new] at correlated
          exact absurd correlated.symm different
      · obtain rfl := List.mem_singleton.mp now
        rcases List.mem_append.mp sent with old | new
        · exact absurd correlated (sound.ne_of_unused unused old)
        · exact Or.inl (List.mem_singleton.mp new)

omit sound

theorem Sound.step {event : Event Connection} (sound : Sound codecs placement before)
    (step : Step codecs placement before event after) :
    Sound codecs placement after := by
  unfold Step advance at step
  cases event with
  | sendAndAwait request =>
    dsimp only at step
    split at step
    · rename_i guard
      exact sound.sendAndAwait ⟨guard.1, guard.2.1, guard.2.2⟩ step
    · cases step
  | send circuit sender recipient payload =>
    cases step
    refine sound.sent_append List.prefix_rfl (Or.inl rfl) ?_
    intro request asked _ correlated
    exact absurd correlated.symm (sound.fresh request asked).1
  | reply connection call payload =>
    dsimp only at step
    split at step
    · rename_i called
      cases step
      exact sound.reply called
    · cases step
  | deliver message =>
    dsimp only at step
    split at step
    · rename_i sent
      refine sound.deliver ?_ step
      intro correlationId payload routed
      rw [routable, ServiceProcessor.incoming_createDirectMessage] at routed
      cases routed
      exact Or.inr ⟨message, sent, rfl, rfl, rfl⟩
    · cases step
  | other connection bytes =>
    dsimp only at step
    split at step
    · rename_i guard
      refine (sound.others_append guard).deliver ?_ step
      intro correlationId payload routed
      refine Or.inl (List.mem_append_right _ ?_)
      rw [routed]
      exact List.mem_cons_self ..
    · cases step
  | atHost connection event =>
    dsimp only at step
    split at step
    · rename_i inside
      exact sound.internal inside step
    · cases step

/-- A reply comes from the recipient exactly if the recipient is on another
connection; otherwise the caller gets its own request back. -/
theorem genuine_iff_crosses {first last : Exchange Connection}
    {path : List (Exchange Connection × Event Connection)} {request message : CircuitDirectMessage}
    (started : first.IsNew) (run : Run (Step codecs placement) first path last)
    (returned : Returned codecs placement last request message) :
    (Genuine placement last request message ↔ Crosses placement request) ∧
      (¬ Crosses placement request → message = request) := by
  have sound : Sound codecs placement last := run.invariant started.sound fun _ _ _ => Sound.step
  obtain ⟨caller, messageType, bytes, listed, replied, parsed⟩ := returned
  obtain ⟨asked, original, found, _, same, crossing, staying⟩ :=
    (sound.consistent _).replies caller _ replied
  rw [listed] at found
  cases found
  cases same
  rw [codecs.circuitDirectMessage.parse_write] at parsed
  cases parsed
  refine ⟨⟨?_, ?_⟩, staying⟩
  · intro genuine
    by_contra stays
    exact genuine.2 (staying stays)
  · intro crosses
    have answers := crossing crosses
    refine ⟨answers, ?_⟩
    intro same
    obtain ⟨_, reply, _, _, context, sent⟩ := answers
    apply crosses
    have recipient : request.recipient = request.sender :=
      calc
        request.recipient = reply.message.recipient := by rw [← sent, same]
        _ = reply.origin.sender := rfl
        _ = request.sender := by rw [context]
    unfold recipientConnection senderConnection
    rw [recipient]

end Step

end Events

/-! ## A request and its reply -/

def start (hosts : Connection → Host) : Exchange Connection where
  hosts := hosts
  sent := []
  requests := []
  replies := []
  others := []

theorem isNew_start {hosts : Connection → Host}
    (new : ∀ connection, (hosts connection).IsNew) : (start hosts).IsNew :=
  ⟨new, rfl, rfl, rfl, rfl⟩

/-- A request of the service `a` to the service `b`. -/
def question : CircuitDirectMessage := ⟨"x", "a", "b", [1], "1"⟩

/-- The reply of `b`. -/
def answer : CircuitDirectMessage := ⟨"x", "b", "a", [2], "1"⟩

theorem returned_of_replies {exchange : Exchange Connection}
    {placement : String → String → Connection} (requests : exchange.requests = [request])
    (replies : (exchange.hosts (senderConnection placement request)).router.replies =
      [(0, (.circuitDirectMessage, Codecs.protobuf.circuitDirectMessage.write message))]) :
    Returned .protobuf placement exchange request message := by
  refine ⟨0, .circuitDirectMessage, _, ?_, ?_, Codec.parse_write _ message⟩
  · rw [requests]
    rfl
  · rw [replies]
    exact List.mem_cons_self ..

/-- On a host of both services `send_and_await` returns the request: no service
has been called and nobody has replied. -/
def Echoes (host : Host) : Prop := ∃ path last,
    Run (Step .protobuf fun _ _ => ()) (start fun _ => host) path last ∧ path.map Prod.snd =
      [.sendAndAwait question, .deliver question, .atHost () .incoming] ∧
      Returned .protobuf (fun _ _ => ()) last question question ∧
      (last.hosts ()).calls = [] ∧ last.replies = []

theorem echoes_of_leads {host : Host} (leads : Run.leads (advance .protobuf fun _ _ => ())
    [.sendAndAwait question, .deliver question, .atHost () .incoming]
    (start fun _ => host)
    (fun last =>
      decide (last.requests = [question]) && decide
        ((last.hosts ()).router.replies =
          [(0, (.circuitDirectMessage, Codecs.protobuf.circuitDirectMessage.write question))]) &&
        decide ((last.hosts ()).calls = []) &&
        decide (last.replies = [])) = true) :
    Echoes host := by
  obtain ⟨path, last, run, labels, checked⟩ := Run.exists_run_of_leads _ _ _ _ leads
  simp only [Bool.and_eq_true, decide_eq_true_eq] at checked
  obtain ⟨⟨⟨requests, replies⟩, uncalled⟩, unanswered⟩ := checked
  exact ⟨path, last, run, labels, returned_of_replies requests replies, uncalled, unanswered⟩

theorem requests_echoed : Echoes
        (.orchestrator [⟨"x", "a", "scabbard"⟩, ⟨"x", "b", "scabbard"⟩] .new) ∧
      Echoes (.processor {"a", "b"} .new) :=
  ⟨echoes_of_leads (by decide +kernel), echoes_of_leads (by decide +kernel)⟩

def apart (_ service : String) : Bool :=
  service == "b"

def hostsApart : Bool → Host
  | false => .processor {"a"} .new
  | true => .orchestrator [⟨"x", "b", "scabbard"⟩] .new

theorem request_answered : ∃ path last, Run (Step .protobuf apart) (start hostsApart) path last ∧
        path.map Prod.snd =
          [.sendAndAwait question, .deliver question, .atHost true .incoming,
            .atHost true (.inbound (.ok ())),
            .reply true (Call.ofMessage "b" question) [2], .deliver answer,
            .atHost false .incoming] ∧
        Returned .protobuf apart last question answer ∧
        Genuine apart last question answer := by
  refine Run.exists_of_leads
    (fun last =>
      decide (last.requests = [question]) && decide
          ((last.hosts false).router.replies =
            [(0, (.circuitDirectMessage, Codecs.protobuf.circuitDirectMessage.write answer))]))
    (by decide +kernel) ?_
  intro path last run labels checked
  simp only [Bool.and_eq_true, decide_eq_true_eq] at checked
  have started : (start hostsApart).IsNew := by
    apply isNew_start
    intro connection
    cases connection with
    | false => exact Host.IsNew.processor _
    | true => exact Host.IsNew.orchestrator _
  have returned : Returned .protobuf apart last question answer :=
    returned_of_replies checked.1 checked.2
  have crosses : Crosses apart question := by
    unfold Crosses
    decide
  exact ⟨returned, (genuine_iff_crosses started run returned).1.mpr crosses⟩

end Exchange

end Splinter.Service
