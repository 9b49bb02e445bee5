import Splinter.Circuits.Handlers
import Splinter.Library.Run

/-!
# The way of a direct message

A direct message is sent on to the connection or to the node of its recipient; if
a node refuses it, the error goes back the same way.  The nodes need not agree on
circuits and rosters, only on where services are connected.
-/

namespace Splinter.Circuits

open Library Circuits.Protos
open Splinter.Service (createMessage)

/-- Where a message is: it has come to a node from a peer, or it has been sent
to a connection of a node that leads to no other node. -/
inductive Position where
  | atNode (nodeId sourcePeerId : String) (messageBytes : Bytes)
  | atPeer (nodeId peerId : String) (messageBytes : Bytes)
  deriving DecidableEq

variable (codecs : Codecs)

def circuitPayload (messageBytes : Bytes) : Option (CircuitMessageType × Bytes) :=
  match codecs.networkMessage.parse messageBytes with
  | .ok ⟨.circuit, circuitBytes⟩ =>
    match codecs.circuitMessage.parse circuitBytes with
    | .ok circuitMsg => some (circuitMsg.messageType, circuitMsg.payload)
    | .error _ => none
  | _ => none

/-- What a node sends for a message: direct messages and circuit errors are
passed to their handlers. -/
def dispatch (nodeId : String) (state : SplinterState)
    (sourcePeerId : String) (messageBytes : Bytes) : Option SendRequest :=
  match circuitPayload codecs messageBytes with
  | some (.circuitDirectMessage, payload) =>
    match codecs.circuitDirectMessage.parse payload with
    | .ok msg => handleCircuitDirectMessage codecs nodeId state msg ⟨sourcePeerId, payload⟩
    | .error _ => none
  | some (.circuitErrorMessage, payload) =>
    match codecs.circuitError.parse payload with
    | .ok msg => handleCircuitError codecs nodeId state msg ⟨sourcePeerId, payload⟩
    | .error _ => none
  | _ => none

variable (nodes : Finset String) (states : String → SplinterState)

/-- Where a node sends a message; the peer id of a node is its node id. -/
def Position.sent (nodeId : String) (request : SendRequest) : Position :=
  if request.recipient ∈ nodes then
    .atNode request.recipient nodeId request.payload
  else
    .atPeer nodeId request.recipient request.payload

def Position.next : Position → Option Position
  | .atNode nodeId sourcePeerId messageBytes =>
    (dispatch codecs nodeId (states nodeId) sourcePeerId messageBytes).map (sent nodes nodeId)
  | .atPeer _ _ _ => none

def Moves (before : Position) (_ : Unit) (after : Position) : Prop :=
  before.next codecs nodes states = some after

/-- The positions at nodes to which a message of this type was forwarded, after
the one where it started. -/
def forwards (messageType : CircuitMessageType) (path : List (Position × Unit)) : Nat :=
  path.tail.countP fun visited =>
    match visited.1 with
    | .atNode _ _ messageBytes =>
      (circuitPayload codecs messageBytes).map Prod.fst = some messageType
    | .atPeer _ _ _ => false

/-- A service that is entered under another node is entered there under this
node or not at all, and a service of this node has a connection that leads to
no other node. -/
structure ConsistentDirectories : Prop where
  remote : ∀ nodeId ∈ nodes, ∀ id service, (states nodeId).service id = some service →
    service.node.id ≠ nodeId → service.node.id ∈ nodes ∧ ∀ there,
      (states service.node.id).service id = some there →
        there.node.id = service.node.id ∧ there.peerId.isSome
  connected : ∀ nodeId ∈ nodes, ∀ id service, (states nodeId).service id = some service →
    service.node.id = nodeId → ∃ peerId, service.peerId = some peerId ∧ peerId ∉ nodes

/-- The message that carries an error. -/
abbrev wrappedError (error : CircuitError) : Bytes :=
  createMessage codecs (codecs.circuitError.write error) .circuitErrorMessage

/-- The unchanged message is sent to the connection of the recipient, or an
error with its correlation id to the connection of the sender. -/
inductive Settled (nodeId peerId : String) (msg : CircuitDirectMessage)
    (payload : Bytes) : Position → Prop
  | delivered {recipientNode recipientPeer : String} {service : Service} :
    (states recipientNode).service (recipientId msg) = some service →
    service.node.id = recipientNode →
    service.peerId = some recipientPeer →
    Settled nodeId peerId msg payload
      (.atPeer recipientNode recipientPeer (createMessage codecs payload .circuitDirectMessage))
  | answered {error : CircuitError} : error.correlationId = msg.correlationId →
    Settled nodeId peerId msg payload
      (.atPeer nodeId peerId (wrappedError codecs error))

/-! ## At one node -/

variable {codecs nodes states}

theorem circuitPayload_createMessage (payload : Bytes) (messageType : CircuitMessageType) :
    circuitPayload codecs (createMessage codecs payload messageType) =
      some (messageType, payload) := by
  unfold circuitPayload createMessage
  rw [codecs.networkMessage.parse_write]
  dsimp only
  rw [codecs.circuitMessage.parse_write]

variable {nodeId sourcePeerId peerId : String} {bytes payload : Bytes} {msg : CircuitDirectMessage}
  {service : Service} {state : SplinterState} {id : ServiceId} {sender : Service}

theorem dispatch_circuitError (error : CircuitError) :
    dispatch codecs nodeId state sourcePeerId (wrappedError codecs error) =
    handleCircuitError codecs nodeId state error
      ⟨sourcePeerId, codecs.circuitError.write error⟩ := by
  unfold dispatch
  rw [circuitPayload_createMessage]
  dsimp only
  rw [codecs.circuitError.parse_write]

theorem moves_of_dispatch {request : SendRequest}
    (sent : dispatch codecs nodeId (states nodeId) sourcePeerId bytes = some request) :
    Moves codecs nodes states (.atNode nodeId sourcePeerId bytes) ()
      (Position.sent nodes nodeId request) := by
  unfold Moves Position.next
  dsimp only
  rw [sent]
  rfl

theorem Position.sent_of_mem (inside : peerId ∈ nodes) :
    Position.sent nodes nodeId ⟨peerId, bytes⟩ = .atNode peerId nodeId bytes :=
  if_pos inside

theorem Position.sent_of_notMem (outside : peerId ∉ nodes) :
    Position.sent nodes nodeId ⟨peerId, bytes⟩ = .atPeer nodeId peerId bytes :=
  if_neg outside

theorem ConsistentDirectories.exists_address (consistent : ConsistentDirectories nodes states)
    (member : nodeId ∈ nodes) (found : (states nodeId).service id = some service) :
    ∃ peerId, service.address nodeId = some peerId := by
  unfold Service.address
  split
  · exact ⟨_, rfl⟩
  · rename_i here
    obtain ⟨peerId, known, _⟩ :=
      consistent.connected nodeId member id service found (not_not.mp here)
    exact ⟨peerId, known⟩

theorem ConsistentDirectories.moves (consistent : ConsistentDirectories nodes states)
    (member : nodeId ∈ nodes)
    (carried : circuitPayload codecs bytes = some (.circuitDirectMessage, payload))
    (parsed : codecs.circuitDirectMessage.parse payload = .ok msg) :
    (∃ service peerId, (states nodeId).service (recipientId msg) = some service ∧
      service.address nodeId = some peerId ∧
      Moves codecs nodes states (.atNode nodeId sourcePeerId bytes) ()
        (Position.sent nodes nodeId ⟨peerId, createMessage codecs payload .circuitDirectMessage⟩)) ∨
      ∃ error : CircuitError, error.correlationId = msg.correlationId ∧
        error.circuitName = msg.circuit ∧ error.serviceId = msg.sender ∧
        Moves codecs nodes states (.atNode nodeId sourcePeerId bytes) ()
          (Position.sent nodes nodeId ⟨sourcePeerId, wrappedError codecs error⟩) := by
  have sent : dispatch codecs nodeId (states nodeId) sourcePeerId bytes =
      handleCircuitDirectMessage codecs nodeId (states nodeId) msg ⟨sourcePeerId, payload⟩ := by
    unfold dispatch
    rw [carried]
    dsimp only
    rw [parsed]
  have outcome := handled codecs nodeId (states nodeId) msg ⟨sourcePeerId, payload⟩
  generalize handleCircuitDirectMessage codecs nodeId (states nodeId) msg
    ⟨sourcePeerId, payload⟩ = result at outcome sent
  cases outcome with
  | @forwarded service peerId _ found address =>
    exact Or.inl ⟨service, peerId, found, address, moves_of_dispatch sent⟩
  | dropped _ found unaddressed =>
    obtain ⟨peerId, address⟩ := consistent.exists_address member found
    rw [unaddressed] at address
    cases address
  | answered error errorMessage _ => exact Or.inr ⟨_, rfl, rfl, rfl, moves_of_dispatch sent⟩

structure Registered (nodeId peerId : String) (id : ServiceId)
    (state : SplinterState) (service : Service) : Prop where
  entry : state.service id = some service
  node : service.node.id = nodeId
  peer : service.peerId = some peerId

theorem Registered.moves_error {error : CircuitError}
    (registered : Registered nodeId peerId (senderId msg) (states nodeId) sender)
    (outside : peerId ∉ nodes) (circuit : error.circuitName = msg.circuit)
    (service : error.serviceId = msg.sender) :
    Moves codecs nodes states (.atNode nodeId sourcePeerId (wrappedError codecs error)) ()
      (.atPeer nodeId peerId (wrappedError codecs error)) := by
  have entry : (states nodeId).service ⟨error.circuitName, error.serviceId⟩ = some sender := by
    rw [circuit, service]
    exact registered.entry
  have address : sender.address nodeId = some peerId := by
    unfold Service.address
    rw [if_neg (not_not.mpr registered.node)]
    exact registered.peer
  have sent : dispatch codecs nodeId (states nodeId) sourcePeerId (wrappedError codecs error) =
      some ⟨peerId, wrappedError codecs error⟩ := by
    rw [dispatch_circuitError]
    unfold handleCircuitError
    rw [entry]
    dsimp only
    rw [address]
  rw [← Position.sent_of_notMem outside]
  exact moves_of_dispatch sent

/-- A message for a service that is entered under the node itself is sent to the
connection of this service. -/
theorem ConsistentDirectories.sent_here (consistent : ConsistentDirectories nodes states)
    (member : nodeId ∈ nodes) (found : (states nodeId).service (recipientId msg) = some service)
    (here : service.node.id = nodeId) (address : service.address nodeId = some peerId) :
    service.peerId = some peerId ∧ Position.sent nodes nodeId ⟨peerId, bytes⟩ =
      .atPeer nodeId peerId bytes := by
  obtain ⟨known, own, outside⟩ := consistent.connected nodeId member _ service found here
  unfold Service.address at address
  rw [if_neg (not_not.mpr here), own] at address
  cases address
  exact ⟨own, Position.sent_of_notMem outside⟩

theorem Settled.isPrefix {first last reached : Position} {path begun : List (Position × Unit)}
    (settled : Settled codecs states nodeId peerId msg payload last)
    (run : Run (Moves codecs nodes states) first path last)
    (other : Run (Moves codecs nodes states) first begun reached) :
    begun <+: path := by
  refine Run.isPrefix_of_rest ?_ run ?_ other
  · intro before label after otherLabel other moves otherwise
    exact ⟨rfl, Option.some.inj (moves.symm.trans otherwise)⟩
  · intro label after moves
    cases settled <;> cases moves

section Elsewhere

variable {nodeId peerId : String} {payload : Bytes} {msg : CircuitDirectMessage} {sender : Service}

/-- A message that has been forwarded to the node of the recipient is settled
without being forwarded again; an error is forwarded once. -/
theorem ConsistentDirectories.settled_elsewhere (consistent : ConsistentDirectories nodes states)
    (member : nodeId ∈ nodes)
    (registered : Registered nodeId peerId (senderId msg) (states nodeId) sender)
    (outside : peerId ∉ nodes) (parsed : codecs.circuitDirectMessage.parse payload = .ok msg)
    {other : String} (remote : other ∈ nodes)
    (there : ∀ service, (states other).service (recipientId msg) = some service →
      service.node.id = other) :
    ∃ path last, Run (Moves codecs nodes states)
      (.atNode other nodeId (createMessage codecs payload .circuitDirectMessage))
      path last ∧
      Settled codecs states nodeId peerId msg payload last ∧
      ∀ start, forwards codecs .circuitDirectMessage (start :: path) ≤ 1 ∧
        forwards codecs .circuitErrorMessage (start :: path) ≤ 1 := by
  rcases consistent.moves remote (circuitPayload_createMessage payload .circuitDirectMessage)
    parsed with
    ⟨entry, peer, entered, address, arrives⟩ | ⟨error, correlated, circuit, named, returns⟩
  · -- the other node sends the message to the recipient
    have home := there entry entered
    obtain ⟨known, arrived⟩ := consistent.sent_here remote entered home address
    rw [arrived] at arrives
    refine
      ⟨_, _, Run.cons arrives Run.start,
        Settled.delivered entered home known, fun start => ⟨?_, ?_⟩⟩
    · simp [forwards, circuitPayload_createMessage]
    · simp [forwards, circuitPayload_createMessage]
  · -- the other node sends an error back
    rw [Position.sent_of_mem member] at returns
    refine
      ⟨_, _, Run.cons returns (Run.cons (registered.moves_error outside circuit named) Run.start),
        Settled.answered correlated, fun start => ⟨?_, ?_⟩⟩
    · simp [forwards, circuitPayload_createMessage]
    · simp [forwards, circuitPayload_createMessage]

end Elsewhere

/-- Every direct message that a service sends to its node over its own connection
is settled: after at most one forward of the message and one of an error
between nodes it is sent to the recipient, or an error to the sender, and
nothing else is sent. -/
theorem direct_message_settled (consistent : ConsistentDirectories nodes states)
    (member : nodeId ∈ nodes)
    (registered : Registered nodeId peerId (senderId msg) (states nodeId) sender)
    (carried : circuitPayload codecs bytes = some (.circuitDirectMessage, payload))
    (parsed : codecs.circuitDirectMessage.parse payload = .ok msg) :
    ∃ path last, Run (Moves codecs nodes states) (.atNode nodeId peerId bytes) path last ∧
        Settled codecs states nodeId peerId msg payload last ∧
        forwards codecs .circuitDirectMessage path ≤ 1 ∧
        forwards codecs .circuitErrorMessage path ≤ 1 ∧
        ∀ begun reached, Run (Moves codecs nodes states) (.atNode nodeId peerId bytes) begun
              reached →
            begun <+: path := by
  obtain ⟨known, own, outside⟩ := consistent.connected nodeId member _ sender registered.entry
      registered.node
  obtain rfl := Option.some.inj (own.symm.trans registered.peer)
  suffices settles : ∃ path last, Run (Moves codecs nodes states) (.atNode nodeId known bytes) path
            last ∧
          Settled codecs states nodeId known msg payload last ∧
          forwards codecs .circuitDirectMessage path ≤ 1 ∧
          forwards codecs .circuitErrorMessage path ≤ 1 by
    obtain ⟨path, last, run, settled, messages, errors⟩ := settles
    exact ⟨path, last, run, settled, messages, errors, fun _ _ other => settled.isPrefix run other⟩
  rcases consistent.moves member carried parsed with
    ⟨service, target, found, address, moves⟩ | ⟨error, correlated, _, _, moves⟩
  · by_cases here : service.node.id = nodeId
    · -- the recipient is connected to the same node
      obtain ⟨peer, sent⟩ := consistent.sent_here member found here address
      rw [sent] at moves
      refine ⟨_, _, Run.cons moves Run.start, Settled.delivered found here peer, ?_, ?_⟩
      · simp [forwards]
      · simp [forwards]
    · obtain ⟨remote, there⟩ := consistent.remote nodeId member _ service found here
      have target_eq : target = service.node.id := by
        unfold Service.address at address
        rw [if_pos here] at address
        exact (Option.some.inj address).symm
      subst target_eq
      rw [Position.sent_of_mem remote] at moves
      obtain ⟨path, last, run, settled, counted⟩ :=
        consistent.settled_elsewhere member registered outside parsed remote
          fun entry entered => (there entry entered).1
      exact ⟨_, last, Run.cons moves run, settled, (counted _).1, (counted _).2⟩
  · rw [Position.sent_of_notMem outside] at moves
    refine ⟨_, _, Run.cons moves Run.start, Settled.answered correlated, ?_, ?_⟩
    · simp [forwards]
    · simp [forwards]

/-! ## Two nodes -/

/-- The entry of a service of the node `home` in the directory of a node. -/
def entryAt (nodeId home serviceId peerId : String) : Service where
  serviceId := serviceId
  peerId := if nodeId = home then some peerId else none
  node := ⟨home, []⟩

/-- The service `a` is connected to the node `n` and the service `b` to the node
`m`. -/
def twoNodes (nodeId : String) : SplinterState where
  circuitDirectory :=
    CircuitDirectory.new.addCircuit "x"
      { id := "x"
        auth := .trust
        members := ["n", "m"]
        roster := .standard [⟨"a", "scabbard", ["n"], ∅⟩, ⟨"b", "scabbard", ["m"], ∅⟩]
        persistence := .any
        durability := .noDurability
        routes := .any
        circuitManagementType := "default" }
  serviceDirectory :=
    ((∅ : Finmap fun _ : ServiceId => Service).insert ⟨"x", "a"⟩
      (entryAt nodeId "n" "a" "peer-a")).insert ⟨"x", "b"⟩ (entryAt nodeId "m" "b" "peer-b")

theorem service_twoNodes (found : (twoNodes nodeId).service id = some service) :
    id = ⟨"x", "a"⟩ ∧ service = entryAt nodeId "n" "a" "peer-a" ∨
      id = ⟨"x", "b"⟩ ∧ service = entryAt nodeId "m" "b" "peer-b" := by
  rcases lookup_of_insert found with earlier | entered
  · rcases lookup_of_insert earlier with absent | entered
    · simp at absent
    · exact Or.inl entered
  · exact Or.inr entered

theorem consistent_twoNodes : ConsistentDirectories {"n", "m"} twoNodes where
  remote := by
    intro nodeId member id service found different
    rcases service_twoNodes found with ⟨rfl, rfl⟩ | ⟨rfl, rfl⟩
    · refine ⟨by simp [entryAt], ?_⟩
      intro there entered
      rcases service_twoNodes entered with ⟨_, rfl⟩ | ⟨other, _⟩
      · exact ⟨rfl, rfl⟩
      · exact absurd other (by decide)
    · refine ⟨by simp [entryAt], ?_⟩
      intro there entered
      rcases service_twoNodes entered with ⟨other, _⟩ | ⟨_, rfl⟩
      · exact absurd other (by decide)
      · exact ⟨rfl, rfl⟩
  connected := by
    intro nodeId member id service found here
    rcases service_twoNodes found with ⟨_, rfl⟩ | ⟨_, rfl⟩
    · exact ⟨"peer-a", if_pos here.symm, by decide⟩
    · exact ⟨"peer-b", if_pos here.symm, by decide⟩

def greeting : CircuitDirectMessage := ⟨"x", "a", "b", [1], "1"⟩

theorem greeting_settled : ConsistentDirectories {"n", "m"} twoNodes ∧ ∃ path last,
        Run (Moves .protobuf {"n", "m"} twoNodes)
            (.atNode "n" "peer-a"
              (createMessage .protobuf (Codecs.protobuf.circuitDirectMessage.write greeting)
                .circuitDirectMessage))
            path last ∧
          Settled .protobuf twoNodes "n" "peer-a" greeting
            (Codecs.protobuf.circuitDirectMessage.write greeting) last := by
  refine ⟨consistent_twoNodes, ?_⟩
  have registered : Registered "n" "peer-a" (senderId greeting) (twoNodes "n")
        (entryAt "n" "n" "a" "peer-a") :=
    ⟨by decide +kernel, rfl, rfl⟩
  obtain ⟨path, last, run, settled, _⟩ :=
    direct_message_settled consistent_twoNodes (by decide) registered
      (circuitPayload_createMessage _ _)
      (Codecs.protobuf.circuitDirectMessage.parse_write greeting)
  exact ⟨path, last, run, settled⟩

end Splinter.Circuits
