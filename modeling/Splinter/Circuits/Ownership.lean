import Splinter.Circuits.Handlers
import Splinter.Library.Run

/-!
# Who may use a service identity

A service belongs to the peer that has connected it, and a service on another node
to this node.  The handlers check what a message says about its sender, but not
which peer it came from.
-/

namespace Splinter.Circuits

open Library Circuits.Protos
open Splinter.Service (createMessage)

inductive CircuitRequest where
  | directMessage (msg : CircuitDirectMessage)
  | serviceConnect (msg : ServiceConnectRequest)
  | serviceDisconnect (msg : ServiceDisconnectRequest)
  deriving DecidableEq

abbrev Received := MessageContext × CircuitRequest

variable (codecs : Codecs) (nodeId endpoint : String)

/-- What a handler sends, and the state afterwards. -/
def handle (received : Received) (state : SplinterState) : Option SendRequest × SplinterState :=
  match received with
  | (context, .directMessage msg) =>
    (handleCircuitDirectMessage codecs nodeId state msg context, state)
  | (context, .serviceConnect msg) =>
    let (response, after) := handleServiceConnectRequest codecs nodeId endpoint state context msg
    (some response, after)
  | (context, .serviceDisconnect msg) =>
    let (response, after) := handleServiceDisconnectRequest codecs state context msg
    (some response, after)

def receive (received : Received) (state : SplinterState) : SplinterState :=
  (handle codecs nodeId endpoint received state).2

def Owns (state : SplinterState) (id : ServiceId) (peerId : String) : Prop := ∃ service,
    state.service id = some service ∧ service.address nodeId = some peerId

/-- A direct message is only forwarded for the owner of its sender, and an entry
is only removed for the peer that is registered in it. -/
structure ProtectsOwners (state : SplinterState) (received : Received) :
    Prop where
  forwarded : ∀ msg peerId, received.2 = .directMessage msg →
    (handle codecs nodeId endpoint received state).1 = some
      ⟨peerId, createMessage codecs received.1.messageBytes .circuitDirectMessage⟩ →
      Owns nodeId state (senderId msg) received.1.sourcePeerId
  removed : ∀ id service, state.service id = some service →
    (receive codecs nodeId endpoint received state).service id = none →
      service.peerId = some received.1.sourcePeerId

/-- A direct message that passes the checks comes from the owner of its sender,
and a request to disconnect a service from the peer that is registered for
it. -/
def Rightful (state : SplinterState) : Received → Prop
  | (context, .directMessage msg) =>
    Accepted state msg → ∀ service, state.service (recipientId msg) = some service →
      (service.address nodeId).isSome → Owns nodeId state (senderId msg) context.sourcePeerId
  | (_, .serviceConnect _) => True
  | (context, .serviceDisconnect msg) =>
    Listed state msg.circuit msg.serviceId →
      ∀ service, state.service ⟨msg.circuit, msg.serviceId⟩ = some service →
        service.peerId = some context.sourcePeerId

variable {codecs nodeId endpoint} {state : SplinterState}

theorem messageType_of_createMessage
    {first second : Bytes} {firstType secondType : CircuitMessageType}
    (same : createMessage codecs first firstType = createMessage codecs second secondType) :
    firstType = secondType := by
  have network := codecs.networkMessage.write_injective same
  have circuit := codecs.circuitMessage.write_injective (congrArg NetworkMessage.payload network)
  exact congrArg CircuitMessage.messageType circuit

variable {context : MessageContext} {id : ServiceId} {service : Service}

theorem forwarded_iff {msg : CircuitDirectMessage} {peerId : String} :
    handleCircuitDirectMessage codecs nodeId state msg context = some
      ⟨peerId, createMessage codecs context.messageBytes .circuitDirectMessage⟩ ↔
      Accepted state msg ∧ ∃ service, state.service (recipientId msg) = some service ∧
        service.address nodeId = some peerId := by
  have outcome := handled codecs nodeId state msg context
  generalize handleCircuitDirectMessage codecs nodeId state msg context = result at outcome
  cases outcome with
  | @forwarded service known accepted found addressed =>
    simp [found, exists_eq_left', addressed, accepted]
  | @dropped service accepted found addressed => simp [found, addressed]
  | answered error errorMessage refused =>
    constructor
    · intro same
      have payload := congrArg SendRequest.payload (Option.some.inj same)
      exact nomatch messageType_of_createMessage payload
    · intro accepted
      exact absurd accepted.1 refused

theorem service_addService (id other : ServiceId) (service : Service) :
    (state.addService id service).service other =
      if other = id then some service else state.service other :=
  lookup_insert_eq state.serviceDirectory id other service

theorem service_removeService (id other : ServiceId) : (state.removeService id).service other =
    if other = id then none else state.service other :=
  lookup_erase_eq state.serviceDirectory id other

theorem service_of_connect {msg : ServiceConnectRequest} (found : state.service id = some service) :
    (serviceConnectResponse nodeId endpoint state context msg).2.service id = some service := by
  unfold serviceConnectResponse
  dsimp only
  split
  · split
    · rename_i new
      split
      · split
        · exact found
        · rw [service_addService]
          split
          · rename_i same
            subst same
            simp [found] at new
          · exact found
      · exact found
    · split <;> exact found
  · exact found

theorem service_of_disconnect {msg : ServiceDisconnectRequest}
    (found : state.service id = some service) :
    (serviceDisconnectResponse state msg).2.service id = none ↔ id = ⟨msg.circuit, msg.serviceId⟩ ∧
      Listed state msg.circuit msg.serviceId := by
  have kept : ¬ state.service id = none := by simp [found]
  unfold serviceDisconnectResponse
  dsimp only
  split
  · rename_i circuit known
    split
    · rename_i registered
      rw [Bool.and_eq_true] at registered
      rw [service_removeService]
      constructor
      · intro removed
        split at removed
        · rename_i same
          exact ⟨same, circuit, known, registered.1⟩
        · exact absurd removed kept
      · intro rightful
        rw [if_pos rightful.1]
    · rename_i unregistered
      have unlisted :
          ¬ (id = ⟨msg.circuit, msg.serviceId⟩ ∧ Listed state msg.circuit msg.serviceId) := by
        intro rightful
        obtain ⟨rfl, other, same, contains⟩ := rightful
        cases (known.symm.trans same)
        simp [contains, found] at unregistered
      split <;> exact iff_of_false kept unlisted
  · rename_i unknown
    apply iff_of_false kept
    intro rightful
    obtain ⟨_, circuit, known, _⟩ := rightful
    rw [unknown] at known
    cases known

theorem protectsOwners_iff (received : Received) :
    ProtectsOwners codecs nodeId endpoint state received ↔ Rightful nodeId state received := by
  obtain ⟨context, request⟩ := received
  cases request with
  | directMessage msg =>
    constructor
    · intro protects accepted service found addressed
      obtain ⟨peerId, address⟩ := Option.isSome_iff_exists.mp addressed
      exact protects.forwarded msg peerId rfl
        (forwarded_iff.mpr ⟨accepted, service, found, address⟩)
    · intro rightful
      refine ⟨?_, ?_⟩
      · intro other peerId same forwarded
        cases same
        obtain ⟨accepted, service, found, address⟩ := forwarded_iff.mp forwarded
        apply rightful accepted service found
        rw [address]
        rfl
      · intro id service found removed
        exact nomatch found.symm.trans removed
  | serviceConnect msg =>
    refine iff_of_true ⟨nofun, ?_⟩ trivial
    intro id service found removed
    exact nomatch (service_of_connect found).symm.trans removed
  | serviceDisconnect msg =>
    constructor
    · intro protects listed service found
      exact protects.removed _ service found ((service_of_disconnect found).mpr ⟨rfl, listed⟩)
    · intro rightful
      refine ⟨nofun, ?_⟩
      intro id service found removed
      obtain ⟨rfl, listed⟩ := (service_of_disconnect found).mp removed
      exact rightful listed service found

/-- For all messages to a node, only the owner of a service can use its identity
exactly if every direct message that passes the checks comes from the owner of
its sender and every request to disconnect a service from the peer that is
registered for it. -/
theorem owners_protected_iff (codecs : Codecs) (nodeId endpoint : String)
    (state : SplinterState) (messages : List Received) :
    Run.Meets (ProtectsOwners codecs nodeId endpoint)
        (Run.follow (receive codecs nodeId endpoint) messages state).1 ↔
      Run.Meets (Rightful nodeId)
        (Run.follow (receive codecs nodeId endpoint) messages state).1 := by
  constructor
  · intro protects visited member
    exact (protectsOwners_iff visited.2).mp (protects visited member)
  · intro rightful visited member
    exact (protectsOwners_iff visited.2).mpr (rightful visited member)

/-- A circuit with two services, both connected to the node `n`. -/
def twoConnected : SplinterState where
  circuitDirectory :=
    CircuitDirectory.new.addCircuit "x"
      { id := "x"
        auth := .trust
        members := ["n"]
        roster := .standard [⟨"a", "scabbard", ["n"], ∅⟩, ⟨"b", "scabbard", ["n"], ∅⟩]
        persistence := .any
        durability := .noDurability
        routes := .any
        circuitManagementType := "default" }
  serviceDirectory :=
    ((∅ : Finmap fun _ : ServiceId => Service).insert ⟨"x", "a"⟩
      ⟨"a", some "peer-a", ⟨"n", []⟩⟩).insert ⟨"x", "b"⟩ ⟨"b", some "peer-b", ⟨"n", []⟩⟩

/-- A message in the name of `a`. -/
def forged : CircuitDirectMessage := ⟨"x", "a", "b", [1], ""⟩

/-- A peer that is neither a node nor a service of the circuit sends a message in
the name of `a` to `b` and disconnects `a`. -/
theorem stranger_uses_identity :
    handle .protobuf "n" "tcp://n"
        (⟨"stranger", Codecs.protobuf.circuitDirectMessage.write forged⟩, .directMessage forged)
        twoConnected =
      (some
        ⟨"peer-b", createMessage .protobuf (Codecs.protobuf.circuitDirectMessage.write forged)
            .circuitDirectMessage⟩,
        twoConnected) ∧
      twoConnected.service ⟨"x", "a"⟩ = some ⟨"a", some "peer-a", ⟨"n", []⟩⟩ ∧
      (receive .protobuf "n" "tcp://n" (⟨"stranger", []⟩, .serviceDisconnect ⟨"x", "a", ""⟩)
        twoConnected).service ⟨"x", "a"⟩ = none := by
  decide +kernel

end Splinter.Circuits
