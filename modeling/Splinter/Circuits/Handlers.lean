import Splinter.Circuits.State
import Splinter.Service.Intake

/-!
# The circuit handlers of a node

A handler knows the peer that a message came from and the bytes of the message; it
sends at most one message.  `handled` says what happens to a direct message.
-/

namespace Splinter.Circuits

open Library Circuits.Protos
open Splinter.Service (createMessage)

def Roster.contains (serviceName : String) : Roster → Bool
  | .standard roster => roster.any fun serviceDef => serviceDef.serviceId = serviceName
  | .admin => "admin::".toList.isPrefixOf serviceName.toList

def Roster.toList : Roster → List ServiceDefinition
  | .standard roster => roster
  | .admin => []

def ServiceId.display (id : ServiceId) : String := id.circuitName ++ "::" ++ id.serviceId

def CircuitDirectory.circuit (directory : CircuitDirectory)
    (circuitName : String) : Option Circuit :=
  if circuitName = directory.adminCircuit.id then
    some directory.adminCircuit
  else
    directory.circuits.lookup circuitName

namespace SplinterState

def circuit (state : SplinterState) (circuitName : String) : Option Circuit :=
  state.circuitDirectory.circuit circuitName

def service (state : SplinterState) (id : ServiceId) : Option Service :=
  state.serviceDirectory.lookup id

def removeService (state : SplinterState) (serviceId : ServiceId) : SplinterState :=
  { state with serviceDirectory := state.serviceDirectory.erase serviceId }

end SplinterState

structure MessageContext where
  sourcePeerId : String
  messageBytes : Bytes
  deriving DecidableEq

structure SendRequest where
  recipient : String
  payload : Bytes
  deriving DecidableEq

variable (codecs : Codecs) (nodeId : String)

section DirectMessages

variable (state : SplinterState) (msg : CircuitDirectMessage) (context : MessageContext)

def senderId : ServiceId := ⟨msg.circuit, msg.sender⟩

def recipientId : ServiceId := ⟨msg.circuit, msg.recipient⟩

/-- The error that is sent back to where a direct message came from. -/
def directMessageError (error : CircuitError.Error) (errorMessage : String) : SendRequest where
  recipient := context.sourcePeerId
  payload := createMessage codecs
    (codecs.circuitError.write ⟨msg.correlationId, msg.sender, msg.circuit, error, errorMessage⟩)
    .circuitErrorMessage

/-- `CircuitDirectMessageHandler::handle`. -/
def handleCircuitDirectMessage : Option SendRequest :=
  match state.circuit msg.circuit with
  | some circuit =>
    if !circuit.roster.contains msg.sender then
      some
        (directMessageError codecs msg context .errorSenderNotInCircuitRoster
          ("Sender is not allowed in the Circuit: " ++ msg.sender))
    else if (state.service (senderId msg)).isNone then
      -- the text names the recipient, not the sender
      some
        (directMessageError codecs msg context .errorSenderNotInDirectory
          ("Sender is not in the service directory: " ++ msg.recipient))
    else if circuit.roster.contains msg.recipient then
      match state.service (recipientId msg) with
      | some service =>
        let networkMsgBytes := createMessage codecs context.messageBytes .circuitDirectMessage
        if service.node.id ≠ nodeId then
          some ⟨service.node.id, networkMsgBytes⟩
        else
          match service.peerId with
          | some peerId => some ⟨peerId, networkMsgBytes⟩
          | none => none
      | none =>
        some
          (directMessageError codecs msg context .errorRecipientNotInDirectory
            ("Recipient is not in the service directory: " ++ msg.recipient))
    else
      some
        (directMessageError codecs msg context .errorRecipientNotInCircuitRoster
          ("Recipient is not allowed in the Circuit: " ++ msg.recipient))
  | none =>
    some
      (directMessageError codecs msg context .errorCircuitDoesNotExist
        ("Circuit does not exist: " ++ msg.circuit))

/-- The peer to which the messages for a service are sent: its own connection
or that of its node. -/
def Service.address (service : Service) : Option String :=
  if service.node.id ≠ nodeId then some service.node.id else service.peerId

structure Accepted : Prop where
  circuit : ∃ circuit, state.circuit msg.circuit = some circuit ∧
    circuit.roster.contains msg.sender = true ∧ circuit.roster.contains msg.recipient = true
  sender : (state.service (senderId msg)).isSome
  recipient : (state.service (recipientId msg)).isSome

inductive Handled : Option SendRequest → Prop
  | forwarded {service : Service} {peerId : String} : Accepted state msg →
    state.service (recipientId msg) = some service →
    service.address nodeId = some peerId →
    Handled (some ⟨peerId, createMessage codecs context.messageBytes .circuitDirectMessage⟩)
  | dropped {service : Service} : Accepted state msg →
    state.service (recipientId msg) = some service →
    service.address nodeId = none →
    Handled none
  | answered (error : CircuitError.Error) (errorMessage : String) : ¬ Accepted state msg → Handled
    (some (directMessageError codecs msg context error errorMessage))

theorem handled : Handled codecs nodeId state msg context
    (handleCircuitDirectMessage codecs nodeId state msg context) := by
  unfold handleCircuitDirectMessage
  split
  · rename_i circuit found
    split
    · rename_i foreign
      apply Handled.answered
      intro accepted
      obtain ⟨other, same, contains, _⟩ := accepted.circuit
      cases (found.symm.trans same)
      simp [contains] at foreign
    · rename_i contained
      split
      · rename_i unregistered
        apply Handled.answered
        intro accepted
        have registered := accepted.sender
        simp [Option.isNone_iff_eq_none.mp unregistered] at registered
      · rename_i registered
        split
        · rename_i allowed
          have accepted : (state.service (recipientId msg)).isSome → Accepted state msg := by
            intro present
            refine ⟨⟨circuit, found, ?_, allowed⟩, ?_, present⟩
            · simpa using contained
            · simpa [Option.isSome_iff_ne_none] using registered
          split
          · rename_i service present
            have checked := accepted (by rw [present]; rfl)
            split
            · rename_i remote
              apply Handled.forwarded checked present
              unfold Service.address
              rw [if_pos remote]
            · rename_i here
              have addressed : service.address nodeId = service.peerId := by
                unfold Service.address
                rw [if_neg here]
              split
              · rename_i peerId known
                exact Handled.forwarded checked present (addressed.trans known)
              · rename_i unknown
                exact Handled.dropped checked present (addressed.trans unknown)
          · rename_i absent
            apply Handled.answered
            intro checked
            have present := checked.recipient
            simp [absent] at present
        · rename_i foreign
          apply Handled.answered
          intro accepted
          obtain ⟨other, same, _, contains⟩ := accepted.circuit
          cases (found.symm.trans same)
          exact foreign contains
  · rename_i missing
    apply Handled.answered
    intro accepted
    obtain ⟨circuit, found, _⟩ := accepted.circuit
    rw [missing] at found
    cases found

end DirectMessages

/-- `CircuitErrorHandler::handle`: an error is passed on to the service that sent
the original message, or to its node, if it is in the directory. -/
def handleCircuitError (state : SplinterState) (msg : CircuitError)
    (context : MessageContext) : Option SendRequest :=
  match state.service ⟨msg.circuitName, msg.serviceId⟩ with
  | some service =>
    match service.address nodeId with
    | some recipient =>
      some ⟨recipient, createMessage codecs context.messageBytes .circuitErrorMessage⟩
    | none => none
  | none => none

section Services

variable (endpoint : String) (state : SplinterState) (context : MessageContext)

def connectDefinition (circuit : Circuit) (serviceId : String) : Option ServiceDefinition :=
  if "admin::".toList.isPrefixOf serviceId.toList then
    some ⟨serviceId, "admin", [nodeId], ∅⟩
  else
    circuit.roster.toList.find? fun service => service.serviceId = serviceId

/-- `ServiceConnectRequestHandler::handle` up to the sending of its response. -/
def serviceConnectResponse (msg : ServiceConnectRequest) : ServiceConnectResponse × SplinterState :=
  let uniqueId : ServiceId := ⟨msg.circuit, msg.serviceId⟩
  let response (status : ServiceConnectResponse.Status)
    (errorMessage : String) : ServiceConnectResponse :=
    ⟨msg.circuit, msg.serviceId, status, errorMessage, msg.correlationId⟩
  match state.circuit msg.circuit with
  | some circuit =>
    if circuit.roster.contains msg.serviceId &&
      (state.service uniqueId).isNone then
      match connectDefinition nodeId circuit msg.serviceId with
      | some service =>
        if nodeId ∉ service.allowedNodes then
          (response .errorNotAnAllowedNode
            (uniqueId.display ++ " is not allowed on this node"), state)
        else
          (response .ok "", state.addService uniqueId
            ⟨msg.serviceId, some context.sourcePeerId, ⟨nodeId, [endpoint]⟩⟩)
      -- does not happen, since the roster contains the service
      | none => (response .unsetStatus "", state)
    else if circuit.roster.contains msg.serviceId &&
      (state.service uniqueId).isSome then
      (response .errorServiceAlreadyRegistered
        ("Service is already registered: " ++ msg.serviceId), state)
    else
      (response .errorServiceNotInCircuitRegistry
        ("Service is not allowed in the circuit: " ++ msg.circuit ++ ":" ++ msg.serviceId), state)
  | none => (response .errorCircuitDoesNotExist ("Circuit does not exist: " ++ msg.circuit), state)

/-- `ServiceDisconnectRequestHandler::handle` up to the sending of its
response. -/
def serviceDisconnectResponse (msg : ServiceDisconnectRequest) :
    ServiceDisconnectResponse × SplinterState :=
  let uniqueId : ServiceId := ⟨msg.circuit, msg.serviceId⟩
  let response (status : ServiceDisconnectResponse.Status)
    (errorMessage : String) : ServiceDisconnectResponse :=
    ⟨msg.circuit, msg.serviceId, status, errorMessage, msg.correlationId⟩
  match state.circuit msg.circuit with
  | some circuit =>
    if circuit.roster.contains msg.serviceId &&
      (state.service uniqueId).isSome then
      (response .ok "", state.removeService uniqueId)
    else if circuit.roster.contains msg.serviceId &&
      (state.service uniqueId).isNone then
      (response .errorServiceNotRegistered ("Service is not registered: " ++ msg.serviceId), state)
    else
      (response .errorServiceNotInCircuitRegistry
        ("Service is not allowed in the circuit: " ++ msg.circuit ++ ":" ++ msg.serviceId), state)
  | none => (response .errorCircuitDoesNotExist ("Circuit does not exist: " ++ msg.circuit), state)

def handleServiceConnectRequest (msg : ServiceConnectRequest) : SendRequest × SplinterState :=
  let (response, after) := serviceConnectResponse nodeId endpoint state context msg
  (⟨context.sourcePeerId, createMessage codecs (codecs.serviceConnectResponse.write response)
    .serviceConnectResponse⟩, after)

def handleServiceDisconnectRequest (msg : ServiceDisconnectRequest) : SendRequest × SplinterState :=
  let (response, after) := serviceDisconnectResponse state msg
  (⟨context.sourcePeerId, createMessage codecs (codecs.serviceDisconnectResponse.write response)
    .serviceDisconnectResponse⟩, after)

def Listed (circuit serviceId : String) : Prop := ∃ found, state.circuit circuit = some found ∧
    found.roster.contains serviceId = true

theorem connectDefinition_isSome {circuit : Circuit} {serviceId : String}
    (contains : circuit.roster.contains serviceId = true) :
    (connectDefinition nodeId circuit serviceId).isSome = true := by
  unfold connectDefinition
  split
  · rfl
  · rename_i standard
    cases roster : circuit.roster with
    | standard services =>
      rw [roster] at contains
      rw [Roster.toList, List.find?_isSome]
      exact List.any_eq_true.mp contains
    | admin =>
      rw [roster] at contains
      exact absurd contains standard

end Services

end Splinter.Circuits
