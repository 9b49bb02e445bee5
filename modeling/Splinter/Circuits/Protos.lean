import Splinter.Consensus.Wire

/-!
# Messages of `network.proto` and `circuit.proto`

A message is the payload of a `CircuitMessage`, which is the payload of a
`NetworkMessage`.  Direct messages of circuits and of the admin service have the
same fields under the same numbers, and so have the service requests.
-/

namespace Splinter.Circuits.Protos

open Library Library.Protobuf
open Consensus (ProtobufError malformed)

inductive NetworkMessageType where
  | unsetNetworkMessageType
  | networkEcho
  | networkHeartbeat
  | circuit
  | authorization
  deriving DecidableEq

structure NetworkMessage where
  messageType : NetworkMessageType
  payload : Bytes
  deriving DecidableEq

inductive CircuitMessageType where
  | unsetCircuitMessageType
  | circuitErrorMessage
  | networkErrorMessage
  | circuitDirectMessage
  | serviceConnectRequest
  | serviceConnectResponse
  | serviceDisconnectRequest
  | serviceDisconnectResponse
  | adminDirectMessage
  deriving DecidableEq

structure CircuitMessage where
  messageType : CircuitMessageType
  payload : Bytes
  deriving DecidableEq

inductive CircuitError.Error where
  | unsetError
  | errorCircuitDoesNotExist
  | errorRecipientNotInCircuitRoster
  | errorSenderNotInCircuitRoster
  | errorRecipientNotInDirectory
  | errorSenderNotInDirectory
  deriving DecidableEq

structure CircuitError where
  correlationId : String
  serviceId : String
  circuitName : String
  error : CircuitError.Error
  errorMessage : String
  deriving DecidableEq

structure DirectMessage where
  circuit : String
  sender : String
  recipient : String
  payload : Bytes
  correlationId : String
  deriving DecidableEq

abbrev CircuitDirectMessage := DirectMessage

abbrev AdminDirectMessage := DirectMessage

structure ServiceRequest where
  circuit : String
  serviceId : String
  correlationId : String
  deriving DecidableEq

abbrev ServiceConnectRequest := ServiceRequest

abbrev ServiceDisconnectRequest := ServiceRequest

inductive ServiceConnectResponse.Status where
  | unsetStatus
  | ok
  | errorCircuitDoesNotExist
  | errorServiceNotInCircuitRegistry
  | errorServiceAlreadyRegistered
  | errorNotAnAllowedNode
  | errorQueueFull
  deriving DecidableEq

inductive ServiceDisconnectResponse.Status where
  | unsetError
  | ok
  | errorCircuitDoesNotExist
  | errorServiceNotInCircuitRegistry
  | errorServiceNotRegistered
  | errorQueueFull
  deriving DecidableEq

structure ServiceResponse (Status : Type) where
  circuit : String
  serviceId : String
  status : Status
  errorMessage : String
  correlationId : String
  deriving DecidableEq

abbrev ServiceConnectResponse := ServiceResponse ServiceConnectResponse.Status

abbrev ServiceDisconnectResponse := ServiceResponse ServiceDisconnectResponse.Status

structure Codecs where
  networkMessage : Codec ProtobufError NetworkMessage
  circuitMessage : Codec ProtobufError CircuitMessage
  circuitError : Codec ProtobufError CircuitError
  circuitDirectMessage : Codec ProtobufError CircuitDirectMessage
  adminDirectMessage : Codec ProtobufError AdminDirectMessage
  serviceConnectRequest : Codec ProtobufError ServiceConnectRequest
  serviceConnectResponse : Codec ProtobufError ServiceConnectResponse
  serviceDisconnectRequest : Codec ProtobufError ServiceDisconnectRequest
  serviceDisconnectResponse : Codec ProtobufError ServiceDisconnectResponse

def NetworkMessageType.value : NetworkMessageType → Nat
  | .unsetNetworkMessageType => 0
  | .networkEcho => 1
  | .networkHeartbeat => 2
  | .circuit => 100
  | .authorization => 101

def NetworkMessageType.ofValue : Nat → NetworkMessageType
  | 1 => .networkEcho
  | 2 => .networkHeartbeat
  | 100 => .circuit
  | 101 => .authorization
  | _ => .unsetNetworkMessageType

def CircuitMessageType.value : CircuitMessageType → Nat
  | .unsetCircuitMessageType => 0
  | .circuitErrorMessage => 1
  | .networkErrorMessage => 2
  | .circuitDirectMessage => 3
  | .serviceConnectRequest => 4
  | .serviceConnectResponse => 5
  | .serviceDisconnectRequest => 7
  | .serviceDisconnectResponse => 8
  | .adminDirectMessage => 100

def CircuitMessageType.ofValue : Nat → CircuitMessageType
  | 1 => .circuitErrorMessage
  | 2 => .networkErrorMessage
  | 3 => .circuitDirectMessage
  | 4 => .serviceConnectRequest
  | 5 => .serviceConnectResponse
  | 7 => .serviceDisconnectRequest
  | 8 => .serviceDisconnectResponse
  | 100 => .adminDirectMessage
  | _ => .unsetCircuitMessageType

def CircuitError.Error.value : CircuitError.Error → Nat
  | .unsetError => 0
  | .errorCircuitDoesNotExist => 1
  | .errorRecipientNotInCircuitRoster => 2
  | .errorSenderNotInCircuitRoster => 3
  | .errorRecipientNotInDirectory => 4
  | .errorSenderNotInDirectory => 5

def CircuitError.Error.ofValue : Nat → CircuitError.Error
  | 1 => .errorCircuitDoesNotExist
  | 2 => .errorRecipientNotInCircuitRoster
  | 3 => .errorSenderNotInCircuitRoster
  | 4 => .errorRecipientNotInDirectory
  | 5 => .errorSenderNotInDirectory
  | _ => .unsetError

def ServiceConnectResponse.Status.value : ServiceConnectResponse.Status → Nat
  | .unsetStatus => 0
  | .ok => 1
  | .errorCircuitDoesNotExist => 2
  | .errorServiceNotInCircuitRegistry => 3
  | .errorServiceAlreadyRegistered => 4
  | .errorNotAnAllowedNode => 5
  | .errorQueueFull => 6

def ServiceConnectResponse.Status.ofValue : Nat → ServiceConnectResponse.Status
  | 1 => .ok
  | 2 => .errorCircuitDoesNotExist
  | 3 => .errorServiceNotInCircuitRegistry
  | 4 => .errorServiceAlreadyRegistered
  | 5 => .errorNotAnAllowedNode
  | 6 => .errorQueueFull
  | _ => .unsetStatus

def ServiceDisconnectResponse.Status.value : ServiceDisconnectResponse.Status → Nat
  | .unsetError => 0
  | .ok => 1
  | .errorCircuitDoesNotExist => 2
  | .errorServiceNotInCircuitRegistry => 3
  | .errorServiceNotRegistered => 4
  | .errorQueueFull => 5

def ServiceDisconnectResponse.Status.ofValue : Nat → ServiceDisconnectResponse.Status
  | 1 => .ok
  | 2 => .errorCircuitDoesNotExist
  | 3 => .errorServiceNotInCircuitRegistry
  | 4 => .errorServiceNotRegistered
  | 5 => .errorQueueFull
  | _ => .unsetError

def NetworkMessage.codec : Codec ProtobufError NetworkMessage :=
  (((Schema.enumeration 1 NetworkMessageType.value .ofValue
    (by intro value; cases value <;> rfl)).and
    (Schema.bytes 2)
    (by decide)).record
    (fun fields => ⟨fields.1, fields.2⟩)
    (fun message => (message.messageType, message.payload))
    fun _ => rfl).codec malformed

def CircuitMessage.codec : Codec ProtobufError CircuitMessage :=
  (((Schema.enumeration 1 CircuitMessageType.value .ofValue
    (by intro value; cases value <;> rfl)).and
    (Schema.bytes 2)
    (by decide)).record
    (fun fields => ⟨fields.1, fields.2⟩)
    (fun message => (message.messageType, message.payload))
    fun _ => rfl).codec malformed

def CircuitError.codec : Codec ProtobufError CircuitError :=
  (((Schema.string 1).and
    ((Schema.string 2).and
      ((Schema.string 3).and
        ((Schema.enumeration 4 Error.value .ofValue (by intro value; cases value <;> rfl)).and
          (Schema.string 5)
          (by decide))
        (by decide))
      (by decide))
    (by decide)).record
    (fun fields =>
      ⟨fields.1, fields.2.1, fields.2.2.1, fields.2.2.2.1, fields.2.2.2.2⟩)
    (fun error =>
      (error.correlationId, error.serviceId, error.circuitName, error.error, error.errorMessage))
    fun _ => rfl).codec malformed

def DirectMessage.codec : Codec ProtobufError DirectMessage :=
  (((Schema.string 1).and
    ((Schema.string 2).and
      ((Schema.string 3).and ((Schema.bytes 4).and (Schema.string 5) (by decide)) (by decide))
      (by decide))
    (by decide)).record
    (fun fields =>
      ⟨fields.1, fields.2.1, fields.2.2.1, fields.2.2.2.1, fields.2.2.2.2⟩)
    (fun message =>
      (message.circuit, message.sender, message.recipient, message.payload, message.correlationId))
    fun _ => rfl).codec malformed

def ServiceRequest.codec : Codec ProtobufError ServiceRequest :=
  (((Schema.string 1).and ((Schema.string 2).and (Schema.string 3) (by decide)) (by decide)).record
    (fun fields => ⟨fields.1, fields.2.1, fields.2.2⟩)
    (fun request =>
      (request.circuit, request.serviceId, request.correlationId))
    fun _ => rfl).codec malformed

/-- The serialisation of responses whose status is an enumeration. -/
def ServiceResponse.codec {Status : Type} (value : Status → Nat) (ofValue : Nat → Status)
    (inverse : ∀ status, ofValue (value status) = status) :
    Codec ProtobufError (ServiceResponse Status) :=
  (((Schema.string 1).and
    ((Schema.string 2).and
      ((Schema.enumeration 3 value ofValue inverse).and
        ((Schema.string 4).and (Schema.string 5) (show ∀ number ∈ [4], number ∉ [5] by decide))
        (show ∀ number ∈ [3], number ∉ [4, 5] by decide))
      (show ∀ number ∈ [2], number ∉ [3, 4, 5] by decide))
    (show ∀ number ∈ [1], number ∉ [2, 3, 4, 5] by decide)).record
    (fun fields =>
      ⟨fields.1, fields.2.1, fields.2.2.1, fields.2.2.2.1, fields.2.2.2.2⟩)
    (fun response =>
      (response.circuit, response.serviceId, response.status,
        response.errorMessage, response.correlationId))
    fun _ => rfl).codec malformed

def ServiceConnectResponse.codec : Codec ProtobufError ServiceConnectResponse :=
  ServiceResponse.codec Status.value Status.ofValue (by intro status; cases status <;> rfl)

def ServiceDisconnectResponse.codec : Codec ProtobufError ServiceDisconnectResponse :=
  ServiceResponse.codec Status.value Status.ofValue (by intro status; cases status <;> rfl)

def Codecs.protobuf : Codecs where
  networkMessage := NetworkMessage.codec
  circuitMessage := CircuitMessage.codec
  circuitError := CircuitError.codec
  circuitDirectMessage := DirectMessage.codec
  adminDirectMessage := DirectMessage.codec
  serviceConnectRequest := ServiceRequest.codec
  serviceConnectResponse := ServiceConnectResponse.codec
  serviceDisconnectRequest := ServiceRequest.codec
  serviceDisconnectResponse := ServiceDisconnectResponse.codec

end Splinter.Circuits.Protos
