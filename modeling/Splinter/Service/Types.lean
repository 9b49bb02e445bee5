import Splinter.Library.Codec

/-!
# What services have in common

The errors of services and the context of the messages they receive.  An error
that wraps another one keeps the text the other displays.
-/

namespace Splinter.Service

/-- What an error of a library or of another component displays. -/
abbrev ErrorText := String

/-- The sender is authenticated by the node that delivers the message. -/
structure ServiceMessageContext where
  sender : String
  circuit : String
  correlationId : String
  deriving DecidableEq

/-- A service instance from the perspective of the orchestrator. -/
structure ServiceDefinition where
  circuit : String
  serviceId : String
  serviceType : String
  deriving DecidableEq

structure ServiceSendError where
  source : ErrorText
  deriving DecidableEq

def ServiceSendError.display (error : ServiceSendError) : ErrorText :=
  "unable to send message: " ++ error.source

inductive ServiceError where
  | invalidMessageFormat (source : ErrorText)
  | unableToHandleMessage (source : ErrorText)
  | unableToSendMessage (source : ServiceSendError)
  | notStarted
  deriving DecidableEq

def ServiceError.display : ServiceError → ErrorText
  | .invalidMessageFormat source => "message is in an invalid format: " ++ source
  | .unableToHandleMessage source => "cannot handle message " ++ source
  | .unableToSendMessage source => "unable to send message: " ++ source.display
  | .notStarted => "service not started"

end Splinter.Service
