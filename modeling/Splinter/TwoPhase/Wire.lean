import Splinter.Consensus.Wire
import Splinter.TwoPhase.Messages

/-!
# Two-phase messages on the wire

The protobuf serialisation of the messages of `two_phase.proto`.
-/

namespace Splinter.TwoPhase

open Library Library.Protobuf Consensus

namespace MessageType

def value : MessageType → Nat
  | .unsetType => 0
  | .proposalVerificationRequest => 1
  | .proposalVerificationResponse => 2
  | .proposalResult => 3

def ofValue : Nat → MessageType
  | 1 => .proposalVerificationRequest
  | 2 => .proposalVerificationResponse
  | 3 => .proposalResult
  | _ => .unsetType

end MessageType

namespace ProposalVerificationResponse

def value : ProposalVerificationResponse → Nat
  | .unsetVerificationResponse => 0
  | .verified => 1
  | .failed => 2

def ofValue : Nat → ProposalVerificationResponse
  | 1 => .verified
  | 2 => .failed
  | _ => .unsetVerificationResponse

end ProposalVerificationResponse

namespace ProposalResult

def value : ProposalResult → Nat
  | .unsetResult => 0
  | .apply => 1
  | .reject => 2

def ofValue : Nat → ProposalResult
  | 1 => .apply
  | 2 => .reject
  | _ => .unsetResult

end ProposalResult

def TwoPhaseMessage.schema : Schema TwoPhaseMessage :=
  ((Schema.enumeration 1 MessageType.value .ofValue (by intro value; cases value <;> rfl)).and
    ((Schema.bytes 2).and
      ((Schema.enumeration 3 ProposalVerificationResponse.value .ofValue
        (by intro value; cases value <;> rfl)).and
        (Schema.enumeration 4 ProposalResult.value .ofValue (by intro value; cases value <;> rfl))
        (by decide))
      (by decide))
    (by decide)).record
    (fun fields => ⟨fields.1, fields.2.1, fields.2.2.1, fields.2.2.2⟩)
    (fun message =>
      (message.messageType, message.proposalId,
        message.proposalVerificationResponse, message.proposalResult))
    fun _ => rfl

def RequiredVerifiers.schema : Schema RequiredVerifiers :=
  (Schema.delimited 1).record RequiredVerifiers.mk RequiredVerifiers.verifiers fun _ => rfl

def Codecs.protobuf : Codecs where
  twoPhaseMessage := TwoPhaseMessage.schema.codec malformed
  requiredVerifiers := RequiredVerifiers.schema.codec malformed

end Splinter.TwoPhase
