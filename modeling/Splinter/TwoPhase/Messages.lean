import Splinter.Consensus.Types

/-!
# Messages of the two-phase engine

The messages of `two_phase.proto`.  An enumeration has its unset value as a
constructor, as the generated code has it.
-/

namespace Splinter.TwoPhase

open Library Consensus

inductive MessageType where
  | unsetType
  | proposalVerificationRequest
  | proposalVerificationResponse
  | proposalResult
  deriving DecidableEq, Repr

inductive ProposalVerificationResponse where
  | unsetVerificationResponse
  | verified
  | failed
  deriving DecidableEq, Repr

inductive ProposalResult where
  | unsetResult
  | apply
  | reject
  deriving DecidableEq, Repr

structure TwoPhaseMessage where
  messageType : MessageType
  proposalId : Bytes
  proposalVerificationResponse : ProposalVerificationResponse
  proposalResult : ProposalResult
  deriving DecidableEq, Repr

/-- `TwoPhaseMessage::new()`: every field unset. -/
def TwoPhaseMessage.new : TwoPhaseMessage where
  messageType := .unsetType
  proposalId := []
  proposalVerificationResponse := .unsetVerificationResponse
  proposalResult := .unsetResult

structure RequiredVerifiers where
  verifiers : List Bytes
  deriving DecidableEq, Repr

/-- The request a coordinator broadcasts for a proposal. -/
def verificationRequest (id : ProposalId) : TwoPhaseMessage :=
  { TwoPhaseMessage.new with
    messageType := .proposalVerificationRequest
    proposalId := id.bytes }

/-- The answer a verifier sends to the coordinator of a proposal. -/
def verificationResponse (id : ProposalId)
    (response : ProposalVerificationResponse) : TwoPhaseMessage :=
  { TwoPhaseMessage.new with
    messageType := .proposalVerificationResponse
    proposalId := id.bytes
    proposalVerificationResponse := response }

/-- The decision a coordinator broadcasts for a proposal. -/
def resultMessage (id : ProposalId) (result : ProposalResult) : TwoPhaseMessage :=
  { TwoPhaseMessage.new with
    messageType := .proposalResult
    proposalId := id.bytes
    proposalResult := result }

structure Codecs where
  twoPhaseMessage : Codec ProtobufError TwoPhaseMessage
  requiredVerifiers : Codec ProtobufError RequiredVerifiers

end Splinter.TwoPhase
