import Splinter.Consensus.Types
import Splinter.Library.Schema

/-!
# Proposals and consensus messages on the wire

The protobuf serialisation of the messages of `consensus.proto`.
-/

namespace Splinter.Consensus

open Library Library.Protobuf

/-- The protobuf serialisations of the consensus interface. -/
structure Codecs where
  proposal : Codec ProtobufError Proposal
  consensusMessage : Codec ProtobufError ConsensusMessage

def Proposal.schema : Schema Proposal :=
  ((Schema.bytes 1).and
    ((Schema.bytes 2).and
      (((Schema.natural 3).record UInt64.ofNat UInt64.toNat fun _ => UInt64.ofNat_toNat).and
        ((Schema.bytes 4).and (Schema.bytes 5) (by decide))
        (by decide))
      (by decide))
    (by decide)).record
    (fun fields =>
      ⟨⟨fields.1⟩, ⟨fields.2.1⟩, fields.2.2.1, fields.2.2.2.1, fields.2.2.2.2⟩)
    (fun proposal =>
      (proposal.id.bytes, proposal.previousId.bytes, proposal.proposalHeight,
        proposal.summary, proposal.consensusData))
    fun _ => rfl

def ConsensusMessage.schema : Schema ConsensusMessage :=
  ((Schema.bytes 1).and (Schema.bytes 2) (by decide)).record (fun fields => ⟨fields.1, ⟨fields.2⟩⟩)
    (fun message => (message.message, message.originId.bytes))
    fun _ => rfl

/-- What the protobuf library reports for bytes that are not a message. -/
def malformed : ProtobufError := ⟨"malformed message"⟩

def Codecs.protobuf : Codecs where
  proposal := Proposal.schema.codec malformed
  consensusMessage := ConsensusMessage.schema.codec malformed

end Splinter.Consensus
