import Mathlib.Data.Finset.Max
import Mathlib.Data.List.Lex
import Splinter.Library.Codec
import Splinter.Library.Interaction

/-!
# The consensus interface

The methods of `ProposalManager` and `ConsensusNetworkSender` are the questions
(`Call`) an engine asks; what a method returns is the `Answer`, with errors already
converted into the engine's own error type.
-/

namespace Splinter.Consensus

open Library

/-- The identifier of a consensus engine: a byte string. -/
structure PeerId where
  bytes : Bytes
  deriving DecidableEq, Repr

structure ProposalId where
  bytes : Bytes
  deriving DecidableEq, Repr

namespace PeerId

/-- The unsigned values of the bytes, which is what slices are compared by. -/
def values (peer : PeerId) : List Nat := peer.bytes.map UInt8.toNat

theorem values_injective : Function.Injective values := by
  intro left right same
  cases left
  cases right
  simp only [values] at same
  simp only [PeerId.mk.injEq]
  exact List.map_injective_iff.mpr (fun _ _ => UInt8.toNat_inj.mp) same

/-- Peer identifiers are ordered like byte slices, lexicographically. -/
instance : LinearOrder PeerId := LinearOrder.lift' values values_injective

end PeerId

structure Proposal where
  id : ProposalId
  previousId : ProposalId
  proposalHeight : UInt64
  summary : Bytes
  consensusData : Bytes
  deriving DecidableEq, Repr

/-- `Proposal::default()`. -/
def Proposal.default : Proposal where
  id := ⟨[]⟩
  previousId := ⟨[]⟩
  proposalHeight := 0
  summary := []
  consensusData := []

inductive ProposalUpdate where
  | proposalCreated (proposal : Option Proposal)
  | proposalReceived (proposal : Proposal) (peer : PeerId)
  | proposalValid (id : ProposalId)
  | proposalInvalid (id : ProposalId)
  | proposalAccepted (id : ProposalId)
  | proposalAcceptFailed (id : ProposalId) (reason : String)
  | shutdown
  deriving DecidableEq, Repr

structure ConsensusMessage where
  message : Bytes
  originId : PeerId
  deriving DecidableEq, Repr

structure ProtobufError where
  description : String
  deriving DecidableEq, Repr

inductive ProposalManagerError where
  | internal (description : String)
  | notReady
  | unknownProposal (id : ProposalId)
  | updateSendFailed (update : ProposalUpdate)
  deriving DecidableEq, Repr

inductive ConsensusSendError where
  | internal (description : String)
  | notReady
  | unknownPeer (id : PeerId)
  deriving DecidableEq, Repr

/-- `ConsensusEngineError` boxes the error it was converted from. -/
inductive ConsensusEngineError where
  | protobuf (error : ProtobufError)
  | proposalManager (error : ProposalManagerError)
  | send (error : ConsensusSendError)
  deriving DecidableEq, Repr

/-- The methods of `ProposalManager` and `ConsensusNetworkSender`. -/
inductive Call where
  | createProposal (previousProposalId : Option ProposalId) (consensusData : Bytes)
  | checkProposal (id : ProposalId)
  | acceptProposal (id : ProposalId) (consensusData : Option Bytes)
  | rejectProposal (id : ProposalId)
  | sendTo (peerId : PeerId) (message : Bytes)
  | broadcast (message : Bytes)
  deriving DecidableEq, Repr

abbrev Answer := Except ConsensusEngineError Unit

/-- One method call together with what it returned. -/
abbrev Exchange := Call × Answer

end Splinter.Consensus
