import Splinter.Admin.Messages
import Splinter.Circuits.State

/-!
# Open proposals

The registry of the circuit proposals that are being voted on.  It is written to
storage after each change, which cannot return an error once the node has
started: the storage has been found then, and what fails later is a panic.
-/

namespace Splinter.Admin

open Library
open Service (ErrorText)
open Circuits (TextMap)

inductive OpenProposalError where
  | invalidMessageFormat (source : MarshallingError)
  deriving DecidableEq

def OpenProposalError.display : OpenProposalError → ErrorText
  | .invalidMessageFormat source => "Unable to convert circuit proposal: " ++ source.display

structure ProposalRegistry where
  proposals : TextMap Messages.CircuitProposal
  deriving DecidableEq

namespace ProposalRegistry

def exported (stored : Option Messages.CircuitProposal) :
    Except OpenProposalError (Option Protos.CircuitProposal) :=
  match stored with
  | none => .ok none
  | some proposal =>
    match proposal.intoProto with
    | .ok proto => .ok (some proto)
    | .error error => .error (.invalidMessageFormat error)

theorem exported_isOk (stored : Option Messages.CircuitProposal) :
    ∃ proposal, exported stored = .ok proposal := by
  cases stored with
  | none => exact ⟨none, rfl⟩
  | some proposal =>
    obtain ⟨proto, converted⟩ := proposal.intoProto_isOk
    exact ⟨some proto, by rw [exported, converted]⟩

/-- What is returned, and the registry afterwards. -/
def addProposal (circuitProposal : Protos.CircuitProposal) (registry : ProposalRegistry) :
    Except OpenProposalError (Option Protos.CircuitProposal) × ProposalRegistry :=
  match Messages.CircuitProposal.fromProto circuitProposal with
  | .error error => (.error (.invalidMessageFormat error), registry)
  | .ok proposal =>
    (exported (registry.proposals.lookup circuitProposal.circuitId),
      ⟨registry.proposals.insert circuitProposal.circuitId proposal⟩)

def removeProposal (circuitId : String) (registry : ProposalRegistry) :
    Except OpenProposalError (Option Protos.CircuitProposal) × ProposalRegistry :=
  (exported (registry.proposals.lookup circuitId), ⟨registry.proposals.erase circuitId⟩)

def getProposal (registry : ProposalRegistry) (circuitId : String) :
    Except OpenProposalError (Option Protos.CircuitProposal) :=
  exported (registry.proposals.lookup circuitId)

def hasProposal (registry : ProposalRegistry) (circuitId : String) : Bool :=
  circuitId ∈ registry.proposals

end ProposalRegistry

structure OpenProposals where
  proposalRegistry : ProposalRegistry
  deriving DecidableEq

namespace OpenProposals

/-- The open proposals of a node that has stored none. -/
def new : OpenProposals where
  proposalRegistry := ⟨∅⟩

/-- Change the registry, and return what the change returned. -/
def update {Result : Type}
    (change : ProposalRegistry → Except OpenProposalError Result × ProposalRegistry) :
    EStateM OpenProposalError OpenProposals Result := do
  let openProposals ← get
  let proposal := change openProposals.proposalRegistry
  set ({ proposalRegistry := proposal.2 } : OpenProposals)
  fromExcept proposal.1

def addProposal (circuitProposal : Protos.CircuitProposal) :
    EStateM OpenProposalError OpenProposals (Option Protos.CircuitProposal) :=
  update (ProposalRegistry.addProposal circuitProposal)

def removeProposal (circuitId : String) :
    EStateM OpenProposalError OpenProposals (Option Protos.CircuitProposal) :=
  update (ProposalRegistry.removeProposal circuitId)

def getProposal (openProposals : OpenProposals) (circuitId : String) :
    Except OpenProposalError (Option Protos.CircuitProposal) :=
  openProposals.proposalRegistry.getProposal circuitId

def hasProposal (openProposals : OpenProposals) (circuitId : String) : Bool :=
  openProposals.proposalRegistry.hasProposal circuitId

end OpenProposals

end Splinter.Admin
