import Splinter.TwoPhase.Network

/-!
# Executing engines

Handler calls with answers given in advance can be carried out, at one node
and in a system.  `Node.run_performAll` and `System.run_performAll` show that
what is carried out is a run.
-/

namespace Splinter.TwoPhase

open Library Consensus TwoPhaseEngine

/-- A handler call to be made, with the answers it will get. -/
structure Action where
  now : Instant
  input : Input
  answer : Call → Answer

def Action.ok (input : Input) : Action where
  now := 0
  input := input
  answer := fun _ => .ok ()

def Action.record (codecs : Codecs) (action : Action) (node : Node) : Record where
  now := action.now
  input := action.input
  exchanges :=
    (Interaction.play action.answer (handle codecs action.now action.input node.engine)).1

namespace Node

def perform (codecs : Codecs) (node : Node) (action : Action) : Node where
  engine := (Interaction.play action.answer (handle codecs action.now action.input node.engine)).2.2
  history := node.history ++ [action.record codecs node]

theorem step_perform (codecs : Codecs) (node : Node) (action : Action) :
    Step codecs node (action.record codecs node) (node.perform codecs action) :=
  ⟨⟨_, Interaction.play_trace _ _⟩, rfl⟩

def performAll (codecs : Codecs) (node : Node) : List Action → Node
  | [] => node
  | action :: rest => performAll codecs (node.perform codecs action) rest

/-- The states and records of the actions carried out one after another. -/
def path (codecs : Codecs) (node : Node) : List Action → List (Node × Record)
  | [] => []
  | action :: rest =>
    (node, action.record codecs node) :: path codecs (node.perform codecs action) rest

theorem run_performAll (codecs : Codecs) (node : Node) (actions : List Action) :
    Run (Step codecs) node (node.path codecs actions) (node.performAll codecs actions) := by
  induction actions generalizing node with
  | nil => exact Run.start
  | cons action rest ih =>
    exact Run.cons (step_perform codecs node action) (ih (node.perform codecs action))

end Node

/-- The assumptions on the input of a node, as a test. -/
def admits (network : Network) (codecs : Codecs) (node : Node) : Input → Bool
  | .handleProposalUpdate (.proposalValid proposalId)
  | .handleProposalUpdate (.proposalInvalid proposalId) =>
    verdicts node.history proposalId < answered node.history (.checkProposal proposalId, .ok ())
  | .handleProposalUpdate update =>
    match handed update with
    | some proposal =>
      ¬ Handed node.history proposal.id &&
        match node.engine.verifiers codecs proposal with
        | .ok required => required = network.verifiers proposal.id
        | .error _ => false
    | none => true
  | _ => true

variable {network : Network} {codecs : Codecs} {node : Node}

theorem handed_of_admits {update : ProposalUpdate} {proposal : Proposal}
    (admitted : admits network codecs node (.handleProposalUpdate update) = true)
    (delivered : handed update = some proposal) :
    ¬ Handed node.history proposal.id ∧ node.engine.verifiers codecs proposal =
      .ok (network.verifiers proposal.id) := by
  have tested :
      (¬ Handed node.history proposal.id &&
        match node.engine.verifiers codecs proposal with
        | .ok required => required = network.verifiers proposal.id
        | .error _ => false) = true := by
    cases update <;> simp_all [admits, handed]
  rw [Bool.and_eq_true, decide_eq_true_eq] at tested
  refine ⟨tested.1, ?_⟩
  have common := tested.2
  split at common
  · next required shape => rw [shape, of_decide_eq_true common]
  · cases common

theorem assumed_of_admits {input : Input} (admitted : admits network codecs node input = true) :
    Assumed network codecs node ((Action.ok input).record codecs node) := by
  constructor
  case handsOnce =>
    rintro id ⟨update, proposal, rfl, delivered, rfl⟩
    exact (handed_of_admits admitted delivered).1
  case sameVerifiers =>
    rintro update proposal rfl delivered
    exact (handed_of_admits admitted delivered).2
  case oneVerdict =>
    rintro id (rfl | rfl) <;> exact of_decide_eq_true admitted
  case carriedOut =>
    intro id result call answer _ member
    have given := Interaction.answer_of_mem_play member
    exact given

namespace System

def boot (network : Network) : System where
  node := fun peer =>
    Node.boot network.coordinatorTimeoutDuration 0 peer (network.peerIds peer)
  inFlight := []

theorem initial_boot (network : Network) : (boot network).Initial network where
  node := fun _ => ⟨0, rfl⟩
  inFlight := rfl

/-- Let a node handle an input, all of whose calls succeed. -/
def perform (network : Network) (codecs : Codecs) (system : System)
    (event : PeerId × Input) : System where
  node := Function.update system.node event.1
    ((system.node event.1).perform codecs (Action.ok event.2))
  inFlight :=
    (match event.2 with
      | .handleConsensusMsg message => system.inFlight.erase ⟨event.1, message⟩
      | _ => system.inFlight) ++
      network.emitted event.1 ((Action.ok event.2).record codecs (system.node event.1)).exchanges

def enabled (network : Network) (codecs : Codecs) (system : System)
    (event : PeerId × Input) : Bool :=
  event.1 ∈ network.nodes &&
    (match event.2 with
      | .handleConsensusMsg message => ⟨event.1, message⟩ ∈ system.inFlight
      | _ => true) &&
    admits network codecs (system.node event.1) event.2

variable {network : Network} {codecs : Codecs} {system : System}

theorem step_perform {event : PeerId × Input} (able : system.enabled network codecs event = true) :
    Step network codecs system (event.1, (Action.ok event.2).record codecs (system.node event.1))
      (system.perform network codecs event) := by
  obtain ⟨peer, input⟩ := event
  simp only [enabled, Bool.and_eq_true, decide_eq_true_eq] at able
  obtain ⟨⟨member, available⟩, admitted⟩ := able
  constructor
  case member => exact member
  case taken =>
    simp only [perform, Function.update_self]
    exact Node.step_perform codecs _ _
  case others =>
    intro other different
    simp only [perform, Function.update_of_ne different]
  case inFlight =>
    refine ⟨_, ?_, rfl⟩
    cases input with
    | handleConsensusMsg message => exact Receives.message (of_decide_eq_true available) rfl
    | _ => exact Receives.own nofun
  case assumed => exact assumed_of_admits admitted

def performAll (network : Network) (codecs : Codecs) (system : System) :
    List (PeerId × Input) → System
  | [] => system
  | event :: rest => performAll network codecs (system.perform network codecs event) rest

def enabledAll (network : Network) (codecs : Codecs) (system : System) :
    List (PeerId × Input) → Bool
  | [] => true
  | event :: rest =>
    system.enabled network codecs event &&
      enabledAll network codecs (system.perform network codecs event) rest

theorem run_performAll {events : List (PeerId × Input)}
    (able : system.enabledAll network codecs events = true) :
    ∃ path, Run (Step network codecs) system path (system.performAll network codecs events) := by
  induction events generalizing system with
  | nil => exact ⟨[], Run.start⟩
  | cons event rest ih =>
    rw [enabledAll, Bool.and_eq_true] at able
    obtain ⟨path, run⟩ := ih able.2
    exact ⟨_, Run.cons (step_perform able.1) run⟩

end System

end Splinter.TwoPhase
