import Mathlib.Data.List.Perm.Basic
import Splinter.TwoPhase.History

/-!
# Several engines and the messages between them

Any node may act at any time; a message is delivered at most once, after any
delay, and a message that is never delivered is lost.
-/

namespace Splinter.TwoPhase

open Library Consensus TwoPhaseEngine

structure Envelope where
  destination : PeerId
  message : ConsensusMessage
  deriving DecidableEq

/-- The nodes of a system, how they are configured, and who must verify each
proposal. -/
structure Network where
  nodes : List PeerId
  distinct : nodes.Nodup
  peerIds : PeerId → List PeerId
  coordinatorTimeoutDuration : Nat
  verifiers : ProposalId → Finset PeerId
  nonempty : ∀ id, (verifiers id).Nonempty

/-- The engines with their histories and the messages in flight. -/
structure System where
  node : PeerId → Node
  inFlight : List Envelope

namespace Network

variable (network : Network)

/-- The lowest of the peers that must verify the proposal. -/
def coordinator (id : ProposalId) : PeerId := (network.verifiers id).min' (network.nonempty id)

/-- The envelopes a network call of `sender` puts in flight: a broadcast
reaches every other node. -/
def envelopes (sender : PeerId) : Call → List Envelope
  | .sendTo destination message => [⟨destination, ⟨message, sender⟩⟩]
  | .broadcast message =>
    (network.nodes.filter (· ≠ sender)).map fun destination =>
      ⟨destination, ⟨message, sender⟩⟩
  | _ => []

/-- The envelopes a handler call of `sender` puts in flight. -/
def emitted (sender : PeerId) (exchanges : List Exchange) : List Envelope :=
  (outgoing exchanges).flatMap (network.envelopes sender)

end Network

def verdicts (history : List Record) (id : ProposalId) : Nat := history.countP fun record =>
    record.input = .handleProposalUpdate (.proposalValid id) ∨
      record.input = .handleProposalUpdate (.proposalInvalid id)

/-- What is assumed of the manager and of the inputs at a node: no proposal is
handed over twice, all nodes agree on its verifiers, a successful check yields
at most one verdict, and decisions are carried out. -/
structure Assumed (network : Network) (codecs : Codecs) (node : Node)
    (record : Record) : Prop where
  handsOnce : node.HandsOnce record
  sameVerifiers : ∀ update proposal, record.input = .handleProposalUpdate update →
    handed update = some proposal →
    node.engine.verifiers codecs proposal = .ok (network.verifiers proposal.id)
  oneVerdict : ∀ id, record.input = .handleProposalUpdate (.proposalValid id) ∨
    record.input = .handleProposalUpdate (.proposalInvalid id) →
    verdicts node.history id < answered node.history (.checkProposal id, .ok ())
  carriedOut : ∀ id result call answer, decisionCall id result = some call →
    (call, answer) ∈ record.exchanges → answer = .ok ()

/-- How an input reaches a node: a message is taken from those in flight,
everything else comes from the node itself. -/
inductive Receives (inFlight : List Envelope) (peer : PeerId) :
    Input → List Envelope → Prop
  | message {envelope : Envelope} : envelope ∈ inFlight → envelope.destination = peer →
    Receives inFlight peer (.handleConsensusMsg envelope.message) (inFlight.erase envelope)
  | own {input : Input} : (∀ message, input ≠ .handleConsensusMsg message) →
    Receives inFlight peer input inFlight

theorem Receives.sublist {inFlight remaining : List Envelope} {peer : PeerId} {input : Input}
    (receives : Receives inFlight peer input remaining) :
    remaining.Sublist inFlight := by
  cases receives with
  | message _ _ => exact List.erase_sublist
  | own _ => exact List.Sublist.refl _

namespace System

/-- Every engine is about to enter its loop and nothing is in flight. -/
structure Initial (network : Network) (system : System) : Prop where
  node : ∀ peer, ∃ now, system.node peer = Node.boot network.coordinatorTimeoutDuration now peer
    (network.peerIds peer)
  inFlight : system.inFlight = []

structure Step (network : Network) (codecs : Codecs) (before : System)
    (event : PeerId × Record) (after : System) : Prop where
  member : event.1 ∈ network.nodes
  taken : Node.Step codecs (before.node event.1) event.2 (after.node event.1)
  others : ∀ other, other ≠ event.1 → after.node other = before.node other
  inFlight : ∃ remaining, Receives before.inFlight event.1 event.2.input remaining ∧
    after.inFlight = remaining ++ network.emitted event.1 event.2.exchanges
  assumed : Assumed network codecs (before.node event.1) event.2

end System

section Envelopes

variable {network : Network} {codecs : Codecs} {now : Instant}
  {engine after : TwoPhaseEngine} {input : Input}
  {exchanges : List Exchange} {sender : PeerId} {envelope : Envelope}

theorem mem_envelopes_iff (call : Call) : envelope ∈ network.envelopes sender call ↔
    envelope.message.originId = sender ∧
      (call = .sendTo envelope.destination envelope.message.message ∨
        call = .broadcast envelope.message.message ∧ envelope.destination ∈ network.nodes ∧
          envelope.destination ≠ sender) := by
  rcases envelope with ⟨destination, message, origin⟩
  cases call with
  | sendTo peer bytes =>
    simp only [Network.envelopes, List.mem_singleton, Envelope.mk.injEq,
      ConsensusMessage.mk.injEq, Call.sendTo.injEq]
    constructor
    · rintro ⟨rfl, rfl, rfl⟩
      exact ⟨rfl, Or.inl ⟨rfl, rfl⟩⟩
    · rintro ⟨rfl, ⟨rfl, rfl⟩ | ⟨different, _⟩⟩
      · exact ⟨rfl, rfl, rfl⟩
      · cases different
  | broadcast bytes =>
    simp only [Network.envelopes, List.mem_map, List.mem_filter,
      decide_eq_true_eq, Envelope.mk.injEq, ConsensusMessage.mk.injEq,
      Call.broadcast.injEq]
    constructor
    · rintro ⟨peer, ⟨member, other⟩, rfl, rfl, rfl⟩
      exact ⟨rfl, Or.inr ⟨rfl, member, other⟩⟩
    · rintro ⟨rfl, different | ⟨rfl, member, other⟩⟩
      · cases different
      · exact ⟨destination, ⟨member, other⟩, rfl, rfl, rfl⟩
  | _ => simp [Network.envelopes]

/-- Responses are sent by a verifier that evaluates the proposal, to its
coordinator, after the manager's verdict. -/
theorem response_of_mem_emitted {id : ProposalId} {response : ProposalVerificationResponse}
    (kept : engine.WellKept) (transition : Transition codecs now engine input exchanges after)
    (member : envelope ∈ network.emitted sender exchanges)
    (read : meaning codecs envelope.message.message = .response id response) :
    ∃ proposal, engine.state = .evaluatingProposal proposal ∧ proposal.proposalId = id ∧
      envelope.destination = proposal.coordinatorId ∧
      (response = .verified → input = .handleProposalUpdate (.proposalValid id) ∧
        responseCall codecs proposal.coordinatorId id .verified ∈ outgoing exchanges) := by
  obtain ⟨call, callMember, sent⟩ := List.mem_flatMap.mp member
  rw [mem_envelopes_iff] at sent
  have shape := transition.outgoing_cases kept
  generalize outgoing exchanges = calls at callMember shape ⊢
  cases shape with
  | nothing => cases callMember
  | request _ _ _ | result _ _ =>
    rw [List.mem_singleton] at callMember
    subst callMember
    simp only [requestCall, resultCall, reduceCtorEq, false_or, Call.broadcast.injEq] at sent
    rw [← sent.2.1] at read
    simp at read
  | verified evaluating _ valid _ =>
    rw [List.mem_singleton] at callMember
    subst callMember
    simp only [responseCall, Call.sendTo.injEq, reduceCtorEq, false_and, or_false] at sent
    rw [← sent.2.2, meaning_verificationResponse] at read
    cases read
    exact ⟨_, evaluating, rfl, sent.2.1.symm, fun _ => ⟨valid, List.mem_singleton.mpr rfl⟩⟩
  | failed evaluating _ _ _ =>
    rw [List.mem_singleton] at callMember
    subst callMember
    simp only [responseCall, Call.sendTo.injEq, reduceCtorEq, false_and, or_false] at sent
    rw [← sent.2.2, meaning_verificationResponse] at read
    cases read
    refine ⟨_, evaluating, rfl, sent.2.1.symm, fun verified => ?_⟩
    cases verified

theorem result_of_mem_emitted {id : ProposalId} {result : ProposalResult} (kept : engine.WellKept)
    (transition : Transition codecs now engine input exchanges after)
    (member : envelope ∈ network.emitted sender exchanges)
    (read : meaning codecs envelope.message.message = .result id result) :
    envelope.destination ≠ sender ∧ resultCall codecs id result ∈ outgoing exchanges := by
  obtain ⟨call, callMember, sent⟩ := List.mem_flatMap.mp member
  rw [mem_envelopes_iff] at sent
  have shape := transition.outgoing_cases kept
  generalize outgoing exchanges = calls at callMember shape ⊢
  cases shape with
  | nothing => cases callMember
  | request _ _ _ =>
    rw [List.mem_singleton] at callMember
    subst callMember
    simp only [requestCall, reduceCtorEq, false_or, Call.broadcast.injEq] at sent
    rw [← sent.2.1] at read
    simp at read
  | verified _ _ _ _ | failed _ _ _ _ =>
    rw [List.mem_singleton] at callMember
    subst callMember
    simp only [responseCall, Call.sendTo.injEq, reduceCtorEq, false_and, or_false] at sent
    rw [← sent.2.2] at read
    simp at read
  | result _ _ =>
    rw [List.mem_singleton] at callMember
    subst callMember
    simp only [resultCall, reduceCtorEq, false_or, Call.broadcast.injEq] at sent
    rw [← sent.2.1, meaning_resultMessage] at read
    cases read
    exact ⟨sent.2.2.2, List.mem_singleton.mpr rfl⟩

theorem emitted_pairwise (kept : engine.WellKept)
    (transition : Transition codecs now engine input exchanges after) :
    (network.emitted sender exchanges).Pairwise fun left right =>
      left.destination ≠ right.destination := by
  have single (call : Call) : (network.envelopes sender call).Pairwise fun left right =>
      left.destination ≠ right.destination := by
    cases call with
    | broadcast bytes => exact List.pairwise_map.mpr (network.distinct.filter _)
    | sendTo peer bytes => exact List.pairwise_singleton _ _
    | _ => exact List.Pairwise.nil
  have shape := transition.outgoing_cases kept
  rw [Network.emitted]
  generalize outgoing exchanges = calls at shape ⊢
  cases shape with
  | nothing => exact List.Pairwise.nil
  | request _ _ _ | verified _ _ _ _ | failed _ _ _ _ | result _ _ =>
    rw [List.flatMap_singleton]
    exact single _

end Envelopes

end Splinter.TwoPhase
