import Splinter.Services.PendingChange
import Splinter.Services.Relay
import Splinter.TwoPhase.Completeness

/-!
# Whose votes an engine counts

The engine counts a VERIFIED response for the origin that its consensus message
names; nobody compares the origin with the sender of the service message that
carried it.
-/

namespace Splinter.Services

open Library Service Consensus TwoPhase TwoPhaseEngine Participant
open Admin (AdminService)
open ScabbardService (Scabbard entryBatch workingStorage)

variable {Service Operation : Type} {codecs : TwoPhase.Codecs}

/-- The peer that is added to the verified peers because the input is a VERIFIED
response. -/
def countedVoter (codecs : TwoPhase.Codecs) (engine : TwoPhaseEngine)
    (input : Input) : Option PeerId :=
  match input, engine.state with
  | .handleConsensusMsg message, .evaluatingProposal proposal =>
    if meaning codecs message.message =
      .response proposal.proposalId .verified then
      some message.originId
    else
      none
  | _, _ => none

theorem countedVoter_eq_some_iff {engine : TwoPhaseEngine} {input : Input} {voter : PeerId} :
    countedVoter codecs engine input = some voter ↔
      ∃ proposal message, engine.state = .evaluatingProposal proposal ∧
        input = .handleConsensusMsg message ∧
        meaning codecs message.message = .response proposal.proposalId .verified ∧
        message.originId = voter := by
  unfold countedVoter
  split
  · rename_i message proposal evaluating
    simp [evaluating]
  · rename_i other
    simp only [reduceCtorEq, false_iff, not_exists]
    rintro proposal message ⟨evaluating, received, _⟩
    exact other message proposal received evaluating

/-- While a proposal is evaluated, the peers that a message adds to the verified ones are those
that are counted. -/
theorem verified_iff_countedVoter {now : Instant} {engine after : TwoPhaseEngine}
    {message : ConsensusMessage} {exchanges : List Exchange} {proposal next : TwoPhaseProposal}
    {voter : PeerId} (kept : engine.WellKept)
    (transition : Transition codecs now engine (.handleConsensusMsg message) exchanges after)
    (evaluating : engine.state = .evaluatingProposal proposal)
    (still : after.state = .evaluatingProposal next) (unverified : voter ∉ proposal.peersVerified) :
    voter ∈ next.peersVerified ↔
      countedVoter codecs engine (.handleConsensusMsg message) = some voter := by
  rw [countedVoter_eq_some_iff]
  constructor
  · intro verified
    rcases transition.state_cases still with
      unchanged | ⟨earlier, counted, counting, rfl, votes⟩ | ⟨_, source⟩
    · cases unchanged.symm.trans evaluating
      exact absurd verified unverified
    · cases counting.symm.trans evaluating
      rcases votes with ⟨_, received, response, rfl⟩ | ⟨impossible, _⟩
      · rcases Finset.mem_insert.mp verified with rfl | already
        · exact ⟨proposal, _, evaluating, received, response, rfl⟩
        · exact absurd already unverified
      · cases impossible
    · rw [unvoted_of_source kept source] at verified
      exact absurd verified (Finset.notMem_empty voter)
  · rintro ⟨_, _, counting, received, response, rfl⟩
    cases counting.symm.trans evaluating
    rcases transition.of_vote evaluating (Or.inl ⟨_, received, response, rfl⟩) with
      ⟨_, _, completion⟩ | ⟨counted, _⟩
    · cases completion with
      | refused _ =>
        cases still
        exact Finset.mem_insert_self _ _
      | announced _ => cases still
    · cases counted.symm.trans still
      exact Finset.mem_insert_self _ _

namespace Relay

variable {host : Host Service Operation} (relay : Relay host)

/-- A service message with a VERIFIED response names its sender as the origin
of the response. -/
def Authentic (codecs : TwoPhase.Codecs) (_ : Participant Service)
    (event : Event Operation) : Prop :=
  ∀ operation context message id, event = .operation operation →
    relay.carried operation = some (context, message) →
    meaning codecs message.message = .response id .verified →
    message.originId = ⟨asBytes context.sender⟩

/-- Every vote that is counted has been carried by an earlier service message,
and the voter is the sender of that message. -/
def VotesOfSenders (codecs : TwoPhase.Codecs)
    (path : List (Participant Service × Event Operation)) : Prop :=
  ∀ earlier participant record later voter,
    path = earlier ++ (participant, .engine record) :: later →
      countedVoter codecs participant.engine record.input = some voter →
      ∃ visited ∈ earlier, ∃ operation context message, visited.2 = .operation operation ∧
        relay.carried operation = some (context, message) ∧
        record.input = .handleConsensusMsg message ∧
        voter = ⟨asBytes context.sender⟩

theorem votesOfSenders_of_authentic {first last : Participant Service}
    {path : List (Participant Service × Event Operation)}
    (run : Run (Participant.Step codecs host) first path last)
    (empty : host.queued first.service = []) (authentic : Run.Meets (relay.Authentic codecs) path) :
    relay.VotesOfSenders codecs path := by
  intro earlier participant record later voter split counted
  obtain ⟨proposal, message, _, input, verified, origin⟩ := countedVoter_eq_some_iff.mp counted
  obtain ⟨before, next, _, channels, remaining, connected, received, _⟩ := run.cut split
  rw [input] at received
  obtain ⟨context, waiting⟩ := receive_message received
  have queued : (context, message) ∈ host.queued participant.service := by
    unfold Host.queued messagesIn
    rw [connected]
    dsimp only
    rw [waiting]
    exact List.mem_cons_self
  obtain ⟨visited, member, operation, shape, carried⟩ := relay.carried_of_queued before empty queued
  have met : visited ∈ path := by
    rw [split]
    exact List.mem_append_left _ member
  have named := authentic visited met operation context message _ shape carried verified
  exact
    ⟨visited, member, operation, context, message, shape, carried, input, origin.symm.trans named⟩

end Relay

/-- In the runs of both services in which every service message with a VERIFIED
response names its sender as the origin, a vote is only counted for the sender
of the message that carried it. -/
theorem votes_counted_for_senders
    (adminFormats : Admin.Formats) (scabbardFormats : ScabbardService.Formats)
    (codecs : TwoPhase.Codecs) (timeout : Nat) (now : Instant) :
    (∀ peers nodeId openProposals splinterState path last, Run
          (Participant.Step adminFormats.twoPhase (AdminService.host adminFormats))
          (AdminService.started timeout now peers nodeId openProposals splinterState)
          path last →
        Run.Meets ((adminRelay adminFormats).Authentic adminFormats.twoPhase) path →
        (adminRelay adminFormats).VotesOfSenders adminFormats.twoPhase path) ∧
      ∀ serviceId circuitId peerServices stateRoot path last, Run
            (Participant.Step codecs (Scabbard.host scabbardFormats))
            (Scabbard.started timeout now serviceId circuitId peerServices stateRoot)
            path last →
          Run.Meets ((scabbardRelay scabbardFormats).Authentic codecs) path →
          (scabbardRelay scabbardFormats).VotesOfSenders codecs path := by
  constructor
  · intro peers nodeId openProposals splinterState path last run authentic
    exact Relay.votesOfSenders_of_authentic _ run rfl authentic
  · intro serviceId circuitId peerServices stateRoot path last run authentic
    exact Relay.votesOfSenders_of_authentic _ run rfl authentic

section Runs

variable {host : Host Service Operation} (relay : Relay host)

/-- A step that carries no message with an origin other than its sender. -/
def namesSender (step : Participant Service × Event Operation) : Bool :=
  match step.2 with
  | .operation operation =>
    match relay.carried operation with
    | some (context, message) => message.originId = ⟨asBytes context.sender⟩
    | none => true
  | .engine _ => true

variable {path : List (Participant Service × Event Operation)}

theorem meets_authentic_of_namesSender (named : path.all (namesSender relay) = true) :
    Run.Meets (relay.Authentic codecs) path := by
  rintro ⟨participant, event⟩ visited operation context message id shape carried _
  have step := List.all_eq_true.mp named _ visited
  subst shape
  simp only [namesSender, carried] at step
  exact of_decide_eq_true step

def countsVote (codecs : TwoPhase.Codecs) (voter : PeerId)
    (step : Participant Service × Event Operation) : Bool :=
  match step.2 with
  | .engine record => countedVoter codecs step.1.engine record.input = some voter
  | .operation _ => false

def notSentBy (sender : String) (step : Participant Service × Event Operation) : Bool :=
  match step.2 with
  | .operation operation =>
    match relay.carried operation with
    | some (context, _) => context.sender ≠ sender
    | none => true
  | .engine _ => true

theorem not_votesOfSenders_of_forged {sender : String}
    (counted : path.any (countsVote codecs ⟨asBytes sender⟩) = true)
    (unsent : path.all (notSentBy relay sender) = true) :
    ¬ relay.VotesOfSenders codecs path := by
  intro votes
  obtain ⟨⟨participant, event⟩, member, counts⟩ := List.any_eq_true.mp counted
  obtain ⟨earlier, later, split⟩ := List.append_of_mem member
  cases event with
  | operation operation => cases counts
  | engine record =>
    obtain ⟨visited, before, operation, context, message, shape, carried, _, same⟩ :=
      votes earlier participant record later _ split (of_decide_eq_true counts)
    have met : visited ∈ path := by
      rw [split]
      exact List.mem_append_left _ before
    have step := List.all_eq_true.mp unsent _ met
    simp only [notSentBy, shape, carried] at step
    injection same with bytes
    exact of_decide_eq_true step (asBytes_injective bytes).symm

end Runs

/-- Node `a` proposes a circuit of its own with the given nodes, and finds it
valid. -/
def proposing (nodes : List String) : List (Stimulus AdminService.Operation) :=
  [.operation
    (.submitCircuitChange .working
      (Admin.createPayload (Admin.simpleCircuit "p" nodes) (asBytes "a") "a" [1])),
    .engine 0 fun _ => some .getNextProposal, nextUpdate 0, nextUpdate 0]

def nodeA : Participant AdminService := AdminService.started 30 0 [] "a" .new (.new .new)

/-- A VERIFIED response for the proposal of node `a`. -/
def verified (nodes : List String) : TwoPhaseMessage := verificationResponse
    (proposalIdOf (Admin.createPayload (Admin.simpleCircuit "p" nodes) (asBytes "a") "a" [1]))
    .verified

/-- Node `b` sends a vote that names node `c` as its origin. -/
theorem forged_vote_counted : ∃ path last,
      Run (Participant.Step .protobuf (AdminService.host .standard)) nodeA path last ∧
        ¬ (adminRelay .standard).VotesOfSenders .protobuf path := by
  have played : plays .protobuf workingAdmin nodeA
      (proposing ["a", "b", "c"] ++
        [told "b" (envelope "c" (verified ["a", "b", "c"])), nextMessage 0])
      (fun path _ =>
        path.any (countsVote .protobuf ⟨asBytes "admin::c"⟩) &&
          path.all (notSentBy (adminRelay .standard) "admin::c")) =
        true := by
    decide +kernel
  obtain ⟨path, last, run, checked⟩ := exists_run _ _ played
  obtain ⟨counted, unsent⟩ := Bool.and_eq_true_iff.mp checked
  exact ⟨path, last, run, not_votesOfSenders_of_forged _ counted unsent⟩

/-- Service `x` proposes a batch, and finds it valid. -/
def proposingEntry : List (Stimulus Scabbard.Operation) :=
  [.operation (.addBatches workingStorage [entryBatch 1]),
    .engine 0 fun _ => some .getNextProposal, nextUpdate 0, nextUpdate 0]

def participantX : Participant Scabbard :=
  Scabbard.started 30 0 "x" "circuit" ["y"] "00"

/-- Service `y` votes for the batch of `x`. -/
def voteOfY : Stimulus Scabbard.Operation := .operation
    (.handleMessage ⟨"y", "circuit", ""⟩
      (serviceY.service.consensusEnvelope entryBatches
        (Codecs.protobuf.twoPhaseMessage.write
          (verificationResponse (Scabbard.consensusProposal "0a").id .verified))))

/-- Both services count an authentic vote. -/
theorem authentic_votes_counted :
    (∃ path last, Run (Participant.Step .protobuf (AdminService.host .standard)) nodeA path last ∧
        path.any (countsVote .protobuf ⟨asBytes "admin::b"⟩) = true ∧
        (adminRelay .standard).VotesOfSenders .protobuf path) ∧
      ∃ path last, Run (Participant.Step .protobuf (Scabbard.host entryBatches))
            participantX path last ∧
          path.any (countsVote .protobuf ⟨asBytes "y"⟩) = true ∧
          (scabbardRelay entryBatches).VotesOfSenders .protobuf path := by
  have senders := votes_counted_for_senders .standard entryBatches .protobuf 30 0
  constructor
  · have played : plays .protobuf workingAdmin nodeA
        (proposing ["a", "b"] ++ [told "b" (envelope "b" (verified ["a", "b"])), nextMessage 0])
        (fun path _ =>
          path.any (countsVote .protobuf ⟨asBytes "admin::b"⟩) &&
            path.all (namesSender (adminRelay .standard))) =
          true := by
      decide +kernel
    obtain ⟨path, last, run, checked⟩ := exists_run _ _ played
    obtain ⟨counted, named⟩ := Bool.and_eq_true_iff.mp checked
    refine ⟨path, last, run, counted, ?_⟩
    exact senders.1 _ _ _ _ path last run (meets_authentic_of_namesSender _ named)
  · have played : plays .protobuf workingScabbard participantX
        (proposingEntry ++ [voteOfY, nextMessage 0])
        (fun path _ =>
          path.any (countsVote .protobuf ⟨asBytes "y"⟩) &&
            path.all (namesSender (scabbardRelay entryBatches))) =
          true := by
      decide +kernel
    obtain ⟨path, last, run, checked⟩ := exists_run _ _ played
    obtain ⟨counted, named⟩ := Bool.and_eq_true_iff.mp checked
    refine ⟨path, last, run, counted, ?_⟩
    exact senders.2 _ _ _ _ path last run (meets_authentic_of_namesSender _ named)

end Splinter.Services
