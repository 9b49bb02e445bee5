import Splinter.Library.Effect
import Splinter.Service.Types
import Splinter.TwoPhase.Engine

/-!
# The connection between a service and its engine

A service that embeds an engine sends it consensus messages and proposal
updates on two channels, and answers its calls with the outcome of a method.
-/

namespace Splinter.Service

open Library Consensus
open TwoPhase.TwoPhaseEngine (Input)

/-- What has been sent and not received yet.  A consensus message is kept
together with the context of the service message it arrived in, which the
engine does not see. -/
structure Channels where
  consensusMessages : List (ServiceMessageContext × ConsensusMessage)
  proposalUpdates : List ProposalUpdate
  deriving DecidableEq

namespace Channels

def sendMessage (context : ServiceMessageContext) (message : ConsensusMessage)
    (channels : Channels) : Channels :=
  { channels with consensusMessages := channels.consensusMessages ++ [(context, message)] }

def sendUpdate (update : ProposalUpdate) (channels : Channels) : Channels :=
  { channels with proposalUpdates := channels.proposalUpdates ++ [update] }

/-- The channels after the engine has received an input from them, if it can
be received.  The other inputs of the engine do not come from a channel. -/
def receive (input : Input) (channels : Channels) : Option Channels :=
  match input with
  | .handleConsensusMsg message =>
    match channels.consensusMessages with
    | (_, first) :: rest =>
      if first = message then some { channels with consensusMessages := rest } else none
    | [] => none
  | .handleProposalUpdate update =>
    match channels.proposalUpdates with
    | first :: rest =>
      if first = update then some { channels with proposalUpdates := rest } else none
    | [] => none
  | _ => some channels

variable {channels remaining : Channels}

theorem proposalUpdates_of_receive {input : Input}
    (received : channels.receive input = some remaining) :
    remaining.proposalUpdates ⊆ channels.proposalUpdates := by
  unfold receive at received
  grind

theorem mem_of_receive_update {update : ProposalUpdate}
    (received : channels.receive (.handleProposalUpdate update) = some remaining) :
    update ∈ channels.proposalUpdates := by
  unfold receive at received
  grind

end Channels

section Answer

variable {Failure State : Type}

/-- The answer of a method to a call of the engine. -/
def answer (convert : Failure → ConsensusEngineError)
    (program : EStateM Failure State Unit) (state : State) : Answer × State :=
  match program.run state with
  | .ok _ after => (.ok (), after)
  | .error failure after => (.error (convert failure), after)

variable {convert : Failure → ConsensusEngineError}
  {program : EStateM Failure State Unit} {before after : State}
  {returned : Unit → State → Prop} {failed : Failure → State → Prop}

theorem returned_of_answer (ends : Ends program before returned failed)
    (answered : answer convert program before = (.ok (), after)) :
    returned () after := by
  unfold Ends at ends
  unfold answer at answered
  cases ran : program.run before with
  | ok _ reached =>
    simp only [ran, Prod.mk.injEq] at ends answered
    rw [← answered.2]
    exact ends
  | error failure reached => simp [ran] at answered

theorem failed_of_answer {error : ConsensusEngineError} (ends : Ends program before returned failed)
    (answered : answer convert program before = (.error error, after)) :
    ∃ failure, failed failure after := by
  unfold Ends at ends
  unfold answer at answered
  cases ran : program.run before with
  | ok _ reached => simp [ran] at answered
  | error failure reached =>
    simp only [ran, Prod.mk.injEq] at ends answered
    rw [← answered.2]
    exact ⟨failure, ends⟩

theorem holds_of_answer {given : Answer} {holds : State → Prop}
    (ends : Ends program before (fun _ => holds) fun _ => holds)
    (answered : answer convert program before = (given, after)) :
    holds after := by
  cases given with
  | ok _ => exact returned_of_answer ends answered
  | error error =>
    obtain ⟨_, held⟩ := failed_of_answer ends answered
    exact held

theorem view_of_answer {View : Type} {view : State → View} {value : View} {given : Answer}
    (ends : EndsIn program before fun reached => view reached = value)
    (answered : answer convert program before = (given, after)) :
    view after = value := by
  have held := holds_of_answer ends answered
  exact held

theorem kept_of_answer {View : Type} {view : State → View} {given : Answer}
    (keeps : Keeps view program) (answered : answer convert program before = (given, after)) :
    view after = view before :=
  view_of_answer (keeps before) answered

end Answer

end Splinter.Service
