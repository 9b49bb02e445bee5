import Splinter.Services.Participant

/-!
# Executing a service with its engine

When the answers and the operations of a host are computed by functions, its
runs can be computed from the inputs of the engine and the operations.
-/

namespace Splinter.Services

open Library
open Service (Channels)
open Consensus TwoPhase TwoPhaseEngine

variable {Service Operation : Type}

structure Responder (host : Host Service Operation) where
  respond : Call → Service → Option (Answer × Service)
  operate : Operation → Service → Service
  answers : ∀ {call before answer after}, respond call before = some (answer, after) →
    host.Answers call before answer after
  operates : ∀ operation before, host.Operates operation before (operate operation before)

/-- What makes a participant move.  The input of the engine may depend on what
is in its channels. -/
inductive Stimulus (Operation : Type) where
  | engine (now : Instant) (input : Channels → Option Input)
  | operation (operation : Operation)

def nextMessage (now : Instant) : Stimulus Operation := .engine now fun channels =>
    channels.consensusMessages.head?.map fun sent => .handleConsensusMsg sent.2

def nextUpdate (now : Instant) : Stimulus Operation := .engine now fun channels =>
    channels.proposalUpdates.head?.map .handleProposalUpdate

variable {host : Host Service Operation} (codecs : TwoPhase.Codecs) (responder : Responder host)

def Participant.advance (participant : Participant Service) :
    Stimulus Operation → Option (Event Operation × Participant Service)
  | .operation operation =>
    some
      (.operation operation, ⟨participant.engine, responder.operate operation participant.service⟩)
  | .engine now chosen => do
    let channels ← host.channels participant.service
    let input ← chosen channels
    let remaining ← channels.receive input
    let executed ← Interaction.exec responder.respond
      (handle codecs now input participant.engine)
      (host.withChannels remaining participant.service)
    some (.engine ⟨now, input, executed.1⟩, ⟨executed.2.1.2, executed.2.2⟩)

variable {stimulus : Stimulus Operation} {path : List (Participant Service × Event Operation)}

theorem Participant.step_of_advance {before after : Participant Service} {event : Event Operation}
    (advanced : before.advance codecs responder stimulus = some (event, after)) :
    before.Step codecs host event after := by
  cases stimulus with
  | operation operation =>
    cases advanced
    exact ⟨rfl, responder.operates operation before.service⟩
  | engine now chosen =>
    simp only [advance, Option.bind_eq_bind, Option.bind_eq_some_iff] at advanced
    obtain ⟨channels, connected, input, _, remaining, received,
      ⟨exchanges, outcome, service⟩, executed, same⟩ := advanced
    cases same
    obtain ⟨trace, answered⟩ := Interaction.exec_trace executed
    refine ⟨⟨outcome.1, trace⟩, channels, remaining, connected, received, ?_⟩
    exact answered.mono fun _ _ _ _ => responder.answers

def Participant.play (participant : Participant Service) : List (Stimulus Operation) → Option
    (List (Participant Service × Event Operation) × Participant Service)
  | [] => some ([], participant)
  | stimulus :: stimuli =>
    match participant.advance codecs responder stimulus with
    | none => none
    | some (event, next) =>
      match next.play stimuli with
      | none => none
      | some (path, last) => some ((participant, event) :: path, last)

variable {first : Participant Service} {stimuli : List (Stimulus Operation)}

theorem Participant.run_of_play {last : Participant Service}
    (played : first.play codecs responder stimuli = some (path, last)) :
    Run (Participant.Step codecs host) first path last := by
  induction stimuli generalizing first path with
  | nil =>
    cases played
    exact Run.start
  | cons stimulus stimuli ih =>
    unfold play at played
    split at played
    · cases played
    · rename_i event next advanced
      split at played
      · cases played
      · rename_i rest reached continued
        cases played
        exact Run.cons (step_of_advance codecs responder advanced) (ih continued)

/-- The stimuli cause a run of which something can be checked. -/
def Participant.plays (first : Participant Service) (stimuli : List (Stimulus Operation))
    (check : List (Participant Service × Event Operation) → Participant Service → Bool) :
    Bool :=
  match first.play codecs responder stimuli with
  | none => false
  | some (path, last) => check path last

theorem Participant.exists_run
    {check : List (Participant Service × Event Operation) → Participant Service → Bool}
    (played : first.plays codecs responder stimuli check = true) :
    ∃ path last, Run (Participant.Step codecs host) first path last ∧ check path last = true := by
  unfold plays at played
  cases reached : first.play codecs responder stimuli with
  | none =>
    rw [reached] at played
    cases played
  | some outcome =>
    rw [reached] at played
    exact ⟨outcome.1, outcome.2, run_of_play codecs responder reached, played⟩

/-- Whether stimuli lead to a step of which something can be checked. -/
def Participant.reaches (first : Participant Service)
    (stimuli : List (Stimulus Operation)) (stimulus : Stimulus Operation)
    (check : Participant Service → Event Operation → Participant Service → Bool) :
    Bool :=
  first.plays codecs responder stimuli fun _ last =>
    match last.advance codecs responder stimulus with
    | none => false
    | some (event, next) => check last event next

theorem Participant.exists_step
    {check : Participant Service → Event Operation → Participant Service → Bool}
    (reached : first.reaches codecs responder stimuli stimulus check = true) :
    ∃ path before event after, Run (Participant.Step codecs host) first path before ∧
      before.Step codecs host event after ∧
      check before event after = true := by
  obtain ⟨path, before, run, checked⟩ := Participant.exists_run codecs responder reached
  split at checked
  · cases checked
  · rename_i event after advanced
    exact ⟨path, before, event, after, run, step_of_advance codecs responder advanced, checked⟩

/-! ## In fixed surroundings -/

variable {Around : Type} {hosts : Around → Host Service Operation} {around : Around}

/-- A path of events, all in the same surroundings. -/
def Participant.situate (around : Around) (path : List (Participant Service × Event Operation)) :
    List (Participant Service × (Around × Event Operation)) :=
  path.map fun visited => (visited.1, around, visited.2)

theorem Participant.exists_situated_run {responder : Responder (hosts around)}
    {check : List (Participant Service × Event Operation) → Participant Service → Bool}
    (played : first.plays codecs responder stimuli check = true) :
    ∃ path last, Run (Participant.SituatedStep codecs hosts) first (situate around path) last ∧
      check path last = true := by
  obtain ⟨path, last, run, checked⟩ := exists_run codecs responder played
  exact ⟨path, last, run.relabel _ fun _ _ _ taken => taken, checked⟩

/-- Neither a result is received nor a proposal accepted. -/
def quiet (record : Record) : Bool :=
  (match record.input with
    | .handleConsensusMsg message =>
      match meaning codecs message.message with
      | .result _ _ => false
      | _ => true
    | _ => true) &&
    record.exchanges.all fun exchange =>
      match exchange.1 with
      | .acceptProposal _ _ => false
      | _ => true

/-- A quiet step, or an operation while nothing is evaluated. -/
def quietStep (step : Participant Service × Event Operation) : Bool :=
  match step.2 with
  | .engine record => quiet codecs record
  | .operation _ =>
    match step.1.engine.state with
    | .evaluatingProposal _ => false
    | _ => true

variable {codecs}

theorem meets_undisturbed_of_quiet (slotted : Slotted hosts) (around : Around)
    (quietly : path.all (quietStep codecs) = true) :
    Run.Meets (slotted.Undisturbed codecs) (Participant.situate around path) := by
  intro visited member proposal evaluating
  obtain ⟨⟨participant, event⟩, met, rfl⟩ := List.mem_map.mp member
  have step := List.all_eq_true.mp quietly _ met
  cases event with
  | engine record =>
    obtain ⟨received, calls⟩ := Bool.and_eq_true_iff.mp step
    constructor
    · intro message other handled rejected
      simp [handled, rejected] at received
    · intro answer accepts
      cases List.all_eq_true.mp calls _ accepts
  | operation operation =>
    have current : participant.engine.state = _ := evaluating
    simp only [quietStep, current] at step
    cases step

end Splinter.Services
