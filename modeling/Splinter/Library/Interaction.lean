import Mathlib.Logic.Basic

/-!
# Programs that interact with their surroundings

A program returns a result or asks one question and resumes with the answer.  A
*trace* lists questions with any answers that lead to a result; in an *execution* a
stateful responder answers.  `exec_trace` turns an execution into a trace.
-/

namespace Splinter.Library

/-- A finite program over questions of type `Request` with answers of type
`Answer`. -/
inductive Interaction (Request Answer Result : Type) where
  | done (result : Result)
  | ask (request : Request) (resume : Answer → Interaction Request Answer Result)

namespace Interaction

variable {Request Answer Result Surroundings : Type}

/-- The exchanges that lead a program to a result, under arbitrary answers. -/
inductive Trace :
    Interaction Request Answer Result → List (Request × Answer) → Result → Prop
  | done (result : Result) : Trace (.done result) [] result
  | ask {request : Request} {resume : Answer → Interaction Request Answer Result}
    {answer : Answer} {rest : List (Request × Answer)} {result : Result} :
    Trace (resume answer) rest result →
    Trace (.ask request resume) ((request, answer) :: rest) result

@[simp]
theorem trace_done_iff (given result : Result) (exchanges : List (Request × Answer)) :
    Trace (.done given) exchanges result ↔ exchanges = [] ∧ result = given := by
  constructor
  · intro trace
    cases trace
    exact ⟨rfl, rfl⟩
  · rintro ⟨rfl, rfl⟩
    exact Trace.done _

@[simp]
theorem trace_ask_iff (request : Request) (resume : Answer → Interaction Request Answer Result)
    (exchanges : List (Request × Answer)) (result : Result) :
    Trace (.ask request resume) exchanges result ↔ ∃ answer rest,
      exchanges = (request, answer) :: rest ∧ Trace (resume answer) rest result := by
  constructor
  · intro trace
    cases trace with
    | ask remaining => exact ⟨_, _, rfl, remaining⟩
  · rintro ⟨answer, rest, rfl, remaining⟩
    exact Trace.ask remaining

def map {Outcome : Type} (change : Result → Outcome) :
    Interaction Request Answer Result → Interaction Request Answer Outcome
  | .done result => .done (change result)
  | .ask request resume => .ask request fun answer => (resume answer).map change

@[simp]
theorem trace_map_iff {Outcome : Type} (change : Result → Outcome)
    (program : Interaction Request Answer Result)
    (exchanges : List (Request × Answer)) (outcome : Outcome) :
    Trace (program.map change) exchanges outcome ↔
      ∃ result, Trace program exchanges result ∧ outcome = change result := by
  induction program generalizing exchanges with
  | done given => simp [map, and_assoc]
  | ask request resume ih =>
    simp only [map, trace_ask_iff, ih]
    constructor
    · rintro ⟨answer, rest, shape, result, remaining, same⟩
      exact ⟨result, ⟨answer, rest, shape, remaining⟩, same⟩
    · rintro ⟨result, ⟨answer, rest, shape, remaining⟩, same⟩
      exact ⟨answer, rest, shape, result, remaining, same⟩

/-- Answer every question by a fixed rule, and keep the exchanges. -/
def play (answer : Request → Answer) :
    Interaction Request Answer Result → List (Request × Answer) × Result
  | .done result => ([], result)
  | .ask request resume =>
    let played := play answer (resume (answer request))
    ((request, answer request) :: played.1, played.2)

theorem play_trace (answer : Request → Answer) (program : Interaction Request Answer Result) :
    Trace program (play answer program).1 (play answer program).2 := by
  induction program with
  | done result => exact Trace.done result
  | ask request resume ih => exact Trace.ask (ih (answer request))

theorem answer_of_mem_play {answer : Request → Answer} {program : Interaction Request Answer Result}
    {request : Request} {given : Answer} (member : (request, given) ∈ (play answer program).1) :
    given = answer request := by
  induction program with
  | done result => cases member
  | ask asked resume ih =>
    rcases List.mem_cons.mp member with same | later
    · cases same
      rfl
    · exact ih _ later

/-- The exchanges a responder takes part in, from one of its states to
another. -/
inductive Answered
    (respond : Request → Surroundings → Answer → Surroundings → Prop) :
    Surroundings → List (Request × Answer) → Surroundings → Prop
  | nil (surroundings : Surroundings) : Answered respond surroundings [] surroundings
  | cons {request : Request} {answer : Answer} {before between after : Surroundings}
    {rest : List (Request × Answer)} :
    respond request before answer between →
    Answered respond between rest after →
    Answered respond before ((request, answer) :: rest) after

section

variable (respond : Request → Surroundings → Answer → Surroundings → Prop)
include respond

variable (before after : Surroundings)

@[simp]
theorem answered_nil_iff : Answered respond before [] after ↔ after = before := by
  constructor
  · intro answered
    cases answered
    rfl
  · rintro rfl
    exact Answered.nil _

@[simp]
theorem answered_cons_iff (request : Request) (answer : Answer) (rest : List (Request × Answer)) :
    Answered respond before ((request, answer) :: rest) after ↔
      ∃ between, respond request before answer between ∧ Answered respond between rest after := by
  constructor
  · intro answered
    cases answered with
    | cons responded remaining => exact ⟨_, responded, remaining⟩
  · rintro ⟨between, responded, remaining⟩
    exact Answered.cons responded remaining

theorem answered_singleton_iff (request : Request) (answer : Answer) :
    Answered respond before [(request, answer)] after ↔ respond request before answer after := by
  rw [answered_cons_iff]
  constructor
  · rintro ⟨between, responded, rest⟩
    rw [answered_nil_iff] at rest
    rw [rest]
    exact responded
  · intro responded
    exact ⟨after, responded, Answered.nil after⟩

theorem answered_append_iff (earlier later : List (Request × Answer)) :
    Answered respond before (earlier ++ later) after ↔
      ∃ between, Answered respond before earlier between ∧
        Answered respond between later after := by
  induction earlier generalizing before with
  | nil => simp
  | cons exchange earlier ih =>
    obtain ⟨request, answer⟩ := exchange
    simp only [List.cons_append, answered_cons_iff, ih]
    constructor
    · rintro ⟨first, responded, between, remaining, last⟩
      exact ⟨between, ⟨first, responded, remaining⟩, last⟩
    · rintro ⟨between, ⟨first, responded, remaining⟩, last⟩
      exact ⟨first, responded, between, remaining, last⟩

end

variable {respond : Request → Surroundings → Answer → Surroundings → Prop}
  {before after : Surroundings} {exchanges : List (Request × Answer)}

theorem Answered.mono {weaker : Request → Surroundings → Answer → Surroundings → Prop}
    (answered : Answered respond before exchanges after)
    (weakens : ∀ request before answer after, respond request before answer after →
      weaker request before answer after) :
    Answered weaker before exchanges after := by
  induction answered with
  | nil _ => exact Answered.nil _
  | cons responded _ ih => exact Answered.cons (weakens _ _ _ _ responded) ih

theorem Answered.project {View : Type} {seen : Request → View → Answer → View → Prop}
    (view : Surroundings → View) (answered : Answered respond before exchanges after)
    (projects : ∀ request before answer after, respond request before answer after →
      seen request (view before) answer (view after)) :
    Answered seen (view before) exchanges (view after) := by
  induction answered with
  | nil _ => exact Answered.nil _
  | cons responded _ ih => exact Answered.cons (projects _ _ _ _ responded) ih

theorem Answered.guarded (holds : Surroundings → Prop) (allowed : Request → Prop)
    (answered : Answered respond before exchanges after)
    (requests : ∀ exchange ∈ exchanges, allowed exchange.1)
    (kept : ∀ request answer before after, allowed request →
      respond request before answer after → holds before → holds after)
    (initially : holds before) :
    holds after := by
  induction answered with
  | nil _ => exact initially
  | cons responded _ ih =>
    obtain ⟨first, rest⟩ := List.forall_mem_cons.mp requests
    exact ih rest (kept _ _ _ _ first responded initially)

theorem Answered.invariant {holds : Surroundings → Prop}
    (answered : Answered respond before exchanges after)
    (kept : ∀ request answer before after, respond request before answer after →
      holds before → holds after)
    (initially : holds before) :
    holds after :=
  answered.guarded holds (fun _ => True) (fun _ _ => trivial)
    (fun _ _ _ _ _ => kept _ _ _ _) initially

/-- Let a stateful responder answer every question of the program, and keep
the exchanges.  The execution has no outcome when the responder gives no
answer. -/
def exec (respond : Request → Surroundings → Option (Answer × Surroundings)) :
    Interaction Request Answer Result → Surroundings →
      Option (List (Request × Answer) × Result × Surroundings)
  | .done result, surroundings => some ([], result, surroundings)
  | .ask request resume, surroundings =>
    match respond request surroundings with
    | none => none
    | some (answer, between) =>
      match exec respond (resume answer) between with
      | none => none
      | some (rest, outcome) => some ((request, answer) :: rest, outcome)

/-- Every execution is a trace, and the answers on that trace are the ones the
responder gave while its state changed accordingly. -/
theorem exec_trace {respond : Request → Surroundings → Option (Answer × Surroundings)}
    {program : Interaction Request Answer Result} {result : Result}
    (executed : exec respond program before = some (exchanges, result, after)) :
    Trace program exchanges result ∧ Answered
      (fun request surroundings answer next =>
        respond request surroundings = some (answer, next))
      before exchanges after := by
  induction program generalizing before exchanges with
  | done given =>
    simp only [exec, Option.some.injEq, Prod.mk.injEq] at executed
    obtain ⟨rfl, rfl, rfl⟩ := executed
    exact ⟨Trace.done _, Answered.nil _⟩
  | ask request resume ih =>
    simp only [exec] at executed
    split at executed
    · cases executed
    · rename_i answer between responded
      split at executed
      · cases executed
      · rename_i rest outcome continued
        simp only [Option.some.injEq, Prod.mk.injEq] at executed
        obtain ⟨rfl, rfl⟩ := executed
        obtain ⟨trace, answered⟩ := ih answer continued
        exact ⟨Trace.ask trace, Answered.cons responded answered⟩

end Interaction

end Splinter.Library
