import Mathlib.Logic.Function.Basic
import Splinter.Library.Run

/-!
# Components that take steps in any order

One component moves at a time; an invariant of the components is kept if the
moving component keeps it.  `Interleaved.play` computes a run.
-/

namespace Splinter.Library

variable {Index State Label : Type} {step : Index → State → Label → State → Prop}

/-- One component takes a step and the others do not change. -/
def Interleaved (step : Index → State → Label → State → Prop)
    (before : Index → State) (label : Index × Label) (after : Index → State) : Prop :=
  step label.1 (before label.1) label.2 (after label.1) ∧
    ∀ other, other ≠ label.1 → after other = before other

namespace Interleaved

theorem preserves {holds : Index → State → Prop} {before after : Index → State}
    {label : Index × Label} (taken : Interleaved step before label after)
    (held : ∀ index, holds index (before index)) (kept : holds label.1 (after label.1)) :
    ∀ index, holds index (after index) := by
  intro index
  by_cases moving : index = label.1
  · rw [moving]
    exact kept
  · rw [taken.2 index moving]
    exact held index

variable (holds : Index → State → Prop)

theorem guarded (guard : Index → State → Label → Prop) {first last : Index → State}
    {path : List ((Index → State) × (Index × Label))} (run : Run (Interleaved step) first path last)
    (initially : ∀ index, holds index (first index))
    (preserved : ∀ index before label after, holds index before →
      guard index before label → step index before label after →
      holds index after)
    (meets : Run.Meets (fun state label => guard label.1 (state label.1) label.2) path) :
    ∀ index, holds index (last index) := by
  have throughout : Run.Throughout (fun state => ∀ index, holds index (state index)) path last := by
    refine run.guarded initially ?_ meets
    intro before label after held met taken
    exact taken.preserves held (preserved _ _ _ _ (held label.1) met taken.1)
  exact throughout.2

theorem invariant {first last : Index → State} {path : List ((Index → State) × (Index × Label))}
    (run : Run (Interleaved step) first path last) (initially : ∀ index, holds index (first index))
    (preserved : ∀ index before label after, holds index before →
      step index before label after → holds index after) :
    ∀ index, holds index (last index) :=
  guarded holds (fun _ _ _ => True) run initially
    (fun _ _ _ _ held _ => preserved _ _ _ _ held) fun _ _ => trivial

section Play

variable {Stimulus : Type} [DecidableEq Index]
  (advance : Index → State → Stimulus → Option (Label × State))

/-- The run that a list of stimuli causes, each for one component and chosen
when it is due. -/
def play (system : Index → State) : List (Index × ((Index → State) → Option Stimulus)) → Option
    (List ((Index → State) × (Index × Label)) × (Index → State))
  | [] => some ([], system)
  | (index, chosen) :: rest =>
    match chosen system with
    | none => none
    | some stimulus =>
      match advance index (system index) stimulus with
      | none => none
      | some (label, next) =>
        match play (Function.update system index next) rest with
        | none => none
        | some (path, last) => some ((system, (index, label)) :: path, last)

/-- Whether the stimuli cause a run that passes a check. -/
def passes (system : Index → State) (stimuli : List (Index × ((Index → State) → Option Stimulus)))
    (check : List ((Index → State) × (Index × Label)) → (Index → State) → Bool) :
    Bool :=
  match play advance system stimuli with
  | none => false
  | some (path, last) => check path last

variable {advance}

theorem run_of_play {first last : Index → State}
    {stimuli : List (Index × ((Index → State) → Option Stimulus))}
    {path : List ((Index → State) × (Index × Label))}
    (advances : ∀ {index before stimulus label after},
      advance index before stimulus = some (label, after) → step index before label after)
    (played : play advance first stimuli = some (path, last)) :
    Run (Interleaved step) first path last := by
  induction stimuli generalizing first path with
  | nil =>
    cases played
    exact Run.start
  | cons entry stimuli ih =>
    obtain ⟨index, chosen⟩ := entry
    unfold play at played
    split at played
    · cases played
    · split at played
      · cases played
      · rename_i label next advanced
        split at played
        · cases played
        · rename_i rest reached continued
          cases played
          refine Run.cons ⟨?_, ?_⟩ (ih continued)
          · rw [Function.update_self]
            exact advances advanced
          · intro other different
            exact Function.update_of_ne different _ _

theorem exists_run (advances : ∀ {index before stimulus label after},
    advance index before stimulus = some (label, after) → step index before label after)
    {first : Index → State} {stimuli : List (Index × ((Index → State) → Option Stimulus))}
    {check : List ((Index → State) × (Index × Label)) → (Index → State) → Bool}
    (checked : passes advance first stimuli check = true) :
    ∃ path last, Run (Interleaved step) first path last ∧ check path last = true := by
  unfold passes at checked
  split at checked
  · cases checked
  · rename_i path last played
    exact ⟨path, last, run_of_play advances played, checked⟩

end Play

end Interleaved

end Splinter.Library
