import Mathlib.Data.List.Basic

/-!
# Runs of a labelled step relation

A run remembers, for each of its steps, the state the step started from and its
label.  `Run.invariant` is for properties that every step preserves, `Run.guarded`
for those preserved by the steps that meet a guard; `Run.forall_iff`,
`Run.throughout_iff` and `Run.forall_states_iff` are for properties that hold along
a run if and only if all its steps meet the guard.
-/

namespace Splinter.Library

variable {State Label : Type} {step : State → Label → State → Prop}

/-- A run of `step` from `first`, with the state and label of each step. -/
inductive Run (step : State → Label → State → Prop) (first : State) :
    List (State × Label) → State → Prop
  | start : Run step first [] first
  | snoc {path : List (State × Label)} {before after : State} {label : Label} :
    Run step first path before →
    step before label after →
    Run step first (path ++ [(before, label)]) after

namespace Run

/-- A property holds in every state a run visits. -/
def Throughout (holds : State → Prop) (path : List (State × Label)) (last : State) : Prop :=
  (∀ visited ∈ path, holds visited.1) ∧ holds last

variable (guard : State → Label → Prop)

/-- Every step of a run meets a guard on its source state and its label. -/
def Meets (path : List (State × Label)) : Prop :=
  ∀ visited ∈ path, guard visited.1 visited.2

instance (guard : State → Label → Prop) (path : List (State × Label))
    [∀ state label, Decidable (guard state label)] :
    Decidable (Meets guard path) :=
  inferInstanceAs (Decidable (∀ visited ∈ path, _))

instance (holds : State → Prop) (path : List (State × Label)) (last : State) [DecidablePred holds] :
    Decidable (Throughout holds path last) :=
  inferInstanceAs (Decidable (_ ∧ _))

@[simp]
theorem meets_nil : Meets guard [] := by
  simp [Meets]

@[simp]
theorem meets_snoc (path : List (State × Label)) (before : State) (label : Label) :
    Meets guard (path ++ [(before, label)]) ↔ Meets guard path ∧ guard before label := by
  simp [Meets, or_imp, forall_and]

@[simp]
theorem throughout_nil (holds : State → Prop) (last : State) :
    Throughout holds ([] : List (State × Label)) last ↔ holds last := by
  simp [Throughout]

theorem throughout_snoc (holds : State → Prop)
    (path : List (State × Label)) (before last : State) (label : Label) :
    Throughout holds (path ++ [(before, label)]) last ↔
      Throughout holds path before ∧ holds last := by
  simp [Throughout, or_imp, forall_and]

variable {first last : State} {path : List (State × Label)} {holds : State → Prop}
  {guard : State → Label → Prop} {labels : List Label}

theorem append {middle : State} {rest : List (State × Label)} (run : Run step first path middle)
    (continued : Run step middle rest last) :
    Run step first (path ++ rest) last := by
  induction continued with
  | start =>
    rw [List.append_nil]
    exact run
  | snoc _ taken ih =>
    rw [← List.append_assoc]
    exact Run.snoc ih taken

theorem relabel {Other : Type} {onto : State → Other → State → Prop} (label : Label → Other)
    (taken : ∀ before event after, step before event after → onto before (label event) after)
    (run : Run step first path last) :
    Run onto first (path.map fun visited => (visited.1, label visited.2)) last := by
  induction run with
  | start => exact .start
  | snoc _ moved ih =>
    rw [List.map_append]
    exact ih.snoc (taken _ _ _ moved)

theorem cons {middle : State} {label : Label} {rest : List (State × Label)}
    (taken : step first label middle) (continued : Run step middle rest last) :
    Run step first ((first, label) :: rest) last := by
  have single : Run step first ([] ++ [(first, label)]) middle := Run.snoc Run.start taken
  exact append single continued

section

variable (run : Run step first path last)
include run

theorem cut {state : State} {label : Label} {earlier later : List (State × Label)}
    (split : path = earlier ++ (state, label) :: later) :
    Run step first earlier state ∧ ∃ next, step state label next := by
  induction run generalizing later with
  | start => simp at split
  | @snoc path before after other continued taken ih =>
    rcases List.eq_nil_or_concat later with rfl | ⟨rest, final, rfl⟩
    · obtain ⟨rfl, same⟩ := List.append_inj' split rfl
      cases same
      exact ⟨continued, _, taken⟩
    · rw [List.concat_eq_append, ← List.cons_append, ← List.append_assoc] at split
      exact ih (List.append_inj' split rfl).1

/-- A property of the first state that every guarded step preserves holds
throughout a run whose steps all meet the guard. -/
theorem guarded (initially : holds first)
    (preserved : ∀ before label after, holds before → guard before label →
      step before label after → holds after)
    (meets : Meets guard path) :
    Throughout holds path last := by
  induction run with
  | start => simpa using initially
  | snoc _ taken ih =>
    rw [meets_snoc] at meets
    rw [throughout_snoc]
    have earlier := ih meets.1
    exact ⟨earlier, preserved _ _ _ earlier.2 meets.2 taken⟩

theorem invariant (initially : holds first)
    (preserved : ∀ before label after, holds before → step before label after → holds after) :
    holds last := by
  induction run with
  | start => exact initially
  | snoc _ taken ih => exact preserved _ _ _ ih taken

theorem throughout (initially : holds first)
    (preserved : ∀ before label after, holds before → step before label after → holds after) :
    Throughout holds path last := by
  induction run with
  | start => exact (throughout_nil holds _).mpr initially
  | snoc _ taken ih =>
    rw [throughout_snoc]
    exact ⟨ih, preserved _ _ _ ih.2 taken⟩

theorem meets_of_throughout {property : State → Label → Prop}
    (throughout : Throughout holds path last)
    (decided : ∀ before label after, holds before → step before label after →
      property before label) :
    Meets property path := by
  induction run with
  | start => exact meets_nil property
  | snoc _ taken ih =>
    obtain ⟨visited, _⟩ := (throughout_snoc _ _ _ _ _).mp throughout
    rw [meets_snoc]
    exact ⟨ih visited, decided _ _ _ visited.2 taken⟩

end

/-- When a step out of a good state is good and leads to a good state exactly
if it meets the guard, the good runs are exactly the runs that meet the guard.
An invariant of all runs may be used to decide this. -/
theorem forall_iff (always holds : State → Prop) (property guard : State → Label → Prop)
    (run : Run step first path last) (invariant : always first) (initially : holds first)
    (preserved : ∀ before label after, always before → step before label after → always after)
    (decided : ∀ before label after, always before → holds before → step before label after →
      (holds after ∧ property before label ↔ guard before label)) :
    Throughout holds path last ∧ Meets property path ↔ Meets guard path := by
  induction run with
  | start => simpa using initially
  | snoc earlier taken ih =>
    have reached := earlier.invariant invariant preserved
    rw [throughout_snoc, meets_snoc, meets_snoc, ← ih]
    constructor
    · rintro ⟨⟨visited, now⟩, met, last⟩
      exact ⟨⟨visited, met⟩, (decided _ _ _ reached visited.2 taken).mp ⟨now, last⟩⟩
    · rintro ⟨⟨visited, met⟩, guarded⟩
      obtain ⟨now, last⟩ := (decided _ _ _ reached visited.2 taken).mpr guarded
      exact ⟨⟨visited, now⟩, met, last⟩

/-- In a run that keeps an invariant, two properties that agree on the steps
out of states with the invariant hold of the same steps. -/
theorem meets_congr {property : State → Label → Prop} (run : Run step first path last)
    (throughout : Throughout holds path last)
    (decided : ∀ before label after, holds before → step before label after →
      (property before label ↔ guard before label)) :
    Meets property path ↔ Meets guard path := by
  induction run with
  | start => simp
  | snoc earlier taken ih =>
    obtain ⟨visited, _⟩ := (throughout_snoc _ _ _ _ _).mp throughout
    rw [meets_snoc, meets_snoc, ih visited, decided _ _ _ visited.2 taken]

theorem Throughout.initially (throughout : Throughout holds path last)
    (run : Run step first path last) :
    holds first := by
  induction run with
  | start => exact throughout.2
  | snoc _ _ ih => exact ih ((throughout_snoc ..).mp throughout).1

theorem throughout_iff (always holds : State → Prop) (guard : State → Label → Prop)
    (run : Run step first path last) (invariant : always first) (initially : holds first)
    (preserved : ∀ before label after, always before → step before label after → always after)
    (decided : ∀ before label after, always before → holds before →
      step before label after → (holds after ↔ guard before label)) :
    Throughout holds path last ↔ Meets guard path := by
  have characterised := forall_iff always holds (fun _ _ => True) guard run invariant initially
    preserved
    fun before label after kept held taken => by
      rw [and_true]
      exact decided before label after kept held taken
  rw [← characterised]
  exact (and_iff_left fun _ _ => trivial).symm

theorem forall_states_iff (holds : State → Prop) (guard : State → Label → Prop)
    (run : Run step first path last) (initially : holds first)
    (decided : ∀ before label after, holds before → step before label after →
      (holds after ↔ guard before label)) :
    Throughout holds path last ↔ Meets guard path :=
  throughout_iff (fun _ => True) holds guard run trivial initially (fun _ _ _ _ _ => trivial)
    fun before label after _ held taken =>
      decided before label after held taken

/-- When a step leads to a good state exactly if it starts in one and meets the
guard, the last state of a run is good exactly if all its steps meet the
guard. -/
theorem holds_last_iff (always holds : State → Prop) (guard : State → Label → Prop)
    (run : Run step first path last) (invariant : always first) (initially : holds first)
    (preserved : ∀ before label after, always before → step before label after → always after)
    (decided : ∀ before label after, always before → step before label after →
      (holds after ↔ holds before ∧ guard before label)) :
    holds last ↔ Meets guard path := by
  induction run with
  | start => simpa using initially
  | snoc earlier taken ih =>
    have reached := earlier.invariant invariant preserved
    rw [decided _ _ _ reached taken, meets_snoc, ih]

theorem restrict (run : Run step first path last) (meets : Meets guard path) : Run
    (fun before label after =>
      guard before label ∧ step before label after)
    first path last := by
  induction run with
  | start => exact Run.start
  | snoc _ taken ih =>
    rw [meets_snoc] at meets
    exact Run.snoc (ih meets.1) ⟨meets.2, taken⟩

/-! ## Runs that end -/

section Measure

variable (measure : State → Nat) {guard : State → Label → Prop}
  (decreases : ∀ before label after, guard before label → step before label after →
      measure after < measure before)

include decreases

theorem length_add_le {first last : State} {path : List (State × Label)}
    (run : Run step first path last) (meets : Meets guard path) :
    path.length + measure last ≤ measure first := by
  induction run with
  | start => simp
  | snoc _ taken ih =>
    rw [meets_snoc] at meets
    have shorter := ih meets.1
    have smaller := decreases _ _ _ meets.2 taken
    rw [List.length_append, List.length_singleton]
    omega

theorem exists_exhausted (first : State) : ∃ path last,
    Run step first path last ∧ Meets guard path ∧
      ∀ label after, guard last label → ¬ step last label after := by
  induction size : measure first using Nat.strongRecOn generalizing first with
  | ind size ih =>
    by_cases exhausted : ∀ label after, guard first label → ¬ step first label after
    · exact ⟨[], first, Run.start, meets_nil guard, exhausted⟩
    · push Not at exhausted
      obtain ⟨label, next, allowed, taken⟩ := exhausted
      have smaller := decreases _ _ _ allowed taken
      rw [size] at smaller
      obtain ⟨path, last, run, meets, ended⟩ := ih (measure next) smaller next rfl
      refine ⟨(first, label) :: path, last, Run.cons taken run, ?_, ended⟩
      exact List.forall_mem_cons.mpr ⟨allowed, meets⟩

end Measure

/-! ## Steps that are determined -/

section Determined

variable
  (determined : ∀ before label after otherLabel other,
      step before label after → step before otherLabel other → label = otherLabel ∧ after = other)

include determined

theorem last_eq_of_path_eq {first last other : State} {path : List (State × Label)}
    (run : Run step first path last) (continued : Run step first path other) :
    last = other := by
  induction run generalizing other with
  | start =>
    generalize same : ([] : List (State × Label)) = path at continued
    cases continued with
    | start => rfl
    | snoc _ _ => simp at same
  | @snoc path before after label earlier taken _ =>
    generalize same : path ++ [(before, label)] = whole at continued
    cases continued with
    | start => simp at same
    | snoc _ otherTaken =>
      obtain ⟨_, final⟩ := List.append_inj' same rfl
      cases final
      exact (determined _ _ _ _ _ taken otherTaken).2

theorem isPrefix_of_rest {first last other : State} {path earlier : List (State × Label)}
    (run : Run step first path last) (rest : ∀ label after, ¬ step last label after)
    (continued : Run step first earlier other) :
    earlier <+: path := by
  induction continued with
  | start => exact List.nil_prefix
  | @snoc earlier before after label begun taken ih =>
    obtain ⟨later, rfl⟩ := ih
    cases later with
    | nil =>
      rw [List.append_nil] at run
      obtain rfl := last_eq_of_path_eq determined run begun
      exact absurd taken (rest label after)
    | cons visited later =>
      obtain ⟨state, next⟩ := visited
      obtain ⟨reached, target, continues⟩ := run.cut rfl
      obtain rfl := last_eq_of_path_eq determined reached begun
      obtain ⟨rfl, _⟩ := determined _ _ _ _ _ taken continues
      exact ⟨later, by simp⟩

end Determined

/-! ## Runs that are computed -/

/-- The path and the last state when every step is computed from its label. -/
def follow (perform : Label → State → State) : List Label → State → List (State × Label) × State
  | [], state => ([], state)
  | label :: labels, state =>
    let rest := follow perform labels (perform label state)
    ((state, label) :: rest.1, rest.2)

theorem run_follow (perform : Label → State → State) (labels : List Label) (first : State) :
    Run (fun before label after => after = perform label before) first
      (follow perform labels first).1 (follow perform labels first).2 := by
  induction labels generalizing first with
  | nil => exact Run.start
  | cons label labels ih => exact Run.cons rfl (ih _)

theorem mem_labels_of_mem_follow {perform : Label → State → State} {visited : State × Label}
    (member : visited ∈ (follow perform labels first).1) :
    visited.2 ∈ labels := by
  induction labels generalizing first with
  | nil => cases member
  | cons label labels ih =>
    rcases List.mem_cons.mp member with rfl | later
    · exact List.mem_cons_self ..
    · exact List.mem_cons_of_mem _ (ih later)

/-- The path and the last state when a step that is computed from its label may
be impossible. -/
def attempt (advance : Label → State → Option State) :
    List Label → State → Option (List (State × Label) × State)
  | [], state => some ([], state)
  | label :: labels, state =>
    match advance label state with
    | none => none
    | some next =>
      match attempt advance labels next with
      | none => none
      | some (path, last) => some ((state, label) :: path, last)

theorem run_of_attempt {advance : Label → State → Option State}
    (attempted : attempt advance labels first = some (path, last)) :
    Run (fun before label after => advance label before = some after) first path last := by
  induction labels generalizing first path with
  | nil =>
    cases attempted
    exact Run.start
  | cons label labels ih =>
    unfold attempt at attempted
    split at attempted
    · cases attempted
    · rename_i next advanced
      split at attempted
      · cases attempted
      · rename_i rest reached continued
        cases attempted
        exact Run.cons advanced (ih continued)

theorem labels_of_attempt {advance : Label → State → Option State}
    (attempted : attempt advance labels first = some (path, last)) :
    path.map Prod.snd = labels := by
  induction labels generalizing first path with
  | nil =>
    cases attempted
    rfl
  | cons label labels ih =>
    unfold attempt at attempted
    split at attempted
    · cases attempted
    · split at attempted
      · cases attempted
      · rename_i continued
        cases attempted
        rw [List.map_cons, ih continued]

theorem meets_of_labels (shown : path.map Prod.snd = labels)
    (guarded : ∀ label ∈ labels, ∀ state, guard state label) :
    Meets guard path := by
  intro visited member
  apply guarded
  rw [← shown]
  exact List.mem_map_of_mem member

variable (advance : Label → State → Option State)

/-- Whether the labels make a run that passes a check. -/
def plays (labels : List Label)
    (first : State) (check : List (State × Label) → State → Bool) : Bool :=
  match attempt advance labels first with
  | none => false
  | some (path, last) => check path last

theorem exists_run_of_plays (labels : List Label)
    (first : State) (check : List (State × Label) → State → Bool)
    (played : plays advance labels first check = true) :
    ∃ path last, Run (fun before label after => advance label before = some after) first path last ∧
      path.map Prod.snd = labels ∧ check path last = true := by
  unfold plays at played
  split at played
  · cases played
  · rename_i path last attempted
    exact ⟨path, last, run_of_attempt attempted, labels_of_attempt attempted, played⟩

def leads (labels : List Label) (first : State) (check : State → Bool) : Bool :=
  plays advance labels first fun _ last => check last

theorem exists_run_of_leads (labels : List Label)
    (first : State) (check : State → Bool) (checked : leads advance labels first check = true) :
    ∃ path last, Run (fun before label after => advance label before = some after) first path last ∧
      path.map Prod.snd = labels ∧ check last = true :=
  exists_run_of_plays advance labels first (fun _ last => check last) checked

theorem exists_of_leads {advance : Label → State → Option State} {labels : List Label}
    {first : State} {holds : List (State × Label) → State → Prop} (check : State → Bool)
    (checked : leads advance labels first check = true) (follows : ∀ path last,
      Run (fun before label after => advance label before = some after) first path last →
        path.map Prod.snd = labels → check last = true → holds path last) :
    ∃ path last, Run (fun before label after => advance label before = some after) first path last ∧
      path.map Prod.snd = labels ∧ holds path last := by
  obtain ⟨path, last, run, labelled, passed⟩ := exists_run_of_leads _ _ _ _ checked
  exact ⟨path, last, run, labelled, follows path last run labelled passed⟩

end Run

end Splinter.Library
