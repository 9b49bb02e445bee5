import Mathlib.Data.List.Basic

/-!
# Programs that change a state and may fail

A failed `EStateM` program keeps the changes it made before it failed.  `Ends`
says what holds when a program ends; `Ends.forM` is the invariant rule for loops.
-/

namespace Splinter.Library

variable {Failure State Result Outcome Item : Type}

/-- What holds when a program that started in a state ends: one condition for
each way of ending. -/
def Ends (program : EStateM Failure State Result) (state : State)
    (returned : Result → State → Prop) (failed : Failure → State → Prop) :
    Prop :=
  match program.run state with
  | .ok result after => returned result after
  | .error failure after => failed failure after

/-- What holds when a program ends, in whichever way. -/
abbrev EndsIn (program : EStateM Failure State Result) (state : State) (holds : State → Prop) :=
  Ends program state (fun _ => holds) fun _ => holds

instance (program : EStateM Failure State Result) (state : State)
    (returned : Result → State → Prop) (failed : Failure → State → Prop)
    [∀ result after, Decidable (returned result after)]
    [∀ failure after, Decidable (failed failure after)] :
    Decidable (Ends program state returned failed) := by
  unfold Ends
  split <;> infer_instance

/-- Change the failure of a program: `map_err`. -/
def mapError {Other : Type} (change : Failure → Other)
    (program : EStateM Failure State Result) : EStateM Other State Result :=
  fun state =>
    match program.run state with
    | .ok result after => .ok result after
    | .error failure after => .error (change failure) after

/-- Return or fail without touching the state. -/
def fromExcept (outcome : Except Failure Result) : EStateM Failure State Result := fun state =>
    match outcome with
    | .ok result => .ok result state
    | .error failure => .error failure state

def zoom {Part : Type} (part : State → Part) (replace : State → Part → State)
    (program : EStateM Failure Part Result) : EStateM Failure State Result :=
  fun state =>
    match program.run (part state) with
    | .ok result after => .ok result (replace state after)
    | .error failure after => .error failure (replace state after)

theorem run_mapError {Other : Type} (change : Failure → Other)
    (program : EStateM Failure State Result) (state : State) :
    (mapError change program).run state =
      match program.run state with
      | .ok result after => .ok result after
      | .error failure after => .error (change failure) after :=
  rfl

section Rules

variable {state : State} {returned : Result → State → Prop} {failed : Failure → State → Prop}

@[simp]
theorem ends_pure (result : Result) :
    Ends (pure result) state returned failed ↔ returned result state :=
  Iff.rfl

@[simp]
theorem ends_throw (failure : Failure) :
    Ends (throw failure) state returned failed ↔ failed failure state :=
  Iff.rfl

@[simp]
theorem ends_get {returned : State → State → Prop} :
    Ends (get : EStateM Failure State State) state returned failed ↔ returned state state :=
  Iff.rfl

@[simp]
theorem ends_set {returned : PUnit → State → Prop} (next : State) :
    Ends (set next : EStateM Failure State PUnit) state returned failed ↔ returned ⟨⟩ next :=
  Iff.rfl

@[simp]
theorem ends_modify {returned : PUnit → State → Prop} (change : State → State) :
    Ends (modify change : EStateM Failure State PUnit) state returned failed ↔
      returned ⟨⟩ (change state) :=
  Iff.rfl

@[simp]
theorem ends_bind (program : EStateM Failure State Outcome)
    (next : Outcome → EStateM Failure State Result) :
    Ends (program >>= next) state returned failed ↔ Ends program state
      (fun outcome after => Ends (next outcome) after returned failed)
      failed := by
  have unfolded : (program >>= next).run state =
      match program.run state with
      | .ok outcome after => (next outcome).run after
      | .error failure after => .error failure after := rfl
  cases ran : program.run state <;> simp only [Ends, unfolded, ran]

@[simp]
theorem ends_mapError {Other : Type} {failed : Other → State → Prop}
    (change : Failure → Other) (program : EStateM Failure State Result) :
    Ends (mapError change program) state returned failed ↔
      Ends program state returned fun failure => failed (change failure) := by
  cases ran : program.run state <;> simp only [Ends, run_mapError, ran]

@[simp]
theorem ends_zoom {Part : Type} (part : State → Part)
    (replace : State → Part → State) (program : EStateM Failure Part Result) :
    Ends (zoom part replace program) state returned failed ↔ Ends program (part state)
      (fun result after => returned result (replace state after))
      fun failure after => failed failure (replace state after) := by
  have unfolded : (zoom part replace program).run state =
      match program.run (part state) with
      | .ok result after => .ok result (replace state after)
      | .error failure after => .error failure (replace state after) := rfl
  cases ran : program.run (part state) <;> simp only [Ends, unfolded, ran]

theorem ends_fromExcept (outcome : Except Failure Result) :
    Ends (fromExcept outcome) state returned failed ↔
      (∀ result, outcome = .ok result → returned result state) ∧
        ∀ failure, outcome = .error failure → failed failure state := by
  cases outcome <;> simp [Ends, fromExcept, EStateM.run]

theorem ends_run (program : EStateM Failure State Result) (state : State) : Ends program state
    (fun result after => program.run state = .ok result after)
    fun failure after => program.run state = .error failure after := by
  unfold Ends
  cases program.run state with
  | ok result after => rfl
  | error failure after => rfl

variable {program : EStateM Failure State Result}

theorem Ends.mono {weaker : Result → State → Prop} {weakerFailed : Failure → State → Prop}
    (ends : Ends program state returned failed)
    (onReturn : ∀ result after, returned result after → weaker result after)
    (onFailure : ∀ failure after, failed failure after → weakerFailed failure after) :
    Ends program state weaker weakerFailed := by
  unfold Ends at ends ⊢
  cases ran : program.run state with
  | ok result after =>
    rw [ran] at ends
    exact onReturn result after ends
  | error failure after =>
    rw [ran] at ends
    exact onFailure failure after ends

theorem Ends.and {also : Result → State → Prop} {alsoFailed : Failure → State → Prop}
    (ends : Ends program state returned failed) (endsToo : Ends program state also alsoFailed) :
    Ends program state (fun result after => returned result after ∧ also result after)
      fun failure after => failed failure after ∧ alsoFailed failure after := by
  unfold Ends at ends endsToo ⊢
  cases ran : program.run state with
  | ok result after =>
    rw [ran] at ends endsToo
    exact ⟨ends, endsToo⟩
  | error failure after =>
    rw [ran] at ends endsToo
    exact ⟨ends, endsToo⟩

theorem Ends.always (onReturn : ∀ result after, returned result after)
    (onFailure : ∀ failure after, failed failure after) :
    Ends program state returned failed := by
  unfold Ends
  cases program.run state with
  | ok result after => exact onReturn result after
  | error failure after => exact onFailure failure after

theorem Ends.andThen {program : EStateM Failure State Outcome}
    {next : Outcome → EStateM Failure State Result} {holds : State → Prop}
    (first : Ends program state (fun _ => holds) fun _ => holds)
    (second : ∀ outcome between, holds between →
      Ends (next outcome) between (fun _ => holds) fun _ => holds) :
    Ends (program >>= next) state (fun _ => holds) fun _ => holds := by
  rw [ends_bind]
  exact first.mono second fun _ _ held => held

theorem Ends.forM {body : Item → EStateM Failure State PUnit} {holds : State → Prop}
    {failed : Failure → State → Prop} {items : List Item} (initially : holds state)
    (kept : ∀ item ∈ items, ∀ before, holds before →
      Ends (body item) before (fun _ => holds) failed) :
    Ends (forM items body) state (fun _ => holds) failed := by
  induction items generalizing state with
  | nil => exact initially
  | cons item items ih =>
    have first := kept item (List.mem_cons_self ..) state initially
    have rest : ∀ other ∈ items, ∀ before, holds before →
        Ends (body other) before (fun _ => holds) failed :=
      fun other member => kept other (List.mem_cons_of_mem _ member)
    rw [List.forM_cons, ends_bind]
    exact first.mono (fun _ _ held => ih held rest) fun _ _ held => held

end Rules

/-! ## What a program leaves alone -/

/-- A program does not change what a view shows of the state. -/
def Keeps {View : Type} (view : State → View) (program : EStateM Failure State Result) : Prop :=
  ∀ state, Ends program state (fun _ after => view after = view state)
    fun _ after => view after = view state

namespace Keeps

variable {View : Type} {view : State → View}
  {program : EStateM Failure State Result} {state : State}

theorem ends {value : View} (keeps : Keeps view program) (shown : view state = value) :
    Ends program state (fun _ after => view after = value) fun _ after => view after = value := by
  subst shown
  exact keeps state

theorem holds {property : View → Prop} (keeps : Keeps view program) (held : property (view state)) :
    Ends program state (fun _ after => property (view after))
      fun _ after => property (view after) := by
  refine (keeps state).mono (fun _ after shown => ?_) fun _ after shown => ?_
  · rw [shown]
    exact held
  · rw [shown]
    exact held

theorem pure (result : Result) : Keeps view (pure result : EStateM Failure State Result) :=
  fun _ => rfl

theorem throw (failure : Failure) : Keeps view (throw failure : EStateM Failure State Result) :=
  fun _ => rfl

theorem modify {change : State → State} (unseen : ∀ state, view (change state) = view state) :
    Keeps view (modify change : EStateM Failure State PUnit) :=
  unseen

theorem fromExcept (outcome : Except Failure Result) :
    Keeps view (fromExcept outcome : EStateM Failure State Result) := by
  intro state
  rw [ends_fromExcept]
  exact ⟨fun _ _ => rfl, fun _ _ => rfl⟩

theorem mapError {Other : Type} {change : Failure → Other} (keeps : Keeps view program) :
    Keeps view (mapError change program) := by
  intro state
  rw [ends_mapError]
  exact keeps state

theorem zoom {Part : Type} {part : State → Part}
    {replace : State → Part → State} {program : EStateM Failure Part Result}
    (unseen : ∀ state after, view (replace state after) = view state) :
    Keeps view (zoom part replace program) := by
  intro state
  rw [ends_zoom]
  unfold Ends
  cases program.run (part state) with
  | ok _ after => exact unseen state after
  | error _ after => exact unseen state after

theorem zoomPart {Part : Type} {part : State → Part}
    {replace : State → Part → State} {program : EStateM Failure Part Result} {view : Part → View}
    (keeps : Keeps view program) (replaced : ∀ state after, part (replace state after) = after) :
    Keeps (fun state => view (part state)) (Library.zoom part replace program) := by
  intro state
  rw [ends_zoom]
  simp only [replaced]
  exact keeps (part state)

theorem map {Detail : Type} (keeps : Keeps view program) (detail : View → Detail) :
    Keeps (fun state => detail (view state)) program :=
  fun state =>
    (keeps state).mono (fun _ _ shown => congrArg detail shown)
      fun _ _ shown => congrArg detail shown

theorem bind {program : EStateM Failure State Outcome}
    {next : Outcome → EStateM Failure State Result} (first : Keeps view program)
    (second : ∀ outcome, Keeps view (next outcome)) :
    Keeps view (program >>= next) := by
  intro state
  rw [ends_bind]
  exact (first state).mono (fun outcome _ shown => (second outcome).ends shown)
    fun _ _ shown => shown

theorem get {next : State → EStateM Failure State Result}
    (continued : ∀ state, Keeps view (next state)) :
    Keeps view (get >>= next) := by
  intro state
  rw [ends_bind, ends_get]
  exact continued state state

theorem set {next : PUnit → EStateM Failure State Result} {replacement : State}
    (continued : Keeps view (next ⟨⟩)) (unseen : view replacement = view state) :
    Ends (set replacement >>= next) state (fun _ after => view after = view state)
      fun _ after => view after = view state := by
  rw [ends_bind, ends_set]
  exact continued.ends unseen

theorem refuse {condition : Prop} [Decidable condition] {failure : Failure}
    {next : PUnit → EStateM Failure State Result} (continued : Keeps view (next ⟨⟩)) :
    Keeps view
      (if condition then MonadExcept.throw failure >>= next
        else next ⟨⟩) := by
  split
  · exact fun _ => rfl
  · exact continued

theorem forM {body : Item → EStateM Failure State PUnit} {items : List Item}
    (kept : ∀ item, Keeps view (body item)) :
    Keeps view (forM items body) :=
  fun _ =>
    Ends.forM rfl fun item _ _ shown => (kept item).ends shown

end Keeps

/-! ## When a program returns -/

/-- A program returns from a state exactly if a condition holds. -/
def Returns (condition : Prop) (program : EStateM Failure State Result) (state : State) : Prop :=
  Ends program state (fun _ _ => condition) fun _ _ => ¬ condition

namespace Returns

variable {condition other : Prop} {View : Type} {state : State}

theorem congr {program : EStateM Failure State Result} (same : condition ↔ other)
    (returns : Returns condition program state) : Returns other program state := by
  rw [← same]
  exact returns

theorem bind (view : State → View) {program : EStateM Failure State Outcome}
    {next : Outcome → EStateM Failure State Result} (first : Returns condition program state)
    (keeps : Keeps view program)
    (second : condition → ∀ outcome between, view between = view state →
      Returns other (next outcome) between) :
    Returns (condition ∧ other) (program >>= next) state := by
  unfold Returns
  rw [ends_bind]
  refine (first.and (keeps state)).mono (fun outcome between held => ?_)
    fun _ _ failed both => failed.1 both.1
  exact (second held.1 outcome between held.2).mono (fun _ _ also => ⟨held.1, also⟩)
    fun _ _ failed both => failed both.2

theorem andThen (view : State → View) {program : EStateM Failure State Outcome}
    {next : Outcome → EStateM Failure State Result} (first : Returns True program state)
    (keeps : Keeps view program)
    (second : ∀ outcome between, view between = view state →
      Returns condition (next outcome) between) :
    Returns condition (program >>= next) state :=
  congr (Iff.of_eq (true_and _)) (bind view first keeps fun _ => second)

theorem forM (view : State → View) {body : Item → EStateM Failure State PUnit}
    {items : List Item} {good : Item → Prop} (kept : ∀ item, Keeps view (body item))
    (each : ∀ item before, view before = view state → Returns (good item) (body item) before) :
    Returns (∀ item ∈ items, good item) (forM items body) state := by
  induction items generalizing state with
  | nil => exact List.forall_mem_nil _
  | cons item items ih =>
    rw [List.forM_cons]
    refine congr List.forall_mem_cons.symm (bind view (each item state rfl) (kept item) ?_)
    exact fun _ _ between same => ih fun other before shown => each other before (shown.trans same)

theorem fromExcept (outcome : Except Failure Result) :
    Returns (∃ result, outcome = .ok result) (fromExcept outcome) state := by
  cases outcome with
  | ok result => exact ⟨result, rfl⟩
  | error failure => exact nofun

end Returns

/-- The state a program leaves behind. -/
def finalState (program : EStateM Failure State Result) (state : State) : State :=
  match program.run state with
  | .ok _ after => after
  | .error _ after => after

def returnValue (program : EStateM Failure State Result) (state : State) : Except Failure Result :=
  match program.run state with
  | .ok result _ => .ok result
  | .error failure _ => .error failure

variable {program : EStateM Failure State Result} {state : State}

theorem finalState_of_ok {after : State} {result : Result}
    (ran : program.run state = .ok result after) :
    finalState program state = after := by
  rw [finalState, ran]

theorem finalState_of_error {after : State} {failure : Failure}
    (ran : program.run state = .error failure after) :
    finalState program state = after := by
  rw [finalState, ran]

theorem Ends.outcome {returned : Result → State → Prop} {failed : Failure → State → Prop}
    (ends : Ends program state returned failed) :
    (∃ result, returned result (finalState program state)) ∨
      ∃ failure, failed failure (finalState program state) := by
  unfold Ends at ends
  unfold finalState
  cases ran : program.run state with
  | ok result after =>
    rw [ran] at ends
    exact Or.inl ⟨result, ends⟩
  | error failure after =>
    rw [ran] at ends
    exact Or.inr ⟨failure, ends⟩

theorem Ends.finalState {holds : State → Prop}
    (ends : Ends program state (fun _ => holds) fun _ => holds) :
    holds (finalState program state) := by
  rcases ends.outcome with ⟨_, held⟩ | ⟨_, held⟩ <;> exact held

theorem Ends.returnValue {holds : Except Failure Result → State → Prop}
    (ends : Ends program state (fun result => holds (.ok result))
      fun failure => holds (.error failure)) :
    holds (returnValue program state) (Library.finalState program state) := by
  unfold Ends at ends
  unfold Library.returnValue Library.finalState
  cases ran : program.run state with
  | ok result after =>
    rw [ran] at ends
    exact ends
  | error failure after =>
    rw [ran] at ends
    exact ends

theorem finalState_congr {other : EStateM Failure State Result} {between : State}
    (same : program.run state = other.run between) :
    finalState program state = finalState other between := by
  unfold Library.finalState
  rw [same]

theorem finalState_bind (program : EStateM Failure State Outcome)
    (next : Outcome → EStateM Failure State Result) (state : State) :
    finalState (program >>= next) state =
      match program.run state with
      | .ok outcome between => finalState (next outcome) between
      | .error _ after => after := by
  have unfolded : (program >>= next).run state =
      match program.run state with
      | .ok outcome after => (next outcome).run after
      | .error failure after => .error failure after := rfl
  unfold Library.finalState
  rw [unfolded]
  cases program.run state <;> rfl

theorem mapError_eq_ok_iff {Other : Type}
    (outcome : Except Failure Result) (change : Failure → Other) (result : Result) :
    outcome.mapError change = .ok result ↔ outcome = .ok result := by
  cases outcome <;> simp [Except.mapError]

theorem bind_eq_ok_iff (first : Except Failure Outcome) (next : Outcome → Except Failure Result)
    (result : Result) :
    (first >>= next) = .ok result ↔ ∃ outcome, first = .ok outcome ∧ next outcome = .ok result := by
  cases first with
  | error failure =>
    have failed : (Except.error failure >>= next) = .error failure := rfl
    rw [failed]
    simp
  | ok outcome =>
    have continued : (Except.ok outcome >>= next) = next outcome := rfl
    rw [continued]
    simp

end Splinter.Library
