import Splinter.Admin.Mailbox

/-!
# Bounded sets

`DurableBTreeSet::add` makes room before it looks whether the item is in the set, so a
full set loses its least item to one that it already has.
-/

namespace Splinter.Admin.DurableBTreeSet

variable {Value Index : Type} [LinearOrder Index] (index : Value → Index)

/-- `BTreeSet::take`. -/
def remove (item : Value) (set : DurableBTreeSet Value) : Option Value × DurableBTreeSet Value :=
  (set.inner.find? fun value => index value = index item,
    { set with inner := set.inner.filter fun value => index value ≠ index item })

inductive Operation (Value : Type) where
  | add (item : Value)
  | remove (item : Value)

def perform (set : DurableBTreeSet Value) : Operation Value → DurableBTreeSet Value
  | .add item => add index item set
  | .remove item => (remove index item set).2

def Sorted (values : List Value) : Prop :=
  values.Pairwise fun left right => index left < index right

variable {index} {item : Value} {values : List Value}

theorem insert_perm_of_new (new : ∀ value ∈ values, index value ≠ index item) :
    (insert index item values).Perm (item :: values) := by
  induction values with
  | nil => rfl
  | cons first rest ih =>
    obtain ⟨different, others⟩ := List.forall_mem_cons.mp new
    rw [insert, if_neg different.symm]
    split
    · rfl
    · exact ((ih others).cons first).trans (List.Perm.swap ..)

theorem insert_of_present (sorted : Sorted index values)
    (present : ∃ value ∈ values, index value = index item) :
    insert index item values = values := by
  induction values with
  | nil => simp at present
  | cons first rest ih =>
    obtain ⟨before, sortedRest⟩ := List.pairwise_cons.mp sorted
    obtain ⟨value, member, same⟩ := present
    rcases List.mem_cons.mp member with rfl | later
    · rw [insert, if_neg (by simp [same]), if_pos same.symm]
    · have behind : index first < index item := same ▸ before value later
      rw [insert, if_neg (lt_asymm behind), if_neg behind.ne', ih sortedRest ⟨value, later, same⟩]

theorem Sorted.insert (sorted : Sorted index values) : Sorted index (insert index item values) ∧
    (insert index item values).length ≤ values.length + 1 := by
  by_cases present : ∃ value ∈ values, index value = index item
  · rw [insert_of_present sorted present]
    exact ⟨sorted, Nat.le_succ _⟩
  have new : ∀ value ∈ values, index value ≠ index item := by simpa using present
  refine ⟨?_, (insert_perm_of_new new).length_eq.le⟩
  induction values with
  | nil => exact List.pairwise_singleton _ _
  | cons first rest ih =>
    obtain ⟨before, sortedRest⟩ := List.pairwise_cons.mp sorted
    obtain ⟨different, others⟩ := List.forall_mem_cons.mp new
    rw [DurableBTreeSet.insert, if_neg different.symm]
    split
    · rename_i least
      refine List.pairwise_cons.mpr ⟨?_, sorted⟩
      exact List.forall_mem_cons.mpr ⟨least, fun value later => least.trans (before value later)⟩
    · rename_i notLeast
      refine List.pairwise_cons.mpr ⟨fun value member => ?_, ih sortedRest (by simpa) others⟩
      rcases List.mem_cons.mp ((insert_perm_of_new others).mem_iff.mp member) with rfl | later
      · exact lt_of_le_of_ne (not_lt.mp notLeast) different
      · exact before value later

variable {set : DurableBTreeSet Value}

/-- The items of a set are in order, and no more than its bound. -/
structure Bounded (index : Value → Index) (bound : Nat) (set : DurableBTreeSet Value) : Prop where
  fixed : set.bound = bound
  size : set.inner.length ≤ bound
  sorted : Sorted index set.inner

variable {bound : Nat} (positive : 0 < bound) (bounded : Bounded index bound set)
include positive bounded

theorem Bounded.perform (operation : Operation Value) :
    Bounded index bound (set.perform index operation) := by
  obtain ⟨rfl, size, sorted⟩ := bounded
  cases operation with
  | add item =>
    dsimp only [DurableBTreeSet.perform, add]
    split
    · obtain ⟨still, longer⟩ := Sorted.insert sorted.tail
      rw [List.length_tail] at longer
      exact ⟨rfl, by dsimp only; omega, still⟩
    · obtain ⟨still, longer⟩ := Sorted.insert sorted
      exact ⟨rfl, by dsimp only; omega, still⟩
  | remove item => exact ⟨rfl, le_trans (List.length_filter_le _ _) size, sorted.filter _⟩

theorem bounded_foldl (operations : List (Operation Value)) :
    Bounded index bound (operations.foldl (perform index) set) := by
  induction operations generalizing set with
  | nil => exact bounded
  | cons operation operations ih => exact ih (bounded.perform positive _)

theorem add_present_iff (present : ∃ value ∈ set.inner, index value = index item) :
    (add index item set).inner.map index = set.inner.map index ↔
      set.inner.length < bound ∨ ∀ value ∈ set.inner, index item ≤ index value := by
  obtain ⟨rfl, size, sorted⟩ := bounded
  dsimp only [add]
  by_cases full : set.inner.length = set.bound
  · rw [if_pos full, or_iff_right (by omega)]
    cases shape : set.inner with
    | nil =>
      rw [shape] at full
      exact absurd full.symm positive.ne'
    | cons least rest =>
      rw [shape] at sorted present
      obtain ⟨before, sortedRest⟩ := List.pairwise_cons.mp sorted
      by_cases later : ∃ value ∈ rest, index value = index item
      · -- the item stays where it is, and the least one is gone
        refine iff_of_false ?_ fun lowest => ?_
        · intro same
          have lengths := congrArg List.length same
          simp [insert_of_present sortedRest later] at lengths
        · obtain ⟨value, member, same⟩ := later
          exact (same ▸ before value member).not_ge (lowest least List.mem_cons_self)
      · have same : index item = index least := by
          obtain ⟨value, member, same⟩ := present
          rcases List.mem_cons.mp member with rfl | other
          · exact same.symm
          · exact absurd ⟨value, other, same⟩ later
        refine iff_of_true ?_ ?_
        · cases rest with
          | nil => simp [insert, same]
          | cons second rest => simp [insert, same, before second]
        · refine List.forall_mem_cons.mpr ⟨same.le, fun value other => ?_⟩
          exact (same ▸ before value other).le
  · rw [if_neg full, insert_of_present sorted present]
    exact iff_of_true rfl (Or.inl (by omega))

omit positive bounded in
theorem add_perm_of_new (new : ∀ value ∈ set.inner, index value ≠ index item) :
    (add index item set).inner.Perm
      (item :: if set.inner.length = set.bound then set.inner.tail else set.inner) := by
  refine insert_perm_of_new fun value member => new value ?_
  split at member
  · exact List.mem_of_mem_tail member
  · exact member

omit bounded

/-- The set stays sorted and within its bound.  To add an item that it has changes
nothing, unless it is full and has a smaller one; a new item replaces the least. -/
theorem bounded_set_law (operations : List (Operation Value)) (item : Value) :
    let set := operations.foldl (perform index) ⟨[], bound⟩
    set.inner.length ≤ bound ∧ Sorted index set.inner ∧
    ((∃ value ∈ set.inner, index value = index item) →
      ((add index item set).inner.map index = set.inner.map index ↔
        set.inner.length < bound ∨ ∀ value ∈ set.inner, index item ≤ index value)) ∧
    ((∀ value ∈ set.inner, index value ≠ index item) → (add index item set).inner.Perm
      (item :: if set.inner.length = bound then set.inner.tail else set.inner)) := by
  intro set
  have initially : Bounded index bound (⟨[], bound⟩ : DurableBTreeSet Value) :=
    ⟨rfl, Nat.zero_le _, List.Pairwise.nil⟩
  have bounded : Bounded index bound set := bounded_foldl positive initially operations
  refine ⟨bounded.size, bounded.sorted, add_present_iff positive bounded, ?_⟩
  rw [← bounded.fixed]
  exact add_perm_of_new

omit positive

theorem least_item_added_again :
    (add id 1 ([.add 1, .add 2].foldl (perform id) ⟨[], 2⟩)).inner.map id = [1, 2] := by
  have law := (@bounded_set_law Nat Nat _ id 2 (by decide) [.add 1, .add 2] 1).2.2.1
  exact (law ⟨1, by decide, rfl⟩).mpr (Or.inr (by decide))

/-- A full set of two items loses one of them when the other is added again. -/
theorem item_added_again_evicts :
    ([.add 1, .add 2].foldl (perform id) ⟨[], 2⟩ : DurableBTreeSet Nat).inner = [1, 2] ∧
      (add id 2 ([.add 1, .add 2].foldl (perform id) ⟨[], 2⟩)).inner = [2] := by
  decide

end Splinter.Admin.DurableBTreeSet
