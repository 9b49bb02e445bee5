import Mathlib.Data.List.Nodup

/-!
# Taking the first match out of a queue

Looking up the first element with a property and removing it, in a queue whose
elements carry pairwise distinct keys.
-/

namespace Splinter.Library

variable {Element Key : Type} {matching : Element → Bool} {queue : List Element} {found : Element}

theorem split_of_find? (hit : queue.find? matching = some found) : ∃ before after,
    queue = before ++ found :: after ∧ queue.eraseP matching = before ++ after := by
  obtain ⟨matches_, before, after, shape, earlier⟩ := List.find?_eq_some_iff_append.mp hit
  refine ⟨before, after, shape, ?_⟩
  have noneEarlier : ∀ element ∈ before, ¬ matching element = true := by
    intro element member
    simpa using earlier element member
  rw [shape, List.eraseP_append_right _ noneEarlier, List.eraseP_cons_of_pos matches_]

theorem mem_eraseP_or_eq_of_find? {element : Element} (hit : queue.find? matching = some found)
    (member : element ∈ queue) :
    element ∈ queue.eraseP matching ∨ element = found := by
  obtain ⟨before, after, shape, erased⟩ := split_of_find? hit
  rw [erased]
  rw [shape, List.mem_append, List.mem_cons] at member
  rw [List.mem_append]
  rcases member with earlier | same | later
  · exact Or.inl (Or.inl earlier)
  · exact Or.inr same
  · exact Or.inl (Or.inr later)

theorem key_notMem_eraseP_of_find? (key : Element → Key) (distinct : (queue.map key).Nodup)
    (hit : queue.find? matching = some found) :
    key found ∉ (queue.eraseP matching).map key := by
  obtain ⟨before, after, shape, erased⟩ := split_of_find? hit
  rw [erased]
  rw [shape, List.map_append, List.map_cons, List.nodup_middle, ← List.map_append] at distinct
  exact (List.nodup_cons.mp distinct).1

theorem eq_of_countP_le_one {left right : Element} (atMostOne : queue.countP matching ≤ 1)
    (leftMember : left ∈ queue) (leftMatches : matching left = true)
    (rightMember : right ∈ queue) (rightMatches : matching right = true) :
    left = right := by
  have leftKept := List.mem_filter.mpr ⟨leftMember, leftMatches⟩
  have rightKept := List.mem_filter.mpr ⟨rightMember, rightMatches⟩
  rw [List.countP_eq_length_filter] at atMostOne
  match shape : queue.filter matching with
  | [] =>
    rw [shape] at leftKept
    cases leftKept
  | [single] =>
    rw [shape, List.mem_singleton] at leftKept rightKept
    exact leftKept.trans rightKept.symm
  | _ :: _ :: rest =>
    rw [shape] at atMostOne
    simp only [List.length_cons] at atMostOne
    omega

end Splinter.Library
