import Mathlib.Data.List.Basic
import Mathlib.Data.List.Range

/-!
# Pages of a list and walks along links

A page of a list is a window of it.  A server answers requests for an offset;
each answer has a link to another page, and a client follows the links until a
link leads to the page it is on.  `Walk` is what the client visits.
-/

namespace Splinter.Library

variable {Item : Type}

def page (limit offset : Nat) (items : List Item) : List Item := (items.drop offset).take limit

theorem page_zero_of_length_le {limit : Nat} {items : List Item} (fits : items.length ≤ limit) :
    page limit 0 items = items := by
  unfold page
  rw [List.drop_zero, List.take_of_length_le fits]

theorem flatMap_page (limit count : Nat) (items : List Item) :
    (List.range count).flatMap (fun index => page limit (index * limit) items) =
      items.take (count * limit) := by
  induction count with
  | zero => rw [Nat.zero_mul, List.take_zero, List.range_zero, List.flatMap_nil]
  | succ count ih =>
    rw [List.range_succ, List.flatMap_append, ih, Nat.succ_mul, List.take_add]
    simp [page]

theorem flatMap_page_of_length_le {limit count : Nat} {items : List Item}
    (enough : items.length ≤ count * limit) :
    (List.range count).flatMap (fun index => page limit (index * limit) items) = items := by
  rw [flatMap_page, List.take_of_length_le enough]

theorem page_nil (limit offset : Nat) : page limit offset ([] : List Item) = [] := by
  unfold page
  rw [List.drop_nil, List.take_nil]

theorem page_replicate_succ {limit : Nat} (room : limit ≠ 0) (offset : Nat) (item : Item) :
    page limit offset (List.replicate (offset + 1) item) = [item] := by
  have left : offset + 1 - offset = 1 := by omega
  rw [page, List.drop_replicate, left]
  exact List.take_of_length_le (Nat.pos_of_ne_zero room)

/-- Keep what passes a filter and cut a page, for one filter after the other. -/
def filterPages (limit offset : Nat) (filters : List (Item → Bool))
    (items : List Item) : List Item :=
  filters.foldl (fun kept filter => page limit offset (kept.filter filter)) items

section FilterPages

variable {limit offset : Nat} {filters : List (Item → Bool)} {items : List Item}

theorem filterPages_cons (filter : Item → Bool) :
    filterPages limit offset (filter :: filters) items = filterPages limit offset filters
      (page limit offset (items.filter filter)) :=
  rfl

theorem filterPages_of_nil : filterPages limit offset filters ([] : List Item) = [] := by
  induction filters with
  | nil => rfl
  | cons filter filters ih => rw [filterPages_cons, List.filter_nil, page_nil, ih]

theorem mem_of_mem_filterPages
    {item : Item} (member : item ∈ filterPages limit offset filters items) :
    item ∈ items ∧ ∀ filter ∈ filters, filter item = true := by
  induction filters generalizing items with
  | nil => exact ⟨member, List.forall_mem_nil _⟩
  | cons filter filters ih =>
    obtain ⟨kept, others⟩ := ih member
    have passed := List.mem_filter.mp (List.mem_of_mem_drop (List.mem_of_mem_take kept))
    exact ⟨passed.1, List.forall_mem_cons.mpr ⟨passed.2, others⟩⟩

theorem filterPages_zero (some : filters ≠ []) : filterPages 0 offset filters items = [] := by
  cases filters with
  | nil => exact absurd rfl some
  | cons filter filters => exact filterPages_of_nil

theorem filterPages_whole (fits : items.length ≤ limit) : filterPages limit 0 filters items =
    items.filter fun item => filters.all fun filter => filter item := by
  induction filters generalizing items with
  | nil => exact (List.filter_eq_self.mpr fun _ _ => rfl).symm
  | cons filter filters ih =>
    have kept : (items.filter filter).length ≤ limit :=
      Nat.le_trans (List.length_filter_le _ _) fits
    rw [filterPages_cons, page_zero_of_length_le kept, ih kept, List.filter_filter]
    refine List.filter_congr fun item _ => ?_
    rw [List.all_cons, Bool.and_comm]

theorem filterPages_limited {first second : Item → Bool} {dropped kept : Item}
    (firstDropped : first dropped = true) (firstKept : first kept = true)
    (secondDropped : second dropped = false) :
    filterPages limit 0 (first :: second :: filters)
      (List.replicate limit dropped ++ [kept]) = [] := by
  have passed : (List.replicate limit dropped ++ [kept]).filter first =
      List.replicate limit dropped ++ [kept] := by
    rw [List.filter_append]
    simp [firstDropped, firstKept]
  have cut : page limit 0 (List.replicate limit dropped ++ [kept]) =
      List.replicate limit dropped := by
    rw [page, List.drop_zero, List.take_append_of_le_length (by simp)]
    simp
  have gone : (List.replicate limit dropped).filter second = [] := by simp [secondDropped]
  rw [filterPages_cons, passed, cut, filterPages_cons, gone, page_nil, filterPages_of_nil]

theorem filterPages_skipped {first second : Item → Bool} {item : Item}
    (firstPassed : first item = true) (secondPassed : second item = true)
    (room : limit ≠ 0) (skips : offset ≠ 0) :
    filterPages limit offset (first :: second :: filters)
      (List.replicate (offset + 1) item) = [] := by
  have passed : (List.replicate (offset + 1) item).filter first =
      List.replicate (offset + 1) item := by
    simp [firstPassed]
  have again : [item].filter second = [item] := by simp [secondPassed]
  have nothing : page limit offset [item] = [] := by
    rw [page, List.drop_eq_nil_of_le (by simp; omega), List.take_nil]
  rw [filterPages_cons, passed, page_replicate_succ room, filterPages_cons,
    again, nothing, filterPages_of_nil]

end FilterPages

variable {Response Link : Type} (respond : Nat → Option Response)
  (target : Response → Link) (link : Nat → Link)

/-- The answers that a client sees from an offset on, with their offsets, when
it follows a link of each answer until the link does not lead on. -/
inductive Walk : Nat → List (Nat × Response) → Prop
  | stop {offset : Nat} {response : Response} : respond offset = some response →
    target response = link offset →
    Walk offset [(offset, response)]
  | follow {offset next : Nat} {response : Response} {visited : List (Nat × Response)} :
    respond offset = some response →
    target response = link next →
    next ≠ offset →
    Walk next visited →
    Walk offset ((offset, response) :: visited)

variable {respond target link}

namespace Walk

theorem answered {offset : Nat} {visited : List (Nat × Response)}
    (walk : Walk respond target link offset visited) :
    ∀ stop ∈ visited, respond stop.1 = some stop.2 := by
  induction walk with
  | stop answered _ =>
    intro stop member
    rw [List.mem_singleton.mp member]
    exact answered
  | follow answered _ _ _ ih => exact List.forall_mem_cons.mpr ⟨answered, ih⟩

theorem unique {offset : Nat} {visited other : List (Nat × Response)}
    (distinct : Function.Injective link) (walk : Walk respond target link offset visited)
    (again : Walk respond target link offset other) :
    visited = other := by
  induction walk generalizing other with
  | @stop offset response answered settled =>
    cases again with
    | @stop _ same answeredAgain _ => rw [Option.some.inj (answered.symm.trans answeredAgain)]
    | @follow _ next same _ answeredAgain moved different _ =>
      cases (answered.symm.trans answeredAgain)
      exact absurd (distinct (moved.symm.trans settled)) different
  | @follow offset next response visited answered moved different _ ih =>
    cases again with
    | @stop _ same answeredAgain settled =>
      cases (answered.symm.trans answeredAgain)
      exact absurd (distinct (moved.symm.trans settled)) different
    | @follow _ following same _ answeredAgain movedAgain _ rest =>
      cases (answered.symm.trans answeredAgain)
      obtain rfl := distinct (moved.symm.trans movedAgain)
      rw [ih rest]

section Regular

variable {limit count : Nat} (answer : Nat → Response) (positive : 0 < limit)
  (responds : ∀ index ≤ count, respond (index * limit) = some (answer index))

include positive responds

theorem ascend (forward : ∀ index < count, target (answer index) = link ((index + 1) * limit))
    (settled : target (answer count) = link (count * limit))
    {first length : Nat} (whole : first + length = count) :
    Walk respond target link (first * limit)
      ((List.range' first (length + 1)).map fun index =>
        (index * limit, answer index)) := by
  induction length generalizing first with
  | zero =>
    rw [Nat.add_zero] at whole
    rw [whole]
    exact Walk.stop (responds count (Nat.le_refl _)) settled
  | succ length ih =>
    rw [List.range'_succ, List.map_cons]
    refine Walk.follow (responds first (by omega)) (forward first (by omega)) ?_ (ih (by omega))
    rw [Nat.succ_mul]
    omega

theorem descend (backward : ∀ index < count, target (answer (index + 1)) = link (index * limit))
    (settled : target (answer 0) = link 0) {last : Nat} (within : last ≤ count) :
    Walk respond target link (last * limit)
      ((List.range (last + 1)).map fun index =>
        (index * limit, answer index)).reverse := by
  induction last with
  | zero =>
    have answered := responds 0 (Nat.zero_le _)
    rw [Nat.zero_mul] at answered ⊢
    have single :
        ((List.range (0 + 1)).map fun index =>
          (index * limit, answer index)).reverse = [(0, answer 0)] := by
      simp
    rw [single]
    exact Walk.stop answered settled
  | succ last ih =>
    rw [List.range_succ, List.map_append, List.reverse_append,
      List.map_singleton, List.reverse_singleton, List.singleton_append]
    refine Walk.follow (responds (last + 1) within) (backward last (by omega)) ?_ (ih (by omega))
    rw [Nat.succ_mul]
    omega

end Regular

end Walk

end Splinter.Library
