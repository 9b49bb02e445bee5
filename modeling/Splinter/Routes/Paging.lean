import Splinter.Library.Paging
import Mathlib.Algebra.Group.Nat.Defs

/-!
# Paging links

`get_response_paging_info` of the REST routes.  The arithmetic is on machine
words: a sum that does not fit and a division by zero are a panic, and then
there is no answer.
-/

namespace Splinter.Routes

open Library

/-- The number of values of `usize`. -/
def usizeSize : Nat := 2 ^ 64

def checkedAdd (left right : Nat) : Option Nat :=
  if left + right < usizeSize then some (left + right) else none

def checkedMul (left right : Nat) : Option Nat :=
  if left * right < usizeSize then some (left * right) else none

def checkedDiv (dividend divisor : Nat) : Option Nat :=
  if divisor = 0 then none else some (dividend / divisor)

def defaultLimit : Nat := 100

def defaultOffset : Nat := 0

structure Paging where
  current : String
  offset : Nat
  limit : Nat
  total : Nat
  first : String
  prev : String
  next : String
  last : String
  deriving DecidableEq

def baseLink (link : String) (limit : Nat) : String :=
  link ++ "limit=" ++ limit.repr ++ "&"

def pageLink (link : String) (limit offset : Nat) : String :=
  baseLink link limit ++ "offset=" ++ offset.repr

def lastOffset (limit queryCount : Nat) : Option Nat :=
  if queryCount > 0 then do
    let pages ← checkedDiv (queryCount - 1) limit
    checkedMul pages limit
  else
    some 0

def getResponsePagingInfo (limit offset : Option Nat) (link : String)
    (queryCount : Nat) : Option Paging := do
  let limit := limit.getD defaultLimit
  let offset := offset.getD defaultOffset
  let previousOffset := if offset > limit then offset - limit else 0
  let lastOffset ← lastOffset limit queryCount
  let following ← checkedAdd offset limit
  let nextOffset := if following > lastOffset then lastOffset else following
  return {
    current := pageLink link limit offset
    offset := offset
    limit := limit
    total := queryCount
    first := baseLink link limit ++ "offset=0"
    prev := pageLink link limit previousOffset
    next := pageLink link limit nextOffset
    last := pageLink link limit lastOffset }

def lastStart (limit total : Nat) : Nat := (total - 1) / limit * limit

def pagingInfo (link : String) (limit offset total : Nat) : Paging where
  current := pageLink link limit offset
  offset := offset
  limit := limit
  total := total
  first := pageLink link limit 0
  prev := pageLink link limit (offset - limit)
  next := pageLink link limit (min (offset + limit) (lastStart limit total))
  last := pageLink link limit (lastStart limit total)

theorem pageLink_injective (link : String) (limit : Nat) :
    Function.Injective (pageLink link limit) := by
  intro left right same
  have repr : left.repr = right.repr := (String.append_right_inj _).mp same
  rw [Nat.repr_eq_ofList_toDigits, Nat.repr_eq_ofList_toDigits, String.ofList_inj] at repr
  have read (number : Nat) : Nat.ofDigitChars 10 (Nat.toDigits 10 number) 0 = number :=
    Nat.ofDigitChars_toDigits (by decide) (by decide)
  rw [← read left, repr, read right]

theorem lastStart_le (limit total : Nat) : lastStart limit total ≤ total - 1 :=
  Nat.div_mul_le_self _ _

theorem checkedMul_of_div (limit : Nat) (total : Fin usizeSize) :
    checkedMul (((total : Nat) - 1) / limit) limit = some (lastStart limit total) := by
  have small := lastStart_le limit total
  have bound := total.isLt
  exact if_pos (Nat.lt_of_le_of_lt small (by omega))

theorem getResponsePagingInfo_eq
    (limit offset : Option Nat) (link : String) (total : Fin usizeSize) :
    getResponsePagingInfo limit offset link total =
      if ((total : Nat) = 0 ∨ limit.getD defaultLimit ≠ 0) ∧
        offset.getD defaultOffset + limit.getD defaultLimit < usizeSize then
        some (pagingInfo link (limit.getD defaultLimit) (offset.getD defaultOffset) total)
      else
        none := by
  unfold getResponsePagingInfo
  generalize limit.getD defaultLimit = limit
  generalize offset.getD defaultOffset = offset
  have first : baseLink link limit ++ "offset=0" = pageLink link limit 0 := by
    unfold pageLink
    rw [String.append_assoc]
    rfl
  have previous :
      (if offset > limit then offset - limit else 0) = offset - limit := by
    split <;> omega
  have last : lastOffset limit total =
      if (total : Nat) = 0 ∨ limit ≠ 0 then some (lastStart limit total) else none := by
    unfold lastOffset
    by_cases empty : (total : Nat) = 0
    · have nothing : lastStart limit total = 0 := by
        have small := lastStart_le limit total
        omega
      rw [if_neg (by omega), if_pos (Or.inl empty), nothing]
    · rw [if_pos (by omega)]
      by_cases zero : limit = 0
      · rw [if_neg (by simp [empty, zero]), checkedDiv, if_pos zero]
        rfl
      · rw [if_pos (Or.inr zero), checkedDiv, if_neg zero]
        exact checkedMul_of_div limit total
  dsimp only
  rw [first, previous, last]
  by_cases divides : (total : Nat) = 0 ∨ limit ≠ 0
  · rw [if_pos divides]
    by_cases fits : offset + limit < usizeSize
    · rw [if_pos ⟨divides, fits⟩, checkedAdd, if_pos fits]
      have next :
          (if offset + limit > lastStart limit total then
            lastStart limit total
            else
              offset + limit) =
            min (offset + limit) (lastStart limit total) := by
        split <;> omega
      simp only [Option.bind_eq_bind, Option.bind_some, next]
      rfl
    · rw [if_neg (fun both => fits both.2), checkedAdd, if_neg fits]
      rfl
  · rw [if_neg divides, if_neg (fun both => divides both.1)]
    rfl

def request (link : String) (limit total offset : Nat) : Option Paging :=
  getResponsePagingInfo (some limit) (some offset) link total

variable {limit : Nat} {total : Fin usizeSize}

theorem request_eq_some_iff {link : String} {offset : Nat} {paging : Paging} :
    request link limit total offset = some paging ↔
      (((total : Nat) = 0 ∨ limit ≠ 0) ∧ offset + limit < usizeSize) ∧
        paging = pagingInfo link limit offset total := by
  unfold request
  rw [getResponsePagingInfo_eq, Option.ite_none_right_eq_some, Option.some_inj]
  exact and_congr_right fun _ => eq_comm

/-- The `next` links lead from the first page to the last one, through pages
that cover the collection without overlap, and the `prev` links lead back the
same way. -/
structure WalksWhole (link : String) (limit total : Nat)
    (visited : List (Nat × Paging)) : Prop where
  forth : Walk (request link limit total) Paging.next (pageLink link limit) 0 visited
  partition : visited.flatMap (fun stop => page limit stop.1 (List.range total)) = List.range total
  back : ∃ final, visited.getLast? = some final ∧ final.2.last = pageLink link limit final.1 ∧
    Walk (request link limit total) Paging.prev (pageLink link limit) final.1 visited.reverse
  home : ∀ stop ∈ visited, stop.2.first = pageLink link limit 0

theorem WalksWhole.fits {link : String} {visited : List (Nat × Paging)}
    (walks : WalksWhole link limit total visited) :
    lastStart limit total + limit < usizeSize := by
  obtain ⟨final, ends, last, _⟩ := walks.back
  have answered := walks.forth.answered final (List.mem_of_getLast? ends)
  obtain ⟨⟨_, fits⟩, shape⟩ := request_eq_some_iff.mp answered
  rw [shape] at last
  have same := pageLink_injective link limit last
  rw [same]
  exact fits

theorem total_le_pages (total : Nat) (positive : 0 < limit) :
    total ≤ ((total - 1) / limit + 1) * limit := by
  have below := Nat.lt_div_mul_add (a := total - 1) positive
  rw [Nat.succ_mul]
  omega

theorem exists_walksWhole (link : String) (positive : 0 < limit)
    (fits : lastStart limit total + limit < usizeSize) :
    ∃ visited, WalksWhole link limit total visited := by
  let count := ((total : Nat) - 1) / limit
  let answer (index : Nat) := pagingInfo link limit (index * limit) total
  have within (index : Nat) (below : index ≤ count) : index * limit ≤ lastStart limit total :=
    Nat.mul_le_mul_right limit below
  have responds (index : Nat) (below : index ≤ count) :
      request link limit total (index * limit) = some (answer index) := by
    have reached := within index below
    exact request_eq_some_iff.mpr ⟨⟨Or.inr (Nat.ne_of_gt positive), by omega⟩, rfl⟩
  have forward (index : Nat) (below : index < count) :
      (answer index).next = pageLink link limit ((index + 1) * limit) := by
    have reached := within (index + 1) below
    rw [Nat.succ_mul] at reached ⊢
    exact congrArg (pageLink link limit) (Nat.min_eq_left reached)
  have settled : (answer count).next = pageLink link limit (count * limit) :=
    congrArg (pageLink link limit) (Nat.min_eq_right (Nat.le_add_right _ _))
  have backward (index : Nat) (_ : index < count) :
      (answer (index + 1)).prev = pageLink link limit (index * limit) := by
    refine congrArg (pageLink link limit) ?_
    rw [Nat.succ_mul]
    exact Nat.add_sub_cancel ..
  have home : (answer 0).prev = pageLink link limit 0 := by
    refine congrArg (pageLink link limit) ?_
    omega
  have ascending := Walk.ascend answer positive responds forward settled (Nat.zero_add count)
  rw [Nat.zero_mul, ← List.range_eq_range'] at ascending
  refine ⟨_, ascending, ?_, ⟨(count * limit, answer count), ?_, rfl, ?_⟩, ?_⟩
  · rw [List.flatMap_map]
    refine flatMap_page_of_length_le ?_
    rw [List.length_range]
    exact total_le_pages total positive
  · rw [List.range_succ, List.map_append, List.map_singleton, List.getLast?_concat]
  · exact Walk.descend answer positive responds backward home (Nat.le_refl _)
  · intro stop member
    obtain ⟨index, _, rfl⟩ := List.mem_map.mp member
    rfl

/-- There is an answer unless it divides by zero or overflows, and the links
walk the whole collection unless the offset after the last page overflows. -/
theorem paging_links_iff (link : String) (total : Fin usizeSize) :
    (∀ limit offset : Option Nat, (getResponsePagingInfo limit offset link total).isSome = true ↔
          ((total : Nat) = 0 ∨ limit.getD defaultLimit ≠ 0) ∧
            offset.getD defaultOffset + limit.getD defaultLimit < usizeSize) ∧
      ∀ limit, 0 < limit →
        ((∃ visited, WalksWhole link limit total visited) ↔
          lastStart limit total + limit < usizeSize) := by
  constructor
  · intro limit offset
    rw [getResponsePagingInfo_eq, Option.isSome_ite]
  · intro limit positive
    constructor
    · intro walks
      obtain ⟨visited, whole⟩ := walks
      exact whole.fits
    · exact exists_walksWhole link positive

/-- A limit of zero divides by zero, a large offset overflows, and so does the
last page of a walk with a large limit. -/
theorem paging_panics : getResponsePagingInfo (some 0) (some 0) "/keys?" 1 = none ∧
      getResponsePagingInfo (some 1) (some (2 ^ 64 - 1)) "/keys?" 1 = none ∧
        ¬ ∃ visited, WalksWhole "/keys?" (2 ^ 63 + 1) (2 ^ 64 - 1) visited := by
  refine ⟨rfl, rfl, ?_⟩
  intro walks
  obtain ⟨visited, whole⟩ := walks
  let total : Fin usizeSize := ⟨2 ^ 64 - 1, by decide⟩
  have fits : lastStart (2 ^ 63 + 1) total + (2 ^ 63 + 1) < usizeSize := WalksWhole.fits whole
  exact absurd fits (by decide)

/-- Twenty-five keys are answered and walked in pages of ten. -/
theorem paging_links_ten : (getResponsePagingInfo (some 10) (some 20) "/keys?" 25).isSome = true ∧
      ∃ visited, WalksWhole "/keys?" 10 25 visited := by
  have links := paging_links_iff "/keys?" ⟨25, by decide⟩
  exact ⟨(links.1 (some 10) (some 20)).mpr (by decide), (links.2 10 (by decide)).mpr (by decide)⟩

end Splinter.Routes
