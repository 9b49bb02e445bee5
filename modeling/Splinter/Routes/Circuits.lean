import Mathlib.Data.String.Basic
import Splinter.Circuits.State
import Splinter.Library.Maps
import Splinter.Routes.Paging

/-!
# The circuit routes

`query_list_circuits` filters the circuits by a member, cuts a page and reports
paging information about what it has cut.
-/

namespace Splinter.Routes

open Circuits Library

structure CircuitResponse where
  id : String
  auth : AuthorizationType
  members : List String
  roster : Roster
  persistence : PersistenceType
  durability : DurabilityType
  routes : RouteType
  circuitManagementType : String
  deriving DecidableEq

def CircuitResponse.of (entry : String × Circuit) : CircuitResponse where
  id := entry.1
  auth := entry.2.auth
  members := entry.2.members
  roster := entry.2.roster
  persistence := entry.2.persistence
  durability := entry.2.durability
  routes := entry.2.routes
  circuitManagementType := entry.2.circuitManagementType

structure ListCircuitsResponse where
  data : List CircuitResponse
  paging : Paging
  deriving DecidableEq

/-- The page that is shown, and the count that is reported for it. -/
def circuitsData (circuits : TextMap Circuit) (filters : Option String)
    (offsetValue limitValue : Nat) : List CircuitResponse × Nat :=
  if circuits ≠ ∅ then
    match filters with
    | some filter =>
      let data :=
        (((entriesInOrder circuits).filter
          (fun entry => filter ∈ entry.2.members)).drop offsetValue).take
            limitValue |>.map CircuitResponse.of
      (data, data.length)
    | none =>
      let data := ((entriesInOrder circuits).drop offsetValue).take limitValue
        |>.map CircuitResponse.of
      (data, data.length)
  else
    ([], circuits.keys.card)

def queryListCircuits (circuits : TextMap Circuit) (link : String)
    (filters : Option String) (offset limit : Option Nat) :
    Option ListCircuitsResponse := do
  let found := circuitsData circuits filters (offset.getD 0)
    (limit.getD circuits.keys.card)
  let paging ← getResponsePagingInfo limit offset link found.2
  return { data := found.1, paging := paging }

def matching (circuits : TextMap Circuit) (filters : Option String) : List (String × Circuit) :=
  (entriesInOrder circuits).filter fun entry =>
    filters.all fun filter => decide (filter ∈ entry.2.members)

theorem mem_matching {circuits : TextMap Circuit} {filters : Option String}
    {entry : String × Circuit} :
    entry ∈ matching circuits filters ↔ circuits.lookup entry.1 = some entry.2 ∧
      ∀ filter ∈ filters, filter ∈ entry.2.members := by
  unfold matching
  rw [List.mem_filter, mem_entriesInOrder]
  cases filters with
  | none => simp
  | some filter => simp

theorem matching_none (circuits : TextMap Circuit) :
    matching circuits none = entriesInOrder circuits :=
  List.filter_eq_self.mpr fun _ _ => rfl

theorem circuitsData_eq (circuits : TextMap Circuit) (filters : Option String)
    (offset limit : Nat) :
    circuitsData circuits filters offset limit =
      ((page limit offset (matching circuits filters)).map CircuitResponse.of,
        (page limit offset (matching circuits filters)).length) := by
  unfold circuitsData
  split
  · cases filters with
    | none =>
      dsimp only
      rw [List.length_map, matching_none]
      rfl
    | some filter =>
      dsimp only
      rw [List.length_map]
      rfl
  · rename_i nonempty
    obtain rfl := not_not.mp nonempty
    have none : matching ∅ filters = [] := by
      rw [List.eq_nil_iff_forall_not_mem]
      intro entry member
      have present := (mem_matching.mp member).1
      rw [Finmap.lookup_empty] at present
      cases present
    rw [none]
    simp [page]

section Listing

variable (circuits : TextMap Circuit) (link : String) (filters : Option String)

def listing (limit offset : Nat) : Option ListCircuitsResponse :=
  queryListCircuits circuits link filters (some offset) (some limit)

def received (visited : List (Nat × ListCircuitsResponse)) : List CircuitResponse :=
  visited.flatMap fun stop => stop.2.data

theorem received_singleton (stop : Nat × ListCircuitsResponse) : received [stop] = stop.2.data := by
  simp [received]

variable {circuits link filters} {limit : Fin usizeSize}

theorem listing_eq_some_iff (positive : 0 < (limit : Nat)) {offset : Nat}
    {response : ListCircuitsResponse} :
    listing circuits link filters limit offset = some response ↔ offset + limit < usizeSize ∧
        response =
          { data := (page limit offset (matching circuits filters)).map
                CircuitResponse.of
            paging := pagingInfo link limit offset
                (page limit offset (matching circuits filters)).length } := by
  have small : (page limit offset (matching circuits filters)).length < usizeSize := by
    refine Nat.lt_of_le_of_lt ?_ limit.isLt
    exact List.length_take_le ..
  have answered := getResponsePagingInfo_eq (some (limit : Nat)) (some offset) link ⟨_, small⟩
  have divides :
      (((⟨_, small⟩ : Fin usizeSize) : Nat) = 0 ∨ (some (limit : Nat)).getD defaultLimit ≠ 0) :=
    Or.inr (Nat.ne_of_gt positive)
  unfold listing queryListCircuits
  rw [Option.getD_some, Option.getD_some, circuitsData_eq]
  dsimp only
  rw [answered]
  by_cases fits : offset + limit < usizeSize
  · rw [if_pos ⟨divides, fits⟩]
    constructor
    · intro same
      exact ⟨fits, (Option.some.inj same).symm⟩
    · intro same
      exact congrArg some same.2.symm
  · rw [if_neg (fun both => fits both.2)]
    constructor
    · intro same
      cases same
    · intro same
      exact absurd same.1 fits

theorem walk_listing (circuits : TextMap Circuit) (link : String) (filters : Option String)
    (positive : 0 < (limit : Nat)) :
    ∃ response, response.data = ((matching circuits filters).take limit).map CircuitResponse.of ∧
      response.paging.total = response.data.length ∧
      Walk (listing circuits link filters limit)
        (fun response => response.paging.next) (pageLink link limit) 0
        [(0, response)] := by
  have answered : listing circuits link filters limit 0 = some _ :=
    (listing_eq_some_iff positive).mpr ⟨by have := limit.isLt; omega, rfl⟩
  refine ⟨_, rfl, (List.length_map _).symm, Walk.stop answered ?_⟩
  refine congrArg (pageLink link limit) ?_
  have onePage : lastStart limit (page limit 0 (matching circuits filters)).length = 0 := by
    have short : (page limit 0 (matching circuits filters)).length ≤ limit := List.length_take_le ..
    unfold lastStart
    rw [Nat.div_eq_of_lt (by omega), Nat.zero_mul]
  rw [onePage]
  exact Nat.min_zero _

/-- The reported total is the number of matching circuits exactly for a first
page that holds them all, and a client that follows the links receives all of
them exactly if they fit on that page. -/
theorem circuit_listing_iff (circuits : TextMap Circuit) (link : String) (filters : Option String)
    (limit : Fin usizeSize) (positive : 1 ≤ (limit : Nat)) :
    (∀ offset response, listing circuits link filters limit offset = some response →
          (response.paging.total = (matching circuits filters).length ↔
            matching circuits filters = [] ∨
              offset = 0 ∧ (matching circuits filters).length ≤ limit)) ∧
      (∃ visited, Walk (listing circuits link filters limit)
          (fun response => response.paging.next) (pageLink link limit) 0
          visited) ∧
      ∀ visited, Walk (listing circuits link filters limit)
            (fun response => response.paging.next) (pageLink link limit) 0
            visited →
          ((received visited).Perm ((matching circuits filters).map CircuitResponse.of) ↔
            (matching circuits filters).length ≤ limit) := by
  obtain ⟨first, data, _, walk⟩ := walk_listing circuits link filters positive
  refine ⟨?_, ⟨_, walk⟩, ?_⟩
  · intro offset response answered
    obtain ⟨_, rfl⟩ := (listing_eq_some_iff positive).mp answered
    have total : (page limit offset (matching circuits filters)).length =
          min (limit : Nat) ((matching circuits filters).length - offset) := by
      rw [page, List.length_take, List.length_drop]
    rw [← List.length_eq_zero_iff]
    change (page _ _ _).length = _ ↔ _
    rw [total]
    omega
  · intro visited another
    rw [another.unique (pageLink_injective link limit) walk, received_singleton, data]
    constructor
    · intro same
      have lengths := same.length_eq
      rw [List.length_map, List.length_map, List.length_take] at lengths
      omega
    · intro fits
      rw [List.take_of_length_le fits]

def openCircuit (name : String) : Circuit where
  id := name
  auth := .trust
  members := ["alpha"]
  roster := .standard []
  persistence := .any
  durability := .noDurability
  routes := .any
  circuitManagementType := "gameroom"

def twoCircuits : TextMap Circuit :=
  (Finmap.singleton "first" (openCircuit "first")).insert "second" (openCircuit "second")

theorem length_matching_twoCircuits : (matching twoCircuits none).length = 2 := by
  rw [matching_none, length_entriesInOrder]
  decide

/-- With two circuits and a limit of one the total is one, and the `next` link
of the first page leads nowhere else. -/
theorem second_circuit_unreachable : ∃ response, response.paging.total = 1 ∧
        Walk (listing twoCircuits "/circuits?" none 1)
            (fun response => response.paging.next) (pageLink "/circuits?" 1) 0
            [(0, response)] ∧
          (received [(0, response)]).length = 1 ∧ (matching twoCircuits none).length = 2 := by
  let limit : Fin usizeSize := ⟨1, by decide⟩
  have positive : 0 < (limit : Nat) := Nat.one_pos
  obtain ⟨response, data, total, walk⟩ := walk_listing twoCircuits "/circuits?" none positive
  have one : response.data.length = 1 := by
    rw [data, List.length_map, List.length_take, length_matching_twoCircuits]
    rfl
  rw [one] at total
  refine ⟨response, total, walk, ?_, length_matching_twoCircuits⟩
  rw [received_singleton]
  exact one

/-- Both circuits are received when the limit is two. -/
theorem two_circuits_listed : ∃ visited, Walk (listing twoCircuits "/circuits?" none 2)
          (fun response => response.paging.next) (pageLink "/circuits?" 2) 0
          visited ∧
        (received visited).Perm ((matching twoCircuits none).map CircuitResponse.of) := by
  obtain ⟨_, ⟨visited, walk⟩, complete⟩ :=
    circuit_listing_iff twoCircuits "/circuits?" none ⟨2, by decide⟩ (by decide)
  refine ⟨visited, walk, (complete visited walk).mpr ?_⟩
  rw [length_matching_twoCircuits]

end Listing

end Splinter.Routes
