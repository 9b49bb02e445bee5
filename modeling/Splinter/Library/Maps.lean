import Mathlib.Data.Finmap
import Mathlib.Data.Finset.Sort

/-!
# Finite maps

What a finite map looks up after its entries have been filtered or changed,
and the lookups after insertions or a removal as case distinctions.
`entriesInOrder` lists the entries of a map in the order of their keys.
-/

namespace Splinter.Library

variable {Key Value : Type} [DecidableEq Key] (map : Finmap fun _ : Key => Value)

theorem lookup_insert_eq (key other : Key) (value : Value) : (map.insert key value).lookup other =
    if other = key then some value else map.lookup other := by
  split
  · rename_i same
    rw [same, Finmap.lookup_insert]
  · rename_i different
    exact Finmap.lookup_insert_of_ne _ different

theorem lookup_erase_eq (key other : Key) : (map.erase key).lookup other =
    if other = key then none else map.lookup other := by
  split
  · rename_i same
    rw [same, Finmap.lookup_erase]
  · rename_i different
    exact Finmap.lookup_erase_ne different

theorem insert_eq_self_iff {map : Finmap fun _ : Key => Value} {key : Key} {value : Value} :
    map.insert key value = map ↔ map.lookup key = some value := by
  constructor
  · intro same
    rw [← same]
    exact Finmap.lookup_insert _
  · intro found
    refine Finmap.ext_lookup fun other => ?_
    rw [lookup_insert_eq]
    split
    · rename_i same
      rw [same, found]
    · rfl

theorem erase_eq_self_iff {map : Finmap fun _ : Key => Value} {key : Key} :
    map.erase key = map ↔ map.lookup key = none := by
  constructor
  · intro same
    rw [← same]
    exact Finmap.lookup_erase _ _
  · intro absent
    refine Finmap.ext_lookup fun other => ?_
    rw [lookup_erase_eq]
    split
    · rename_i same
      rw [same, absent]
    · rfl

theorem lookup_of_erase {map : Finmap fun _ : Key => Value} {key other : Key} {value : Value}
    (found : (map.erase other).lookup key = some value) :
    map.lookup key = some value := by
  rw [lookup_erase_eq] at found
  split at found
  · cases found
  · exact found

theorem lookup_of_insert {map : Finmap fun _ : Key => Value} {key other : Key}
    {value inserted : Value} (found : (map.insert other inserted).lookup key = some value) :
    map.lookup key = some value ∨ key = other ∧ value = inserted := by
  rw [lookup_insert_eq] at found
  split at found
  · rename_i same
    exact Or.inr ⟨same, (Option.some.inj found).symm⟩
  · exact Or.inl found

omit [DecidableEq Key] in
theorem card_entries : Multiset.card map.entries = map.keys.card :=
  (Multiset.card_map Sigma.fst map.entries).symm

theorem keys_insert_eq (key : Key) (value : Value) :
    (map.insert key value).keys = insert key map.keys := by
  ext other
  rw [Finmap.mem_keys, Finmap.mem_insert, Finset.mem_insert, Finmap.mem_keys]

def insertAll (entries : List (Key × Value))
    (map : Finmap fun _ : Key => Value) : Finmap fun _ : Key => Value :=
  entries.foldl (fun map entry => map.insert entry.1 entry.2) map

theorem mem_of_lookup_insertAll {entries : List (Key × Value)} {map : Finmap fun _ : Key => Value}
    {key : Key} {value : Value} (found : (insertAll entries map).lookup key = some value) :
    (key, value) ∈ entries ∨ map.lookup key = some value := by
  induction entries generalizing map with
  | nil => exact Or.inr found
  | cons entry entries ih =>
    obtain ⟨first, given⟩ := entry
    rcases ih found with later | earlier
    · exact Or.inl (List.mem_cons_of_mem _ later)
    · rcases lookup_of_insert earlier with before | ⟨rfl, rfl⟩
      · exact Or.inr before
      · exact Or.inl (List.mem_cons_self ..)

theorem isSome_lookup_insertAll {entries : List (Key × Value)} {map : Finmap fun _ : Key => Value}
    {key : Key} :
    ((insertAll entries map).lookup key).isSome = true ↔
      key ∈ entries.map Prod.fst ∨ (map.lookup key).isSome = true := by
  induction entries generalizing map with
  | nil => simp [insertAll]
  | cons entry entries ih =>
    obtain ⟨first, given⟩ := entry
    refine ih.trans ?_
    rw [lookup_insert_eq, List.map_cons, List.mem_cons]
    by_cases same : key = first
    · simp [same]
    · simp [same]

theorem lookup_insertAll_of_notMem
    {entries : List (Key × Value)} {map : Finmap fun _ : Key => Value}
    {key : Key} (untouched : key ∉ entries.map Prod.fst) :
    (insertAll entries map).lookup key = map.lookup key := by
  induction entries generalizing map with
  | nil => rfl
  | cons entry entries ih =>
    rw [List.map_cons, List.mem_cons, not_or] at untouched
    refine (ih untouched.2).trans ?_
    exact Finmap.lookup_insert_of_ne _ untouched.1

theorem lookup_insertAll {entries : List (Key × Value)}
    (agree : ∀ left ∈ entries, ∀ right ∈ entries, left.1 = right.1 → left.2 = right.2)
    (key : Key) (value : Value) :
    (insertAll entries map).lookup key = some value ↔ (key, value) ∈ entries ∨
      map.lookup key = some value ∧ key ∉ entries.map Prod.fst := by
  induction entries generalizing map with
  | nil => simp [insertAll]
  | cons entry entries ih =>
    obtain ⟨first, given⟩ := entry
    have others : ∀ left ∈ entries, ∀ right ∈ entries, left.1 = right.1 → left.2 = right.2 :=
      fun left member right member' =>
        agree left (List.mem_cons_of_mem _ member) right (List.mem_cons_of_mem _ member')
    have split := ih (map.insert first given) others
    unfold insertAll at split ⊢
    rw [List.foldl_cons, split, lookup_insert_eq, List.mem_cons,
      Prod.mk.injEq, List.map_cons, List.mem_cons, not_or]
    by_cases same : key = first
    · subst same
      rw [if_pos rfl, Option.some_inj]
      constructor
      · intro either
        rcases either with later | ⟨isGiven, _⟩
        · exact Or.inl (Or.inr later)
        · exact Or.inl (Or.inl ⟨rfl, isGiven.symm⟩)
      · intro either
        rcases either with (⟨_, isGiven⟩ | later) | ⟨_, different, _⟩
        · by_cases listed : key ∈ entries.map Prod.fst
          · obtain ⟨other, member, sameKey⟩ := List.mem_map.mp listed
            have sameValue := agree (key, given) (List.mem_cons_self ..) other
              (List.mem_cons_of_mem _ member) sameKey.symm
            left
            rw [isGiven, ← sameKey]
            rw [show given = other.2 from sameValue]
            exact member
          · exact Or.inr ⟨isGiven.symm, listed⟩
        · exact Or.inl later
        · exact absurd rfl different
    · simp [same]

def entriesInOrder {Key : Type} [LinearOrder Key]
    (map : Finmap fun _ : Key => Value) : List (Key × Value) :=
  (map.keys.sort (· ≤ ·)).filterMap fun key =>
    (map.lookup key).map fun item => (key, item)

theorem mem_entriesInOrder {Key : Type} [LinearOrder Key]
    {map : Finmap fun _ : Key => Value} {entry : Key × Value} :
    entry ∈ entriesInOrder map ↔ map.lookup entry.1 = some entry.2 := by
  unfold entriesInOrder
  rw [List.mem_filterMap]
  constructor
  · intro found
    obtain ⟨key, _, present⟩ := found
    obtain ⟨item, looked, rfl⟩ := Option.map_eq_some_iff.mp present
    exact looked
  · intro looked
    refine ⟨entry.1, ?_, Option.map_eq_some_iff.mpr ⟨entry.2, looked, rfl⟩⟩
    rw [Finset.mem_sort]
    exact Finmap.mem_iff.mpr ⟨entry.2, looked⟩

theorem map_fst_entriesInOrder {Key : Type} [LinearOrder Key] (map : Finmap fun _ : Key => Value) :
    (entriesInOrder map).map Prod.fst = map.keys.sort (· ≤ ·) := by
  unfold entriesInOrder
  rw [List.map_filterMap]
  have present (key : Key) (member : key ∈ map.keys.sort (· ≤ ·)) :
      ((map.lookup key).map fun item => (key, item)).map Prod.fst = some key := by
    rw [Finset.mem_sort] at member
    obtain ⟨item, looked⟩ := Finmap.mem_iff.mp member
    rw [looked]
    rfl
  rw [List.filterMap_congr present, List.filterMap_some]

theorem length_entriesInOrder {Key : Type} [LinearOrder Key] (map : Finmap fun _ : Key => Value) :
    (entriesInOrder map).length = map.keys.card := by
  rw [← List.length_map Prod.fst, map_fst_entriesInOrder, Finset.length_sort]

/-- Keep the entries whose values pass a test. -/
def retain (keep : Value → Bool) (map : Finmap fun _ : Key => Value) :
    Finmap fun _ : Key => Value where
  entries := map.entries.filter fun entry => keep entry.2
  nodupKeys := by
    rw [← Multiset.nodup_keys]
    have distinct := Multiset.nodup_keys.mpr map.nodupKeys
    have fewer := Multiset.filter_le (fun entry => keep entry.2) map.entries
    exact Multiset.nodup_of_le (Multiset.map_le_map fewer) distinct

theorem lookup_retain_eq_some_iff (keep : Value → Bool)
    (map : Finmap fun _ : Key => Value) (key : Key) (value : Value) :
    (retain keep map).lookup key = some value ↔
      map.lookup key = some value ∧ keep value = true := by
  rw [Finmap.lookup_eq_some_iff, Finmap.lookup_eq_some_iff]
  exact Multiset.mem_filter

def mapValues (change : Value → Value) (map : Finmap fun _ : Key => Value) :
    Finmap fun _ : Key => Value where
  entries := map.entries.map fun entry => ⟨entry.1, change entry.2⟩
  nodupKeys := by
    rw [← Multiset.nodup_keys]
    have distinct := Multiset.nodup_keys.mpr map.nodupKeys
    unfold Multiset.keys
    rw [Multiset.map_map]
    exact distinct

theorem lookup_mapValues_eq_some_iff (change : Value → Value)
    (map : Finmap fun _ : Key => Value) (key : Key) (value : Value) :
    (mapValues change map).lookup key = some value ↔
      ∃ earlier, map.lookup key = some earlier ∧ change earlier = value := by
  simp only [Finmap.lookup_eq_some_iff]
  unfold mapValues
  simp only [Multiset.mem_map]
  constructor
  · rintro ⟨⟨found, earlier⟩, member, same⟩
    cases same
    exact ⟨earlier, member, rfl⟩
  · rintro ⟨earlier, member, rfl⟩
    exact ⟨⟨key, earlier⟩, member, rfl⟩

theorem lookup_mapValues (change : Value → Value) (map : Finmap fun _ : Key => Value) (key : Key) :
    (mapValues change map).lookup key = (map.lookup key).map change := by
  ext value
  rw [lookup_mapValues_eq_some_iff, Option.map_eq_some_iff]

end Splinter.Library
