import Splinter.Library.Maps
import Splinter.Library.Run

/-!
# Bidirectional maps

`BiHashMap` is a map from keys to values and a map from values to keys.  Inserting
an entry overwrites an earlier one with the same key in one map and one with the
same value in the other, so nothing keeps the maps inverse to each other.
-/

namespace Splinter

open Library

variable {Key Value : Type} [DecidableEq Key]

structure BiHashMap (Key Value : Type) where
  kvHashMap : Finmap fun _ : Key => Value
  vkHashMap : Finmap fun _ : Value => Key

namespace BiHashMap

def new : BiHashMap Key Value where
  kvHashMap := ∅
  vkHashMap := ∅

def keys (map : BiHashMap Key Value) : Finset Key := map.kvHashMap.keys

/-- The size that is reported is that of the first map. -/
def len (map : BiHashMap Key Value) : Nat := map.kvHashMap.keys.card

def clear (_ : BiHashMap Key Value) : BiHashMap Key Value where
  kvHashMap := ∅
  vkHashMap := ∅

variable (map : BiHashMap Key Value)

def getByKey (key : Key) : Option Value := map.kvHashMap.lookup key

theorem mem_keys_iff (key : Key) : key ∈ map.keys ↔ ∃ value, map.getByKey key = some value := by
  unfold keys getByKey
  rw [Finmap.mem_keys, Finmap.mem_iff]

variable [DecidableEq Value]

def getByValue (value : Value) : Option Key :=
  map.vkHashMap.lookup value

/-- The overridden key and value are returned with the map. -/
def insert (key : Key) (value : Value) : (Option Key × Option Value) × BiHashMap Key Value :=
  ((map.getByValue value, map.getByKey key),
    { kvHashMap := map.kvHashMap.insert key value
      vkHashMap := map.vkHashMap.insert value key })

/-- The removed key and value are returned with the map, but not if the value
has lost its key. -/
def removeByKey (key : Key) : Option (Key × Value) × BiHashMap Key Value :=
  let kvHashMap := map.kvHashMap.erase key
  match map.getByKey key with
  | none => (none, { map with kvHashMap := kvHashMap })
  | some value =>
    ((map.getByValue value).map fun found => (found, value),
      { kvHashMap := kvHashMap
        vkHashMap := map.vkHashMap.erase value })

/-- As `removeByKey`, with the roles of the two maps exchanged. -/
def removeByValue (value : Value) : Option (Key × Value) × BiHashMap Key Value :=
  let vkHashMap := map.vkHashMap.erase value
  match map.getByValue value with
  | none => (none, { map with vkHashMap := vkHashMap })
  | some key =>
    ((map.getByKey key).map fun found => (key, found),
      { kvHashMap := map.kvHashMap.erase key
        vkHashMap := vkHashMap })

@[simp]
theorem getByKey_insert (key other : Key) (value : Value) :
    (map.insert key value).2.getByKey other =
      if other = key then some value else map.getByKey other :=
  lookup_insert_eq _ _ _ _

@[simp]
theorem getByValue_insert (key : Key) (value other : Value) :
    (map.insert key value).2.getByValue other =
      if other = value then some key else map.getByValue other :=
  lookup_insert_eq _ _ _ _

@[simp]
theorem getByKey_removeByKey (key other : Key) : (map.removeByKey key).2.getByKey other =
      if other = key then none else map.getByKey other := by
  unfold removeByKey
  split <;> exact lookup_erase_eq _ _ _

theorem getByValue_removeByKey (key : Key) (value : Value) :
    (map.removeByKey key).2.getByValue value =
      if map.getByKey key = some value then none
      else map.getByValue value := by
  unfold removeByKey
  split
  · rename_i absent
    rw [absent, if_neg nofun]
    rfl
  · rename_i removed present
    rw [present]
    have erased : (map.vkHashMap.erase removed).lookup value =
        if value = removed then none else map.vkHashMap.lookup value :=
      lookup_erase_eq _ _ _
    simp only [Option.some.injEq, eq_comm (a := removed)]
    exact erased

variable {map}

variable {key : Key} {value : Value}

theorem getByKey_of_removeByKey {found : Key}
    (removed : (map.removeByKey key).1 = some (found, value)) :
    map.getByKey key = some value := by
  unfold removeByKey at removed
  split at removed
  · cases removed
  · rename_i held present
    obtain ⟨_, _, same⟩ := Option.map_eq_some_iff.mp removed
    rw [present, (Prod.mk.inj same).2]

theorem removeByKey_absent (absent : map.getByKey key = none) :
    map.removeByKey key = (none, map) := by
  have unchanged : map.kvHashMap.erase key = map.kvHashMap := by
    apply Finmap.ext_lookup
    intro other
    rw [lookup_erase_eq]
    split
    · rename_i same
      rw [same]
      exact absent.symm
    · rfl
  unfold removeByKey
  rw [absent, unchanged]

def Paired (map : BiHashMap Key Value) : Prop :=
  ∀ key value, map.getByKey key = some value → map.getByValue value = some key

variable (paired : map.Paired)
include paired

theorem Paired.injective {other : Key} (found : map.getByKey key = some value)
    (same : map.getByKey other = some value) :
    key = other := by
  have resolved := paired key value found
  rw [paired other value same] at resolved
  exact (Option.some.inj resolved).symm

omit paired in
theorem paired_new : (new : BiHashMap Key Value).Paired := by
  intro key value found
  cases found

theorem Paired.insert (fresh : ∀ other, map.getByKey other = some value → other = key) :
    (map.insert key value).2.Paired := by
  intro other found resolved
  rw [getByKey_insert] at resolved
  rw [getByValue_insert]
  split at resolved
  · rename_i same
    cases resolved
    rw [if_pos rfl, same]
  · rename_i different
    have unlike : found ≠ value := by
      rintro rfl
      exact different (fresh other resolved)
    rw [if_neg unlike]
    exact paired other found resolved

theorem Paired.removeByKey (key : Key) : (map.removeByKey key).2.Paired := by
  intro other value found
  rw [getByKey_removeByKey] at found
  split at found
  · cases found
  · rename_i different
    rw [getByValue_removeByKey, if_neg]
    · exact paired other value found
    · intro same
      exact different (paired.injective found same)

theorem Paired.fst_removeByKey (key : Key) : (map.removeByKey key).1 =
    (map.getByKey key).map fun value => (key, value) := by
  unfold BiHashMap.removeByKey
  split
  · rename_i absent
    rw [absent]
    rfl
  · rename_i value present
    rw [present, paired key value present]
    rfl

/-! ## The two maps as inverses of each other -/

/-- The map with the roles of keys and values exchanged. -/
def flip (map : BiHashMap Key Value) : BiHashMap Value Key where
  kvHashMap := map.vkHashMap
  vkHashMap := map.kvHashMap

omit paired in
theorem removeByValue_eq_flip (map : BiHashMap Key Value) (value : Value) :
    map.removeByValue value =
      ((map.flip.removeByKey value).1.map Prod.swap, (map.flip.removeByKey value).2.flip) := by
  have sameLookup : map.flip.getByKey value = map.getByValue value := rfl
  unfold removeByValue removeByKey
  rw [sameLookup]
  cases map.getByValue value with
  | none => rfl
  | some key =>
    rw [Option.map_map]
    rfl

/-- Keys and values determine each other, so both maps have the same size and
a removal removes, and returns, one entry of both. -/
structure Bijective (map : BiHashMap Key Value) : Prop where
  inverse : ∀ key value, map.getByKey key = some value ↔ map.getByValue value = some key
  sameSize : map.len = map.vkHashMap.keys.card
  removedByKey : ∀ key value, map.getByKey key = some value →
    (map.removeByKey key).1 = some (key, value) ∧
    (map.removeByKey key).2.getByKey key = none ∧
    (map.removeByKey key).2.getByValue value = none
  removedByValue : ∀ key value, map.getByValue value = some key →
    (map.removeByValue value).1 = some (key, value) ∧
    (map.removeByValue value).2.getByKey key = none ∧
    (map.removeByValue value).2.getByValue value = none

theorem Paired.card_le : map.kvHashMap.keys.card ≤ map.vkHashMap.keys.card := by
  have injective : Set.InjOn map.getByKey (map.kvHashMap.keys : Set Key) := by
    intro key present other _ same
    obtain ⟨value, found⟩ := (map.mem_keys_iff key).mp present
    exact paired.injective found (same ▸ found)
  have covered : map.kvHashMap.keys.image map.getByKey ⊆ map.vkHashMap.keys.image some := by
    intro result member
    obtain ⟨key, present, rfl⟩ := Finset.mem_image.mp member
    obtain ⟨value, found⟩ := (map.mem_keys_iff key).mp present
    have known : value ∈ map.flip.keys :=
      (map.flip.mem_keys_iff value).mpr ⟨key, paired key value found⟩
    exact Finset.mem_image.mpr ⟨value, known, found.symm⟩
  calc map.kvHashMap.keys.card
    = (map.kvHashMap.keys.image map.getByKey).card := (Finset.card_image_of_injOn injective).symm
    _ ≤ (map.vkHashMap.keys.image some).card := Finset.card_le_card covered
    _ ≤ map.vkHashMap.keys.card := Finset.card_image_le

theorem Paired.removes (found : map.getByKey key = some value) :
    (map.removeByKey key).1 = some (key, value) ∧ (map.removeByKey key).2.getByKey key = none ∧
      (map.removeByKey key).2.getByValue value = none := by
  refine ⟨?_, ?_, ?_⟩
  · rw [paired.fst_removeByKey, found]
    rfl
  · rw [getByKey_removeByKey, if_pos rfl]
  · rw [getByValue_removeByKey, if_pos found]

omit paired in
theorem bijective_iff (map : BiHashMap Key Value) :
    map.Bijective ↔ map.Paired ∧ map.flip.Paired := by
  constructor
  · intro bijective
    exact
      ⟨fun key value => (bijective.inverse key value).mp,
        fun value key => (bijective.inverse key value).mpr⟩
  · rintro ⟨paired, flipped⟩
    refine ⟨?_, ?_, ?_, ?_⟩
    · intro key value
      exact ⟨paired key value, flipped value key⟩
    · exact le_antisymm paired.card_le flipped.card_le
    · intro key value found
      exact paired.removes found
    · intro key value found
      obtain ⟨returned, noValue, noKey⟩ := flipped.removes found
      rw [removeByValue_eq_flip, returned]
      exact ⟨rfl, noKey, noValue⟩

/-- Neither the key nor the value has another partner. -/
def Insertable (map : BiHashMap Key Value) (key : Key) (value : Value) : Prop :=
  (map.getByKey key = none ∨ map.getByKey key = some value) ∧
    (map.getByValue value = none ∨ map.getByValue value = some key)

instance (map : BiHashMap Key Value) (key : Key) (value : Value) :
    Decidable (map.Insertable key value) :=
  inferInstanceAs (Decidable (_ ∧ _))

inductive Operation (Key Value : Type) where
  | insert (key : Key) (value : Value)
  | removeByKey (key : Key)
  | removeByValue (value : Value)
  | clear
  deriving DecidableEq

def perform (operation : Operation Key Value) (map : BiHashMap Key Value) : BiHashMap Key Value :=
  match operation with
  | .insert key value => (map.insert key value).2
  | .removeByKey key => (map.removeByKey key).2
  | .removeByValue value => (map.removeByValue value).2
  | .clear => map.clear

/-- An inserted entry has no other partners; the other calls are free. -/
def Compatible (map : BiHashMap Key Value) : Operation Key Value → Prop
  | .insert key value => map.Insertable key value
  | _ => True

instance (map : BiHashMap Key Value) (operation : Operation Key Value) :
    Decidable (map.Compatible operation) := by
  cases operation <;> dsimp only [Compatible] <;> infer_instance

theorem Paired.free_of_insert (inserted : (map.insert key value).2.flip.Paired) :
    map.getByKey key = none ∨ map.getByKey key = some value := by
  cases held : map.getByKey key with
  | none => exact Or.inl rfl
  | some old =>
    right
    by_contra different
    have unlike : old ≠ value := fun same => different (congrArg some same)
    have stale : (map.insert key value).2.getByValue old = some key := by
      rw [getByValue_insert, if_neg unlike]
      exact paired key old held
    have kept : (map.insert key value).2.getByKey key = some old := inserted old key stale
    rw [getByKey_insert, if_pos rfl] at kept
    exact different kept.symm

theorem Paired.insert_of_free
    (free : map.getByValue value = none ∨ map.getByValue value = some key) :
    (map.insert key value).2.Paired := by
  refine paired.insert ?_
  intro other found
  have resolved := paired other value found
  rcases free with absent | same
  · rw [absent] at resolved
    cases resolved
  · rw [same] at resolved
    exact (Option.some.inj resolved).symm

omit paired

theorem bijective_insert_iff (bijective : map.Bijective) (key : Key) (value : Value) :
    (map.insert key value).2.Bijective ↔ map.Insertable key value := by
  obtain ⟨paired, flipped⟩ := (bijective_iff map).mp bijective
  rw [bijective_iff]
  constructor
  · rintro ⟨inserted, insertedFlipped⟩
    exact ⟨paired.free_of_insert insertedFlipped, flipped.free_of_insert inserted⟩
  · rintro ⟨freeKey, freeValue⟩
    exact ⟨paired.insert_of_free freeValue, flipped.insert_of_free freeKey⟩

theorem Bijective.removeByKey (bijective : map.Bijective) (key : Key) :
    (map.removeByKey key).2.Bijective := by
  obtain ⟨paired, flipped⟩ := (bijective_iff map).mp bijective
  refine (bijective_iff _).mpr ⟨paired.removeByKey key, ?_⟩
  intro value other found
  have held : (map.removeByKey key).2.getByValue value = some other := found
  rw [getByValue_removeByKey] at held
  split at held
  · cases held
  · rename_i kept
    have resolved := flipped value other held
    have different : other ≠ key := by
      rintro rfl
      exact kept resolved
    have remains : (map.removeByKey key).2.getByKey other = some value := by
      rw [getByKey_removeByKey, if_neg different]
      exact resolved
    exact remains

theorem bijective_flip_iff (map : BiHashMap Key Value) : map.flip.Bijective ↔ map.Bijective := by
  rw [bijective_iff, bijective_iff map]
  exact and_comm

theorem Bijective.removeByValue (bijective : map.Bijective) (value : Value) :
    (map.removeByValue value).2.Bijective := by
  have flipped := (bijective_flip_iff map).mpr bijective
  rw [removeByValue_eq_flip]
  exact (bijective_flip_iff _).mpr (flipped.removeByKey value)

theorem bijective_new : (new : BiHashMap Key Value).Bijective :=
  (bijective_iff _).mpr ⟨paired_new, paired_new⟩

theorem bijective_perform_iff (bijective : map.Bijective) (operation : Operation Key Value) :
    (map.perform operation).Bijective ↔ map.Compatible operation := by
  cases operation with
  | insert key value => exact bijective_insert_iff bijective key value
  | removeByKey key => exact iff_true_intro (bijective.removeByKey key)
  | removeByValue value => exact iff_true_intro (bijective.removeByValue value)
  | clear => exact iff_true_intro bijective_new

/-- The maps stay inverse to each other in exactly those sequences of calls in
which every insertion finds its key and its value without another partner. -/
theorem bijective_throughout_iff {path : List (BiHashMap Key Value × Operation Key Value)}
    {last : BiHashMap Key Value}
    (run : Run (fun before operation after => after = before.perform operation) new path last) :
    Run.Throughout Bijective path last ↔ Run.Meets Compatible path := by
  refine Run.forall_states_iff Bijective Compatible run bijective_new ?_
  rintro before operation _ bijective rfl
  exact bijective_perform_iff bijective operation

/-- An entry is taken out, and its key is inserted again with another value. -/
theorem bijective_rebound : Run.Throughout Bijective
      (Run.follow perform [.insert "ONE" 1, .insert "ONE" 1, .removeByValue 1, .insert "ONE" 3]
        (new : BiHashMap String Nat)).1
      (Run.follow perform [.insert "ONE" 1, .insert "ONE" 1, .removeByValue 1, .insert "ONE" 3]
        (new : BiHashMap String Nat)).2 :=
  (bijective_throughout_iff (Run.run_follow _ _ _)).mpr (by decide +kernel)

/-- The second key takes the value over; the first key still has it, and is not
returned when it is removed. -/
theorem value_shared_by_keys : ∃ path, ∃ last : BiHashMap String Nat,
      Run (fun before operation after => after = before.perform operation) new path last ∧
      path.map Prod.snd = [.insert "ONE" 1, .insert "TWO" 1, .removeByValue 1] ∧
      ¬ Run.Throughout Bijective path last ∧
      last.getByKey "ONE" = some 1 ∧
      last.getByValue 1 = none ∧
      last.len = 1 ∧ last.vkHashMap.keys.card = 0 ∧
      (last.removeByKey "ONE").1 = none := by
  refine ⟨_, _, Run.run_follow _ [_, _, _] _, rfl, ?_, ?_⟩
  · rintro ⟨_, bijective⟩
    have resolved := (bijective.inverse "ONE" 1).mp (by decide +kernel)
    revert resolved
    decide +kernel
  · decide +kernel

end BiHashMap

end Splinter
