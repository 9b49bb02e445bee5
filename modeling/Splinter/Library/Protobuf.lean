import Mathlib.Data.List.Basic
import Splinter.Library.Codec

/-!
# The protobuf wire format

Variable-length integers, tagged fields and messages as lists of fields, for
the two wire types that proto3 enumerations, integers, strings, byte strings
and nested messages use.  `fields_write` is the round trip.
-/

namespace Splinter.Library.Protobuf

/-- Base-128 digits, low digit first; all bytes but the last have the top bit
set.  The first argument bounds the number of continuation bytes. -/
def varintDigits : Nat → Nat → Bytes
  | 0, value => [UInt8.ofNat value]
  | bound + 1, value =>
    if value < 128 then
      [UInt8.ofNat value]
    else
      UInt8.ofNat (value % 128 + 128) :: varintDigits bound (value / 128)

def writeVarint (value : Nat) : Bytes := varintDigits value value

def readVarint : Bytes → Option (Nat × Bytes)
  | [] => none
  | byte :: rest =>
    if byte.toNat < 128 then
      some (byte.toNat, rest)
    else
      match readVarint rest with
      | none => none
      | some (high, remaining) => some (high * 128 + (byte.toNat - 128), remaining)

theorem readVarint_varintDigits {bound value : Nat} (rest : Bytes) (small : value ≤ bound) :
    readVarint (varintDigits bound value ++ rest) = some (value, rest) := by
  induction bound generalizing value with
  | zero =>
    have zero : value = 0 := by omega
    subst zero
    rfl
  | succ bound ih =>
    rw [varintDigits]
    by_cases single : value < 128
    · have fits : (UInt8.ofNat value).toNat = value := by
        rw [UInt8.toNat_ofNat']
        omega
      rw [if_pos single]
      simp [readVarint, fits, if_pos single]
    · have fits : (UInt8.ofNat (value % 128 + 128)).toNat = value % 128 + 128 := by
        rw [UInt8.toNat_ofNat']
        omega
      have shorter : value / 128 ≤ bound := by omega
      have continued : ¬ value % 128 + 128 < 128 := by omega
      rw [if_neg single]
      simp only [List.cons_append, readVarint, fits, if_neg continued, ih shorter]
      have whole : value / 128 * 128 + (value % 128 + 128 - 128) = value := by omega
      rw [whole]

@[simp]
theorem readVarint_writeVarint (value : Nat) (rest : Bytes) :
    readVarint (writeVarint value ++ rest) = some (value, rest) :=
  readVarint_varintDigits rest (Nat.le_refl value)

theorem writeVarint_ne_nil (value : Nat) : writeVarint value ≠ [] := by
  cases value with
  | zero => simp [writeVarint, varintDigits]
  | succ value =>
    rw [writeVarint, varintDigits]
    split <;> simp

/-- The value of a field: a number (wire type 0) or bytes with their length
(wire type 2). -/
inductive Value where
  | number (value : Nat)
  | delimited (bytes : Bytes)
  deriving DecidableEq

structure Field where
  number : Nat
  value : Value
  deriving DecidableEq

def writeField (field : Field) : Bytes :=
  match field.value with
  | .number value => writeVarint (field.number * 8) ++ writeVarint value
  | .delimited bytes => writeVarint (field.number * 8 + 2) ++ (writeVarint bytes.length ++ bytes)

def readField (input : Bytes) : Option (Field × Bytes) :=
  match readVarint input with
  | none => none
  | some (tag, rest) =>
    match readVarint rest with
    | none => none
    | some (value, remaining) =>
      if tag % 8 = 0 then
        some (⟨tag / 8, .number value⟩, remaining)
      else if tag % 8 = 2 ∧ value ≤ remaining.length then
        some (⟨tag / 8, .delimited (remaining.take value)⟩, remaining.drop value)
      else
        none

theorem readField_writeField (field : Field) (rest : Bytes) :
    readField (writeField field ++ rest) = some (field, rest) := by
  obtain ⟨number, value⟩ := field
  cases value with
  | number value =>
    have wireType : number * 8 % 8 = 0 := by omega
    have fieldNumber : number * 8 / 8 = number := by omega
    simp [writeField, readField, readVarint_writeVarint, wireType, fieldNumber]
  | delimited bytes =>
    have wireType : (number * 8 + 2) % 8 = 2 := by omega
    have fieldNumber : (number * 8 + 2) / 8 = number := by omega
    have present : bytes.length ≤ (bytes ++ rest).length := by simp
    simp only [writeField, readField, List.append_assoc,
      readVarint_writeVarint, wireType, fieldNumber, present, and_self,
      if_true, List.take_left, List.drop_left]
    rw [if_neg (by decide)]

def writeFields (fields : List Field) : Bytes := fields.flatMap writeField

/-- Read fields until the input is used up. -/
def readFields : Nat → Bytes → Option (List Field)
  | _, [] => some []
  | 0, _ :: _ => none
  | bound + 1, byte :: rest =>
    match readField (byte :: rest) with
    | none => none
    | some (field, remaining) => (readFields bound remaining).map (field :: ·)

theorem writeField_ne_nil (field : Field) : writeField field ≠ [] := by
  obtain ⟨number, value⟩ := field
  cases value <;> simp [writeField, writeVarint_ne_nil]

theorem readFields_writeFields {bound : Nat} (fields : List Field)
    (enough : fields.length ≤ bound) :
    readFields bound (writeFields fields) = some fields := by
  induction fields generalizing bound with
  | nil => cases bound <;> rfl
  | cons field rest ih =>
    obtain ⟨smaller, rfl⟩ : ∃ smaller, bound = smaller + 1 :=
      ⟨bound - 1, by simp only [List.length_cons] at enough; omega⟩
    have shorter : rest.length ≤ smaller := by simpa using enough
    have split : writeFields (field :: rest) = writeField field ++ writeFields rest := rfl
    have read := readField_writeField field (writeFields rest)
    match shape : writeField field with
    | [] => exact (writeField_ne_nil field shape).elim
    | byte :: bytes =>
      rw [shape, List.cons_append] at read
      rw [split, shape, List.cons_append, readFields, read]
      simp [ih shorter]

theorem length_le_writeFields (fields : List Field) :
    fields.length ≤ (writeFields fields).length := by
  induction fields with
  | nil => exact Nat.zero_le _
  | cons field rest ih =>
    have positive := List.length_pos_of_ne_nil (writeField_ne_nil field)
    have split : writeFields (field :: rest) = writeField field ++ writeFields rest := rfl
    rw [split, List.length_append, List.length_cons]
    omega

/-- The fields of a serialised message. -/
def fields (bytes : Bytes) : Option (List Field) := readFields bytes.length bytes

@[simp]
theorem fields_write (written : List Field) : fields (writeFields written) = some written :=
  readFields_writeFields written (length_le_writeFields written)

end Splinter.Library.Protobuf
