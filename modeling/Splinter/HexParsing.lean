import Splinter.Hex
import Mathlib.Data.List.Induction

/-!
# What `parse_hex` accepts

`parse_hex` slices the text at every second byte, which panics within a character, and
`u8::from_str_radix` accepts a plus sign.
-/

namespace Splinter

open Library
open Service (ErrorText)

/-- `str::is_char_boundary` at the beginning of what remains of a text. -/
def isCharBoundary : Bytes → Bool
  | [] => true
  | next :: _ => ¬ (128 ≤ next.toNat ∧ next.toNat < 192)

/-- The loop of `parse_hex`: a slice that does not end at a boundary panics. -/
def parseHexPairs : Bytes → Option (Option Bytes)
  | high :: low :: rest =>
    if isCharBoundary rest then
      match parseHexByte high low with
      | some byte => (parseHexPairs rest).map (Option.map (byte :: ·))
      | none => some none
    else none
  | _ => some (some [])

/-- `parse_hex`, which returns or panics. -/
def runParseHex (hex : String) : Option (Except ErrorText Bytes) :=
  if (asBytes hex).length % 2 ≠ 0 then
    some (.error (hex ++ " is not valid hex: odd number of digits"))
  else
    (parseHexPairs (asBytes hex)).map fun
      | some bytes => .ok bytes
      | none => .error (hex ++ " contains invalid hex: invalid digit found in string")

def HexDigits (bytes : Bytes) : Prop := ∀ byte ∈ bytes, (hexValue byte).isSome

def lowerCase (byte : UInt8) : UInt8 :=
  if 65 ≤ byte.toNat ∧ byte.toNat ≤ 90 then byte + 32 else byte

/-- The parser returns, accepts just the texts of pairs of digits, and loses only their case. -/
def ParsesExactly (hex : String) : Prop :=
  ∃ result, runParseHex hex = some result ∧
    ((∃ bytes, result = .ok bytes) ↔ (asBytes hex).length % 2 = 0 ∧ HexDigits (asBytes hex)) ∧
    ∀ bytes, result = .ok bytes → asBytes (toHex bytes) = (asBytes hex).map lowerCase

/-! ## The digits -/

def hexCode (value : Nat) : UInt8 := UInt8.ofNat (if value < 10 then 48 + value else 87 + value)

theorem hexCode_spec : ∀ value < 16,
    String.utf8EncodeChar (hexDigit value) = [hexCode value] ∧
      hexValue (hexCode value) = some value ∧ isCharBoundary [hexCode value] := by
  decide

theorem hexValue_spec {digit : UInt8} {value : Nat} (valued : hexValue digit = some value) :
    value < 16 ∧ hexCode value = lowerCase digit ∧ digit ≠ 43 := by
  have all : ∀ code < 256, ∀ value ∈ hexValue (UInt8.ofNat code),
      value < 16 ∧ hexCode value = lowerCase (UInt8.ofNat code) ∧ UInt8.ofNat code ≠ 43 := by
    decide +kernel
  have this := all digit.toNat digit.toNat_lt value
  rw [UInt8.ofNat_toNat] at this
  exact this valued

theorem asBytes_toHex (bytes : Bytes) : asBytes (toHex bytes) =
    bytes.flatMap fun byte => [hexCode (byte.toNat / 16), hexCode (byte.toNat % 16)] := by
  have encoded : asBytes (toHex bytes) = (bytes.flatMap fun byte =>
      [hexDigit (byte.toNat / 16), hexDigit (byte.toNat % 16)]).flatMap String.utf8EncodeChar := by
    simp [asBytes, toHex, List.utf8Encode]
  rw [encoded, List.flatMap_assoc]
  congr 1
  funext byte
  have range := byte.toNat_lt
  have upper := (hexCode_spec (byte.toNat / 16) (by omega)).1
  have lower := (hexCode_spec (byte.toNat % 16) (by omega)).1
  simp [upper, lower]

/-! ## Pairs of digits -/

variable {high low : UInt8} {bytes decoded : Bytes}

theorem parseHexByte_eq {byte : UInt8} (parsed : parseHexByte high low = some byte)
    (unsigned : high ≠ 43) :
    ∃ upper lower, hexValue high = some upper ∧ hexValue low = some lower ∧
      byte.toNat / 16 = upper ∧ byte.toNat % 16 = lower := by
  unfold parseHexByte at parsed
  rw [if_neg unsigned] at parsed
  split at parsed
  · rename_i upper lower first second
    cases parsed
    have upperRange := (hexValue_spec first).1
    have lowerRange := (hexValue_spec second).1
    have value : (UInt8.ofNat (16 * upper + lower)).toNat = 16 * upper + lower := by
      rw [UInt8.toNat_ofNat']
      omega
    exact ⟨upper, lower, first, second, by omega, by omega⟩
  · cases parsed

theorem parseHexBytes_cons {rest : Bytes} :
    parseHexBytes (high :: low :: rest) = some decoded ↔
      ∃ byte bytes, parseHexByte high low = some byte ∧ parseHexBytes rest = some bytes ∧
        byte :: bytes = decoded := by
  rw [parseHexBytes]
  split <;> simp_all

theorem hexDigits_of_parsed (parsed : parseHexBytes bytes = some decoded) (unsigned : 43 ∉ bytes) :
    HexDigits bytes ∧ asBytes (toHex decoded) = bytes.map lowerCase := by
  rw [asBytes_toHex]
  induction bytes using List.twoStepInduction generalizing decoded with
  | nil =>
    cases parsed
    exact ⟨by simp [HexDigits], rfl⟩
  | singleton => cases parsed
  | cons_cons high low rest ih =>
    obtain ⟨byte, bytes, first, others, rfl⟩ := parseHexBytes_cons.mp parsed
    simp only [List.mem_cons, not_or] at unsigned
    obtain ⟨upper, lower, isUpper, isLower, rfl, rfl⟩ := parseHexByte_eq first (Ne.symm unsigned.1)
    obtain ⟨digits, same⟩ := ih others unsigned.2.2
    refine ⟨?_, by simp [same, (hexValue_spec isUpper).2.1, (hexValue_spec isLower).2.1]⟩
    simpa [HexDigits, isUpper, isLower] using digits

theorem exists_parsed (even : bytes.length % 2 = 0) (digits : HexDigits bytes) :
    ∃ decoded, parseHexBytes bytes = some decoded := by
  induction bytes using List.twoStepInduction with
  | nil => exact ⟨[], rfl⟩
  | singleton => cases even
  | cons_cons high low rest ih =>
    simp only [HexDigits, List.forall_mem_cons] at digits
    obtain ⟨upper, isUpper⟩ := Option.isSome_iff_exists.mp digits.1
    obtain ⟨lower, isLower⟩ := Option.isSome_iff_exists.mp digits.2.1
    obtain ⟨decoded, others⟩ := ih (by simp at even; omega) digits.2.2
    refine ⟨UInt8.ofNat (16 * upper + lower) :: decoded, ?_⟩
    rw [parseHexBytes, parseHexByte, if_neg (hexValue_spec isUpper).2.2, isUpper, isLower, others]

/-! ## The loop -/

theorem parseHexBytes_of_returned {outcome : Option Bytes} (even : bytes.length % 2 = 0)
    (returned : parseHexPairs bytes = some outcome) : parseHexBytes bytes = outcome := by
  induction bytes using List.twoStepInduction generalizing outcome with
  | nil => exact Option.some.inj returned
  | singleton => cases even
  | cons_cons high low rest ih =>
    rw [parseHexPairs] at returned
    split at returned
    · rw [parseHexBytes]
      split at returned
      · rename_i byte first
        obtain ⟨others, looped, rfl⟩ := Option.map_eq_some_iff.mp returned
        rw [ih (by simp at even; omega) looped, first]
        cases others <;> rfl
      · rename_i first
        rw [first, Option.some.inj returned]
    · cases returned

theorem isSome_parseHexBytes_cons {byte : UInt8} (first : parseHexByte high low = some byte) :
    (parseHexBytes (high :: low :: bytes)).isSome = (parseHexBytes bytes).isSome := by
  rw [parseHexBytes, first]
  cases parseHexBytes bytes <;> rfl

theorem returns_iff : parseHexPairs bytes ≠ none ↔
    ∀ count, (parseHexBytes (bytes.take (2 * count))).isSome →
      isCharBoundary (bytes.drop (2 * count + 2)) := by
  induction bytes using List.twoStepInduction with
  | nil => simp [parseHexPairs, isCharBoundary]
  | singleton => simp [parseHexPairs, isCharBoundary]
  | cons_cons high low rest ih =>
    -- the first pair is the case of no pair before it, the others are those of the rest
    rw [parseHexPairs, ← Nat.and_forall_add_one]
    by_cases boundary : isCharBoundary rest
    · cases first : parseHexByte high low with
      | none => simp [boundary, first, parseHexBytes, Nat.mul_add]
      | some byte => simpa [boundary, Nat.mul_add, isSome_parseHexBytes_cons first] using ih
    · simp [boundary, parseHexBytes]

theorem parseHexPairs_toHex (bytes : Bytes) :
    parseHexPairs (asBytes (toHex bytes)) = some (some bytes) := by
  rw [asBytes_toHex]
  induction bytes with
  | nil => rfl
  | cons byte rest ih =>
    have range := byte.toNat_lt
    obtain ⟨_, upper, _⟩ := hexCode_spec (byte.toNat / 16) (by omega)
    obtain ⟨_, lower, _⟩ := hexCode_spec (byte.toNat % 16) (by omega)
    have parsed : parseHexByte (hexCode (byte.toNat / 16)) (hexCode (byte.toNat % 16)) =
        some byte := by
      rw [parseHexByte, if_neg (hexValue_spec upper).2.2, upper, lower]
      simp [Nat.div_add_mod]
    rw [List.flatMap_cons, List.cons_append, List.cons_append, List.nil_append, parseHexPairs,
      if_pos, parsed, ih]
    · rfl
    · cases rest with
      | nil => rfl
      | cons next _ => exact (hexCode_spec (next.toNat / 16) (by have := next.toNat_lt; omega)).2.2

theorem even_asBytes_toHex (bytes : Bytes) : (asBytes (toHex bytes)).length % 2 = 0 := by
  simp [asBytes_toHex, List.map_const']

theorem parseHex_of_returned {hex : String} {result : Except ErrorText Bytes}
    (returned : runParseHex hex = some result) : parseHex hex = result := by
  unfold runParseHex at returned
  rw [parseHex]
  split at returned
  · rename_i odd
    rw [if_pos odd, Option.some.inj returned]
  · rename_i even
    obtain ⟨outcome, looped, rfl⟩ := Option.map_eq_some_iff.mp returned
    have parsed := parseHexBytes_of_returned (not_not.mp even) looped
    rw [if_neg even]
    cases outcome <;> simp [parsed]

/-- `parse_hex` inverts `to_hex`, and it is exact on the texts that it need not cut
within a character and whose digits have no plus sign. -/
theorem hex_exact_iff (bytes : Bytes) (hex : String) :
    runParseHex (toHex bytes) = some (.ok bytes) ∧
    (ParsesExactly hex ↔ ((asBytes hex).length % 2 = 0 →
      (∀ count, (parseHexBytes ((asBytes hex).take (2 * count))).isSome →
        isCharBoundary ((asBytes hex).drop (2 * count + 2))) ∧
      ((parseHexBytes (asBytes hex)).isSome → 43 ∉ asBytes hex))) := by
  refine ⟨?_, ?_⟩
  · rw [runParseHex, if_neg (not_not.mpr (even_asBytes_toHex bytes)), parseHexPairs_toHex]
    rfl
  by_cases even : (asBytes hex).length % 2 = 0
  · unfold ParsesExactly
    rw [← returns_iff, runParseHex, if_neg (not_not.mpr even)]
    cases returned : parseHexPairs (asBytes hex) with
    | none => simp [even]
    | some outcome =>
      have parsed := parseHexBytes_of_returned even returned
      cases outcome with
      | none =>
        have undecodable : ¬ HexDigits (asBytes hex) := by
          intro digits
          obtain ⟨decoded, accepted⟩ := exists_parsed even digits
          cases parsed.symm.trans accepted
        simp [parsed, undecodable]
      | some decoded =>
        have unsigned : HexDigits (asBytes hex) → 43 ∉ asBytes hex :=
          fun digits plus => by cases digits 43 plus
        have same : HexDigits (asBytes hex) ∧
            asBytes (toHex decoded) = (asBytes hex).map lowerCase ↔ 43 ∉ asBytes hex :=
          ⟨fun exact => unsigned exact.1, hexDigits_of_parsed parsed⟩
        simpa [parsed, even] using same
  · simp [ParsesExactly, runParseHex, even]

/-- A plus sign passes for a digit, and the slices of the other text panic. -/
theorem plus_sign_accepted_and_slice_panics :
    runParseHex "+f" = some (.ok [15]) ∧ hexValue 43 = none ∧ runParseHex "aéb" = none := by
  decide

end Splinter
