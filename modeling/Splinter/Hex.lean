import Splinter.Library.Text
import Splinter.Service.Types

/-!
# Hexadecimal texts

The functions of the `hex` module.
-/

namespace Splinter

open Library
open Service (ErrorText)

def hexDigit (value : Nat) : Char :=
  Char.ofNat (if value < 10 then 48 + value else 87 + value)

def toHex (bytes : Bytes) : String := String.ofList
    (bytes.flatMap fun byte =>
      [hexDigit (byte.toNat / 16), hexDigit (byte.toNat % 16)])

example : toHex [0, 10, 255] = "000aff" := by decide

def hexValue (digit : UInt8) : Option Nat :=
  let code := digit.toNat
  if 48 ≤ code ∧ code < 58 then some (code - 48)
  else if 97 ≤ code ∧ code < 103 then some (code - 87)
  else if 65 ≤ code ∧ code < 71 then some (code - 55)
  else none

/-- `u8::from_str_radix` for two characters: a plus sign may come first. -/
def parseHexByte (high low : UInt8) : Option UInt8 :=
  match (if high = 43 then some 0 else hexValue high), hexValue low with
  | some upper, some lower => some (UInt8.ofNat (16 * upper + lower))
  | _, _ => none

def parseHexBytes : Bytes → Option Bytes
  | high :: low :: rest =>
    match parseHexByte high low, parseHexBytes rest with
    | some byte, some bytes => some (byte :: bytes)
    | _, _ => none
  | [] => some []
  | [_] => none

/-- The result of `parse_hex`.  Where it panics, within a character, this is an error; where it
returns, `parseHex_of_returned` says that this is what it returns. -/
def parseHex (hex : String) : Except ErrorText Bytes :=
  if (asBytes hex).length % 2 ≠ 0 then
    .error (hex ++ " is not valid hex: odd number of digits")
  else
    match parseHexBytes (asBytes hex) with
    | some bytes => .ok bytes
    | none => .error (hex ++ " contains invalid hex: invalid digit found in string")

end Splinter
