import Splinter.Library.Codec

/-!
# Texts and their bytes

The UTF-8 bytes of a text, and reading them back.
-/

namespace Splinter.Library

def asBytes (text : String) : Bytes := text.toUTF8.data.toList

/-- The text with the given UTF-8 bytes, if they are well formed. -/
def fromUtf8 (bytes : Bytes) : Option String := String.fromUTF8? ⟨bytes.toArray⟩

@[simp]
theorem fromUtf8_asBytes (text : String) : fromUtf8 (asBytes text) = some text := by
  have whole : (⟨(asBytes text).toArray⟩ : ByteArray) = text.toUTF8 := by simp [asBytes]
  rw [fromUtf8, whole, String.fromUTF8?]
  exact dif_pos text.isValidUTF8

theorem asBytes_injective : Function.Injective asBytes := by
  intro left right same
  have read := fromUtf8_asBytes left
  rw [same, fromUtf8_asBytes] at read
  injection read with equal
  exact equal.symm

end Splinter.Library
