import Mathlib.Logic.Function.Basic

/-!
# Byte strings and serialisations

A `Codec` is a serialisation of messages into byte strings whose reader
inverts its writer.  Nothing is said about byte strings that the writer does
not produce: the reader may reject them or read them as any message.
-/

namespace Splinter.Library

/-- A string of bytes. -/
abbrev Bytes := List UInt8

/-- A writer of messages together with a reader that inverts it. -/
structure Codec (Failure Message : Type) where
  parse : Bytes → Except Failure Message
  write : Message → Bytes
  parse_write : ∀ message, parse (write message) = .ok message

namespace Codec

variable {Failure Message : Type} (codec : Codec Failure Message)

attribute [simp] Codec.parse_write

theorem write_injective : Function.Injective codec.write := by
  intro left right same
  have parsed := codec.parse_write left
  rw [same, codec.parse_write] at parsed
  injection parsed with equal
  exact equal.symm

@[simp]
theorem write_inj {left right : Message} : codec.write left = codec.write right ↔ left = right :=
  codec.write_injective.eq_iff

end Codec

end Splinter.Library
