import Splinter.Library.Protobuf
import Splinter.Library.Text

/-!
# Protobuf messages from schemas

A `Schema` writes a message as fields with certain field numbers and reads it back
from any list of fields that contains exactly these under its numbers.
-/

namespace Splinter.Library.Protobuf

/-- The fields with one of the given numbers, in order. -/
def select (numbers : List Nat) (written : List Field) : List Field :=
  written.filter fun field => field.number ∈ numbers

theorem select_eq_self {numbers : List Nat} {written : List Field}
    (owned : ∀ field ∈ written, field.number ∈ numbers) :
    select numbers written = written := by
  rw [select, List.filter_eq_self]
  intro field member
  exact decide_eq_true (owned field member)

theorem select_eq_nil {numbers : List Nat} {written : List Field}
    (foreign : ∀ field ∈ written, field.number ∉ numbers) :
    select numbers written = [] := by
  rw [select, List.filter_eq_nil_iff]
  intro field member selected
  exact foreign field member (of_decide_eq_true selected)

theorem select_append (numbers : List Nat) (left right : List Field) :
    select numbers (left ++ right) = select numbers left ++ select numbers right := by
  simp [select]

theorem select_select {few many : List Nat} (written : List Field)
    (subset : ∀ number ∈ few, number ∈ many) :
    select few (select many written) = select few written := by
  rw [select, select, List.filter_filter]
  apply List.filter_congr
  intro field _
  by_cases member : field.number ∈ few
  · simp [member, subset _ member]
  · simp [member]

/-- Some fields of a message: how they are written and read. -/
structure Schema (Message : Type) where
  numbers : List Nat
  toFields : Message → List Field
  ofFields : List Field → Option Message
  owned : ∀ message, ∀ field ∈ toFields message, field.number ∈ numbers
  recovers : ∀ message written, select numbers written = toFields message →
    ofFields written = some message

namespace Schema

variable {Message Record Left Right Failure : Type}

def field (number : Nat) (toValues : Message → List Value) (ofValues : List Value → Option Message)
    (recovers : ∀ message, ofValues (toValues message) = some message) :
    Schema Message where
  numbers := [number]
  toFields := fun message => (toValues message).map (Field.mk number)
  ofFields := fun written => ofValues ((select [number] written).map Field.value)
  owned := by
    intro message field member
    obtain ⟨value, _, rfl⟩ := List.mem_map.mp member
    exact List.mem_singleton.mpr rfl
  recovers := by
    intro message written same
    have values : ((toValues message).map (Field.mk number)).map Field.value =
      toValues message := by
      rw [List.map_map]
      exact List.map_id _
    rw [same, values, recovers]

/-- Two groups of fields with different numbers. -/
def and (first : Schema Left) (second : Schema Right)
    (disjoint : ∀ number ∈ first.numbers, number ∉ second.numbers) :
    Schema (Left × Right) where
  numbers := first.numbers ++ second.numbers
  toFields := fun message =>
    first.toFields message.1 ++ second.toFields message.2
  ofFields := fun written =>
    match first.ofFields written, second.ofFields written with
    | some left, some right => some (left, right)
    | _, _ => none
  owned := by
    intro message field member
    rcases List.mem_append.mp member with inFirst | inSecond
    · exact List.mem_append_left _ (first.owned _ _ inFirst)
    · exact List.mem_append_right _ (second.owned _ _ inSecond)
  recovers := by
    intro message written same
    have foreignFirst : ∀ field ∈ second.toFields message.2, field.number ∉ first.numbers :=
      fun field member inFirst =>
        disjoint _ inFirst (second.owned _ _ member)
    have foreignSecond : ∀ field ∈ first.toFields message.1, field.number ∉ second.numbers :=
      fun field member => disjoint _ (first.owned _ _ member)
    have left : select first.numbers written = first.toFields message.1 := by
      rw [← select_select written fun _ => List.mem_append_left second.numbers,
        same, select_append, select_eq_self (first.owned _),
        select_eq_nil foreignFirst, List.append_nil]
    have right : select second.numbers written = second.toFields message.2 := by
      rw [← select_select written fun _ => List.mem_append_right first.numbers,
        same, select_append, select_eq_nil foreignSecond,
        select_eq_self (second.owned _), List.nil_append]
    simp only [first.recovers _ _ left, second.recovers _ _ right]

/-- The same fields for another message type; reading may fail. -/
def refine (schema : Schema Message) (read : Message → Option Record) (write : Record → Message)
    (inverse : ∀ record, read (write record) = some record) :
    Schema Record where
  numbers := schema.numbers
  toFields := fun record => schema.toFields (write record)
  ofFields := fun written => (schema.ofFields written).bind read
  owned := fun record => schema.owned (write record)
  recovers := by
    intro record written same
    rw [schema.recovers _ _ same, Option.bind_some, inverse]

def record (schema : Schema Message) (build : Message → Record) (components : Record → Message)
    (inverse : ∀ record, build (components record) = record) :
    Schema Record :=
  schema.refine (fun message => some (build message)) components
    fun record => congrArg some (inverse record)

/-- An integer field; zero is not written and the last value counts. -/
def natural (number : Nat) : Schema Nat := field number
    (fun value => if value = 0 then [] else [.number value]) (fun values =>
      some ((values.filterMap fun
        | .number value => some value
        | .delimited _ => none).getLastD 0))
    (by
      intro value
      by_cases zero : value = 0 <;> simp [zero])

/-- An enumeration field. -/
def enumeration (number : Nat) (value : Message → Nat) (ofValue : Nat → Message)
    (inverse : ∀ message, ofValue (value message) = message) :
    Schema Message :=
  (natural number).record ofValue value inverse

/-- The byte strings of a repeated field. -/
def delimited (number : Nat) : Schema (List Bytes) := field number
    (fun occurrences => occurrences.map .delimited) (fun values =>
      some (values.filterMap fun
        | .number _ => none
        | .delimited bytes => some bytes))
    (by
      intro occurrences
      simp [List.filterMap_map])

/-- A bytes field; the empty value is not written and the last one counts. -/
def bytes (number : Nat) : Schema Bytes := (delimited number).record
    (fun occurrences => occurrences.getLastD []) (fun bytes => if bytes = [] then [] else [bytes])
    (by
      intro bytes
      by_cases empty : bytes = [] <;> simp [empty])

/-- A string field. -/
def string (number : Nat) : Schema String := (bytes number).refine fromUtf8 asBytes fromUtf8_asBytes

/-- The results of reading every item, if all can be read. -/
def readAll {Item : Type} (read : Bytes → Option Item) : List Bytes → Option (List Item)
  | [] => some []
  | first :: rest =>
    match read first, readAll read rest with
    | some item, some items => some (item :: items)
    | _, _ => none

theorem readAll_map {Item : Type} {read : Bytes → Option Item} {write : Item → Bytes}
    (inverse : ∀ item, read (write item) = some item) (items : List Item) :
    readAll read (items.map write) = some items := by
  induction items with
  | nil => rfl
  | cons item items ih => simp [readAll, inverse, ih]

/-- A repeated string field. -/
def strings (number : Nat) : Schema (List String) :=
  (delimited number).refine (readAll fromUtf8) (fun items => items.map asBytes)
    (readAll_map fromUtf8_asBytes)

def readMessage (codec : Codec Failure Message) (bytes : Bytes) : Option Message :=
  match codec.parse bytes with
  | .error _ => none
  | .ok message => some message

@[simp]
theorem readMessage_write (codec : Codec Failure Message) (message : Message) :
    readMessage codec (codec.write message) = some message := by
  rw [readMessage, codec.parse_write]

/-- A repeated message field. -/
def messages (number : Nat) (codec : Codec Failure Message) : Schema (List Message) :=
  (delimited number).refine (readAll (readMessage codec)) (fun items => items.map codec.write)
    (readAll_map (readMessage_write codec))

/-- A message field that may be unset.  Several occurrences are merged, which
is what reading their concatenation does. -/
def message (number : Nat) (codec : Codec Failure Message) : Schema (Option Message) :=
  (delimited number).refine
    (fun occurrences =>
      if occurrences = [] then some none else (readMessage codec occurrences.flatten).map some)
    (fun
      | none => []
      | some message => [codec.write message])
    (by
      intro message
      cases message <;> simp)

/-- The serialisation of messages that consist of the fields of a schema. -/
def codec (schema : Schema Message) (malformed : Failure) : Codec Failure Message where
  parse := fun input =>
    match (fields input).bind schema.ofFields with
    | none => .error malformed
    | some message => .ok message
  write := fun message => writeFields (schema.toFields message)
  parse_write := by
    intro message
    have own := select_eq_self (schema.owned message)
    simp [fields_write, schema.recovers _ _ own]

end Schema

end Splinter.Library.Protobuf
