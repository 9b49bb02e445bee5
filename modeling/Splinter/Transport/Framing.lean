import Splinter.Library.Codec
import Mathlib.Algebra.Group.Nat.Defs
import Mathlib.Data.List.Basic

/-!
# Messages on a byte stream

A message is preceded by its length in four bytes.  The schedule of a connection
lists what its next calls do.  The loops go on after WouldBlock, but the length is
read by `read_exact`, which forgets the bytes it has read when it fails.
-/

namespace Splinter.Transport

open Library

inductive IoError where
  | wouldBlock
  | interrupted
  | unexpectedEof
  | writeZero
  | other (description : String)
  deriving DecidableEq

inductive RecvError where
  | ioError (error : IoError)
  | disconnected
  deriving DecidableEq

inductive SendError where
  | ioError (error : IoError)
  | wouldBlock
  | disconnected
  deriving DecidableEq

/-- The conversion of the `?` operator. -/
def SendError.fromIoError : IoError → SendError
  | .unexpectedEof => .disconnected
  | .wouldBlock => .wouldBlock
  | error => .ioError error

/-- What a call of the underlying stream does. -/
inductive Event where
  | moved (atMost : Nat)
  | failed (error : IoError)
  deriving DecidableEq

/-- A call that fails in this way can be repeated. -/
def IoError.Transient (error : IoError) : Prop := error = .wouldBlock ∨ error = .interrupted

/-- At least one byte is moved, or the call can be repeated. -/
def Event.Benign : Event → Prop
  | .moved atMost => 0 < atMost
  | .failed error => error.Transient

instance (event : Event) : Decidable event.Benign := by
  cases event <;> dsimp only [Event.Benign, IoError.Transient] <;> infer_instance

/-! ## Writing -/

/-- The writing end: what has been written, what the next calls do, and what
`flush` returns. -/
structure Writer where
  written : Bytes
  schedule : List Event
  flush : Except IoError Unit

namespace Writer

def move (writer : Writer) (bytes : Bytes) (count : Nat)
    (schedule : List Event) : Except IoError Nat × Writer :=
  let moved := bytes.take count
  (.ok moved.length,
    { writer with
      written := writer.written ++ moved
      schedule := schedule })

/-- One call of `Write::write`. -/
def write (writer : Writer) (bytes : Bytes) : Except IoError Nat × Writer :=
  match writer.schedule with
  | [] => writer.move bytes bytes.length []
  | .moved atMost :: rest => writer.move bytes atMost rest
  | .failed error :: rest => (.error error, { writer with schedule := rest })

/-- What a call of the stream can do: if it moves nothing, there is nothing to
move or the schedule says so. -/
inductive Called (writer : Writer) (bytes : Bytes) :
    Except IoError Nat × Writer → Prop
  | moved {count : Nat} {rest : List Event} : rest <:+ writer.schedule →
    (count = 0 → bytes = [] ∨ .moved 0 ∈ writer.schedule) →
    Called writer bytes
      (.ok count,
        { writer with
          written := writer.written ++ bytes.take count
          schedule := rest })
  | failed {rest : List Event} {error : IoError} : writer.schedule = .failed error :: rest →
    Called writer bytes (.error error, { writer with schedule := rest })

variable {bytes : Bytes} {writer : Writer}

theorem called_move (writer : Writer) {count : Nat} {rest : List Event}
    (later : rest <:+ writer.schedule)
    (moves : count = 0 → bytes = [] ∨ .moved 0 ∈ writer.schedule) :
    Called writer bytes (writer.move bytes count rest) := by
  have called : Called writer bytes
      (.ok (bytes.take count).length,
        { writer with
          written := writer.written ++ bytes.take (bytes.take count).length
          schedule := rest }) := by
    refine Called.moved later fun nothing => ?_
    rcases List.take_eq_nil_iff.mp (List.length_eq_zero_iff.mp nothing) with
      none | empty
    · exact moves none
    · exact Or.inl empty
  have same : bytes.take (bytes.take count).length = bytes.take count := by
    rw [List.length_take, ← List.take_take, List.take_length]
  rw [same] at called
  exact called

theorem called (writer : Writer) (bytes : Bytes) : Called writer bytes (writer.write bytes) := by
  unfold write
  split
  · rename_i finished
    refine writer.called_move ?_ fun empty => ?_
    · simp [finished]
    · exact Or.inl (List.length_eq_zero_iff.mp empty)
  · rename_i atMost rest scheduled
    refine writer.called_move ?_ fun none => ?_
    · rw [scheduled]
      exact List.suffix_cons _ _
    · right
      rw [scheduled, none]
      exact List.mem_cons_self ..
  · rename_i error rest scheduled
    exact Called.failed scheduled

theorem schedule_of_moved {rest : Writer} {count : Nat}
    (returned : writer.write bytes = (.ok count, rest)) :
    rest.schedule.length ≤ writer.schedule.length := by
  have called := writer.called bytes
  rw [returned] at called
  cases called with
  | moved later _ => exact later.length_le

theorem schedule_of_failed {rest : Writer} {error : IoError}
    (returned : writer.write bytes = (.error error, rest)) :
    writer.schedule = .failed error :: rest.schedule := by
  have called := writer.called bytes
  rw [returned] at called
  cases called with
  | failed scheduled => exact scheduled

end Writer

/-- An unsigned number of 32 bits, the most significant byte first. -/
def bigEndian (value : Nat) : Bytes :=
  [UInt8.ofNat (value / 2 ^ 24), UInt8.ofNat (value / 2 ^ 16),
    UInt8.ofNat (value / 2 ^ 8), UInt8.ofNat value]

/-- The message behind its length, which is cut to 32 bits. -/
def pack (buffer : Bytes) : Bytes := bigEndian (buffer.length % 2 ^ 32) ++ buffer

def writeLoop (packed : Bytes) (writer : Writer) : Except SendError Unit × Writer :=
  if packed = [] then
    (.ok (), writer)
  else
    match _ : writer.write packed with
    | (.ok 0, rest) => (.error (.ioError .writeZero), rest)
    | (.ok (count + 1), rest) => writeLoop (packed.drop (count + 1)) rest
    | (.error error, rest) =>
      if error = .interrupted ∨ error = .wouldBlock then
        writeLoop packed rest
      else
        (.error (.ioError error), rest)
termination_by writer.schedule.length + packed.length
decreasing_by
  · have fewer := Writer.schedule_of_moved ‹writer.write packed = _›
    have some := List.length_pos_iff.mpr ‹packed ≠ []›
    rw [List.length_drop]
    omega
  · have scheduled := Writer.schedule_of_failed ‹writer.write packed = _›
    rw [scheduled, List.length_cons]
    omega

def write (buffer : Bytes) (writer : Writer) : Except SendError Unit × Writer :=
  match writeLoop (pack buffer) writer with
  | (.error error, rest) => (.error error, rest)
  | (.ok (), rest) => (rest.flush.mapError SendError.fromIoError, rest)

/-! ## Reading -/

/-- The reading end: what can still be read, and what the next calls do. -/
structure Reader where
  unread : Bytes
  schedule : List Event

namespace Reader

def move (reader : Reader) (count : Nat) (schedule : List Event) : Except IoError Bytes × Reader :=
  (.ok (reader.unread.take count),
    { unread := reader.unread.drop count
      schedule := schedule })

/-- One call of `Read::read` with a buffer of the given size. -/
def read (reader : Reader) (size : Nat) : Except IoError Bytes × Reader :=
  match reader.schedule with
  | [] => reader.move size []
  | .moved atMost :: rest => reader.move (min atMost size) rest
  | .failed error :: rest => (.error error, { reader with schedule := rest })

/-- What a call of the stream can do: if it moves nothing, there is no room,
nothing is left, or the schedule says so. -/
inductive Called (reader : Reader) (size : Nat) :
    Except IoError Bytes × Reader → Prop
  | moved {count : Nat} {rest : List Event} : count ≤ size → count ≤ reader.unread.length →
    rest <:+ reader.schedule →
    (count = 0 → size = 0 ∨ reader.unread.length = 0 ∨ .moved 0 ∈ reader.schedule) →
    Called reader size (.ok (reader.unread.take count), ⟨reader.unread.drop count, rest⟩)
  | failed {rest : List Event} {error : IoError} : reader.schedule = .failed error :: rest →
    Called reader size (.error error, ⟨reader.unread, rest⟩)

theorem called_move (reader : Reader) {count size : Nat} {rest : List Event} (fits : count ≤ size)
    (later : rest <:+ reader.schedule) (moves : count = 0 → size = 0 ∨ .moved 0 ∈ reader.schedule) :
    Called reader size (reader.move count rest) := by
  by_cases enough : count ≤ reader.unread.length
  · refine Called.moved fits enough later fun nothing => ?_
    rcases moves nothing with full | scheduled
    · exact Or.inl full
    · exact Or.inr (Or.inr scheduled)
  · have all := Nat.le_of_not_le enough
    unfold move
    rw [List.take_of_length_le all, List.drop_eq_nil_of_le all]
    have called := Called.moved (Nat.le_trans all fits) (Nat.le_refl _) later
      fun empty => Or.inr (Or.inl empty)
    rw [List.take_length, List.drop_length] at called
    exact called

theorem called (reader : Reader) (size : Nat) : Called reader size (reader.read size) := by
  unfold read
  split
  · rename_i finished
    refine reader.called_move (Nat.le_refl _) ?_ Or.inl
    simp [finished]
  · rename_i atMost rest scheduled
    refine reader.called_move (Nat.min_le_right _ _) ?_ ?_
    · rw [scheduled]
      exact List.suffix_cons _ _
    · intro nothing
      rcases Nat.min_eq_zero_iff.mp nothing with none | full
      · right
        rw [scheduled, none]
        exact List.mem_cons_self ..
      · exact Or.inl full
  · rename_i error rest scheduled
    exact Called.failed scheduled

theorem schedule_of_moved {reader rest : Reader} {size : Nat} {bytes : Bytes}
    (returned : reader.read size = (.ok bytes, rest)) :
    rest.schedule.length ≤ reader.schedule.length := by
  have called := reader.called size
  rw [returned] at called
  cases called with
  | moved _ _ later _ => exact later.length_le

theorem schedule_of_failed {reader rest : Reader} {size : Nat} {error : IoError}
    (returned : reader.read size = (.error error, rest)) :
    reader.schedule = .failed error :: rest.schedule := by
  have called := reader.called size
  rw [returned] at called
  cases called with
  | failed scheduled => exact scheduled

end Reader

/-- Read until the buffer is full or nothing is left, and go on after the
errors that are ignored. -/
def readLoop (ignores : IoError → Bool) (size : Nat) (buffer : Bytes)
    (reader : Reader) : Except IoError Bytes × Reader :=
  if size = 0 then
    (.ok buffer, reader)
  else
    match _ : reader.read size with
    | (.ok [], rest) => (.ok buffer, rest)
    | (.ok (byte :: bytes), rest) =>
      readLoop ignores (size - (bytes.length + 1)) (buffer ++ byte :: bytes) rest
    | (.error error, rest) =>
      if ignores error then readLoop ignores size buffer rest else (.error error, rest)
termination_by reader.schedule.length + size
decreasing_by
  · have fewer := Reader.schedule_of_moved ‹reader.read size = _›
    omega
  · have scheduled := Reader.schedule_of_failed ‹reader.read size = _›
    rw [scheduled, List.length_cons]
    omega

/-- `Read::read_exact`: the bytes that have been read before an error are not
returned. -/
def readExact (size : Nat) (reader : Reader) : Except IoError Bytes × Reader :=
  match readLoop (· = .interrupted) size [] reader with
  | (.error error, rest) => (.error error, rest)
  | (.ok buffer, rest) =>
    if buffer.length < size then (.error .unexpectedEof, rest) else (.ok buffer, rest)

/-- The number that bytes stand for, the most significant one first. -/
def fromBigEndian (bytes : Bytes) : Nat :=
  bytes.foldl (fun value byte => value * 256 + byte.toNat) 0

def readU32 (reader : Reader) : Except IoError Nat × Reader :=
  match readExact 4 reader with
  | (.error error, rest) => (.error error, rest)
  | (.ok bytes, rest) => (.ok (fromBigEndian bytes), rest)

/-- What a loop can do: it reads all it was to read or all there is, unless it
meets an error that it does not ignore. -/
inductive Looped (ignores : IoError → Bool) (size : Nat) (buffer : Bytes)
    (reader : Reader) : Except IoError Bytes × Reader → Prop
  | filled {count : Nat} {rest : List Event} : count ≤ size → rest <:+ reader.schedule →
    count = size ∨ reader.unread.length ≤ count ∨ .moved 0 ∈ reader.schedule →
    Looped ignores size buffer reader
      (.ok (buffer ++ reader.unread.take count), ⟨reader.unread.drop count, rest⟩)
  | failed {count : Nat} {rest : List Event} {error : IoError} : count < size →
    .failed error :: rest <:+ reader.schedule →
    ignores error = false →
    Looped ignores size buffer reader (.error error, ⟨reader.unread.drop count, rest⟩)

variable {count : Nat} {reader : Reader} {rest : List Event} {messages : List Bytes}

theorem Looped.after_moved {ignores : IoError → Bool} {size : Nat} {buffer : Bytes}
    {outcome : Except IoError Bytes × Reader} (fits : count ≤ size)
    (later : rest <:+ reader.schedule)
    (continued : Looped ignores (size - count) (buffer ++ reader.unread.take count)
      ⟨reader.unread.drop count, rest⟩ outcome) :
    Looped ignores size buffer reader outcome := by
  cases continued with
  | @filled more _ room suffix ended =>
    rw [List.append_assoc, ← List.take_add, List.drop_drop]
    refine Looped.filled (by omega) (suffix.trans later) ?_
    rcases ended with full | empty | scheduled
    · exact Or.inl (by omega)
    · dsimp only at empty
      rw [List.length_drop] at empty
      exact Or.inr (Or.inl (by omega))
    · exact Or.inr (Or.inr (later.subset scheduled))
  | failed room suffix refused =>
    rw [List.drop_drop]
    exact Looped.failed (by omega) (suffix.trans later) refused

theorem looped (ignores : IoError → Bool) (size : Nat) (buffer : Bytes) (reader : Reader) :
    Looped ignores size buffer reader (readLoop ignores size buffer reader) := by
  fun_induction readLoop ignores size buffer reader with
  | case1 buffer reader =>
    have full : Looped ignores 0 buffer reader
        (.ok (buffer ++ reader.unread.take 0), ⟨reader.unread.drop 0, reader.schedule⟩) :=
      Looped.filled (Nat.le_refl _) (List.suffix_refl _) (Or.inl rfl)
    rw [List.take_zero, List.append_nil] at full
    exact full
  | case2 size buffer reader room rest returned =>
    have called := reader.called size
    rw [returned] at called
    generalize chunk : ([] : Bytes) = bytes at called
    cases called with
    | @moved count later fits enough suffix nothing =>
      have none : count = 0 := by
        have length := congrArg List.length chunk
        rw [List.length_take_of_le enough] at length
        exact length.symm
      subst none
      have ended : (0 : Nat) = size ∨ reader.unread.length ≤ 0 ∨ .moved 0 ∈ reader.schedule := by
        rcases nothing rfl with full | empty | scheduled
        · exact (room full).elim
        · exact Or.inr (Or.inl (Nat.le_of_eq empty))
        · exact Or.inr (Or.inr scheduled)
      have filled : Looped ignores size buffer reader
          (.ok (buffer ++ reader.unread.take 0), ⟨reader.unread.drop 0, later⟩) :=
        Looped.filled fits suffix ended
      rw [List.take_zero, List.append_nil] at filled
      exact filled
  | case3 size buffer reader room byte bytes rest returned ih =>
    have called := reader.called size
    rw [returned] at called
    generalize chunk : byte :: bytes = moved at called ih ⊢
    have length : bytes.length + 1 = moved.length := congrArg List.length chunk
    rw [length] at ih ⊢
    cases called with
    | moved fits enough suffix _ =>
      rw [List.length_take_of_le enough] at ih ⊢
      exact ih.after_moved fits suffix
  | case4 size buffer reader _ error rest returned ignored ih =>
    have called := reader.called size
    rw [returned] at called
    cases called with
    | @failed later _ scheduled =>
      have continued : Looped ignores (size - 0) (buffer ++ reader.unread.take 0)
          ⟨reader.unread.drop 0, later⟩
          (readLoop ignores size buffer ⟨reader.unread, later⟩) := by
        rw [List.take_zero, List.append_nil]
        exact ih
      refine continued.after_moved (Nat.zero_le _) ?_
      rw [scheduled]
      exact List.suffix_cons _ _
  | case5 size buffer reader room error rest returned refused =>
    have called := reader.called size
    rw [returned] at called
    cases called with
    | failed scheduled =>
      have failed : Looped ignores size buffer reader (.error error, ⟨reader.unread.drop 0, _⟩) :=
        Looped.failed (Nat.pos_of_ne_zero room) ⟨[], scheduled.symm⟩ (Bool.eq_false_iff.mpr refused)
      exact failed

inductive Attempted (reader : Reader) : Except IoError Nat × Reader → Prop
  | read {rest : List Event} : 4 ≤ reader.unread.length → rest <:+ reader.schedule →
    Attempted reader (.ok (fromBigEndian (reader.unread.take 4)), ⟨reader.unread.drop 4, rest⟩)
  | failed {count : Nat} {rest : List Event} {error : IoError} : count < 4 →
    .failed error :: rest <:+ reader.schedule →
    error ≠ .interrupted →
    Attempted reader (.error error, ⟨reader.unread.drop count, rest⟩)
  | ended {count : Nat} {rest : List Event} :
    reader.unread.length < 4 ∨ .moved 0 ∈ reader.schedule →
    Attempted reader (.error .unexpectedEof, ⟨reader.unread.drop count, rest⟩)

theorem attempted (reader : Reader) : Attempted reader (readU32 reader) := by
  have looped := looped (· = .interrupted) 4 [] reader
  unfold readU32 readExact
  generalize readLoop (· = .interrupted) 4 [] reader = outcome at looped ⊢
  cases looped with
  | @filled count rest fits suffix ended =>
    dsimp only
    rw [List.nil_append, List.length_take]
    by_cases whole : count = 4 ∧ 4 ≤ reader.unread.length
    · obtain ⟨rfl, enough⟩ := whole
      rw [Nat.min_eq_left enough, if_neg (Nat.lt_irrefl 4)]
      exact Attempted.read enough suffix
    · have lacking : reader.unread.length < 4 ∨ .moved 0 ∈ reader.schedule := by
        rcases ended with full | empty | scheduled
        · exact Or.inl (by omega)
        · exact Or.inl (by omega)
        · exact Or.inr scheduled
      rw [if_pos (by omega)]
      exact Attempted.ended lacking
  | failed fits suffix refused => exact Attempted.failed fits suffix (of_decide_eq_false refused)

theorem schedule_of_readU32 {rest : Reader} {error : IoError}
    (returned : readU32 reader = (.error error, rest)) (notEnded : error ≠ .unexpectedEof) :
    rest.schedule.length < reader.schedule.length := by
  have attempted := attempted reader
  rw [returned] at attempted
  cases attempted with
  | failed _ suffix _ => exact suffix.length_le
  | ended _ => exact (notEnded rfl).elim

/-- The loop around `read_u32`. -/
def readLength (reader : Reader) : Except IoError Nat × Reader :=
  match _ : readU32 reader with
  | (.error .wouldBlock, rest) => readLength rest
  | (.error error, rest) => (.error error, rest)
  | (.ok length, rest) => (.ok length, rest)
termination_by reader.schedule.length
decreasing_by
  exact schedule_of_readU32 ‹readU32 reader = (.error IoError.wouldBlock, _)› (by decide)

def readBody (length : Nat) (reader : Reader) : Except IoError Bytes × Reader :=
  readLoop (fun error => error = .interrupted ∨ error = .wouldBlock) length [] reader

def read (reader : Reader) : Except RecvError Bytes × Reader :=
  match readLength reader with
  | (.error error, rest) => (.error (.ioError error), rest)
  | (.ok length, rest) =>
    match readBody length rest with
    | (.error error, rest) => (.error (.ioError error), rest)
    | (.ok buffer, rest) =>
      if buffer.length < length then (.error .disconnected, rest) else (.ok buffer, rest)

/-! ## Several messages -/

def writeAll : List Bytes → Writer → List (Except SendError Unit) × Writer
  | [], writer => ([], writer)
  | buffer :: buffers, writer =>
    let first := write buffer writer
    let rest := writeAll buffers first.2
    (first.1 :: rest.1, rest.2)

/-- Read a number of messages, one after the other. -/
def readAll : Nat → Reader → List (Except RecvError Bytes) × Reader
  | 0, reader => ([], reader)
  | count + 1, reader =>
    let first := read reader
    let rest := readAll count first.2
    (first.1 :: rest.1, rest.2)

/-- An attempt to read the length of a message ends with WouldBlock and has
taken bytes from the stream. -/
inductive Splits : Reader → Prop
  | now {reader rest : Reader} : readU32 reader = (.error .wouldBlock, rest) →
    rest.unread ≠ reader.unread →
    Splits reader
  | later {reader rest : Reader} : readU32 reader = (.error .wouldBlock, rest) → Splits rest →
    Splits reader

/-- This happens in one of several calls of `read`. -/
inductive SplitsWithin : Nat → Reader → Prop
  | first {count : Nat} {reader : Reader} : Splits reader → SplitsWithin (count + 1) reader
  | next {count : Nat} {reader : Reader} : SplitsWithin count (read reader).2 →
    SplitsWithin (count + 1) reader

/-! ## What the reader returns -/

/-- All that happens at the reading end is that bytes are moved or calls are to
be repeated. -/
def Reader.Benign (reader : Reader) : Prop := ∀ event ∈ reader.schedule, event.Benign

theorem Reader.Benign.of_suffix {unread : Bytes} (benign : reader.Benign)
    (suffix : rest <:+ reader.schedule) :
    Reader.Benign ⟨unread, rest⟩ :=
  fun event member => benign event (suffix.subset member)

theorem Reader.Benign.moves (benign : reader.Benign) : .moved 0 ∉ reader.schedule :=
  fun scheduled => Nat.lt_irrefl 0 (benign _ scheduled)

/-- What reading the length can do: it skips the bytes that have been lost. -/
inductive Obtained (reader : Reader) : Except IoError Nat × Reader → Prop
  | length {lost : Nat} {rest : List Event} : lost + 4 ≤ reader.unread.length →
    rest <:+ reader.schedule →
    (Splits reader ↔ 0 < lost) →
    Obtained reader
      (.ok (fromBigEndian ((reader.unread.drop lost).take 4)),
        ⟨reader.unread.drop (lost + 4), rest⟩)
  | ended {error : IoError} {rest : Reader} : (¬ Splits reader → reader.unread.length < 4) →
    Obtained reader (.error error, rest)

theorem not_splits (other : ∀ rest, readU32 reader ≠ (.error .wouldBlock, rest)) :
    ¬ Splits reader := by
  intro splits
  cases splits with
  | now returned _ => exact other _ returned
  | later returned _ => exact other _ returned

theorem splits_iff_of_attempt {rest : Reader}
    (returned : readU32 reader = (.error .wouldBlock, rest)) :
    Splits reader ↔ rest.unread ≠ reader.unread ∨ Splits rest := by
  constructor
  · intro splits
    cases splits with
    | now again lost =>
      obtain rfl := (Prod.mk.inj (returned.symm.trans again)).2
      exact Or.inl lost
    | later again splits =>
      obtain rfl := (Prod.mk.inj (returned.symm.trans again)).2
      exact Or.inr splits
  · intro either
    rcases either with lost | splits
    · exact Splits.now returned lost
    · exact Splits.later returned splits

theorem drop_ne_self_iff {bytes : Bytes} (some : 0 < bytes.length) :
    bytes.drop count ≠ bytes ↔ 0 < count := by
  constructor
  · intro different
    by_contra none
    rw [Nat.le_zero.mp (Nat.le_of_not_lt none)] at different
    exact different rfl
  · intro positive same
    have length := congrArg List.length same
    rw [List.length_drop] at length
    omega

theorem Obtained.after_attempt {outcome : Except IoError Nat × Reader}
    (returned : readU32 reader = (.error .wouldBlock, ⟨reader.unread.drop count, rest⟩))
    (later : rest <:+ reader.schedule)
    (continued : Obtained ⟨reader.unread.drop count, rest⟩ outcome) :
    Obtained reader outcome := by
  have splits := splits_iff_of_attempt returned
  cases continued with
  | @length lost _ enough suffix lossy =>
    rw [List.length_drop] at enough
    rw [List.drop_drop, List.drop_drop, ← Nat.add_assoc]
    refine Obtained.length (by omega) (suffix.trans later) ?_
    have dropped : reader.unread.drop count ≠ reader.unread ↔ 0 < count :=
      drop_ne_self_iff (by omega)
    rw [splits, lossy, dropped]
    omega
  | ended lacking =>
    refine Obtained.ended fun whole => ?_
    rw [splits, not_or, not_not] at whole
    have short := lacking whole.2
    rw [whole.1] at short
    exact short

theorem obtained (benign : reader.Benign) : Obtained reader (readLength reader) := by
  fun_induction readLength reader with
  | case1 reader rest returned ih =>
    have attempted := attempted reader
    rw [returned] at attempted
    cases attempted with
    | failed _ suffix _ =>
      have shorter := (List.suffix_cons _ _).trans suffix
      have continued := ih (benign.of_suffix shorter)
      exact continued.after_attempt returned shorter
  | case2 reader error rest other returned =>
    refine Obtained.ended fun _ => ?_
    have attempted := attempted reader
    rw [returned] at attempted
    cases attempted with
    | failed _ suffix refused =>
      have scheduled := suffix.subset (List.mem_cons_self ..)
      rcases benign _ scheduled with blocked | interrupted
      · exact (other blocked).elim
      · exact (refused interrupted).elim
    | ended lacking => exact lacking.resolve_right benign.moves
  | case3 reader length rest returned =>
    have attempted := attempted reader
    rw [returned] at attempted
    have whole : ¬ Splits reader := by
      apply not_splits
      intro other again
      rw [returned] at again
      cases again
    cases attempted with
    | read enough suffix =>
      have obtained : Obtained reader
          (.ok (fromBigEndian ((reader.unread.drop 0).take 4)), ⟨reader.unread.drop (0 + 4), _⟩) :=
        Obtained.length enough suffix (iff_of_false whole (Nat.lt_irrefl 0))
      exact obtained

theorem readBody_eq (benign : reader.Benign) (length : Nat) :
    ∃ rest, rest <:+ reader.schedule ∧ readBody length reader =
      (.ok (reader.unread.take length), ⟨reader.unread.drop length, rest⟩) := by
  have looped := looped (fun error => error = .interrupted ∨ error = .wouldBlock) length [] reader
  unfold readBody
  generalize readLoop (fun error => error = .interrupted ∨ error = .wouldBlock) length
    [] reader = outcome at looped ⊢
  cases looped with
  | @filled count rest fits suffix ended =>
    refine ⟨rest, suffix, ?_⟩
    rw [List.nil_append]
    rcases ended with full | empty | scheduled
    · rw [full]
    · rw [List.take_of_length_le empty, List.drop_eq_nil_of_le empty,
        List.take_of_length_le (Nat.le_trans empty fits),
        List.drop_eq_nil_of_le (Nat.le_trans empty fits)]
    · exact (benign.moves scheduled).elim
  | failed _ suffix refused =>
    have scheduled := suffix.subset (List.mem_cons_self ..)
    have transient := benign _ scheduled
    exact (of_decide_eq_false refused transient.symm).elim

theorem fromBigEndian_bigEndian {value : Nat} (bounded : value < 2 ^ 32) :
    fromBigEndian (bigEndian value) = value := by
  simp only [fromBigEndian, bigEndian, List.foldl_cons, List.foldl_nil, UInt8.toNat_ofNat']
  omega

theorem take_pack (message more : Bytes) :
    (pack message ++ more).take 4 = bigEndian (message.length % 2 ^ 32) :=
  rfl

theorem drop_pack (message more : Bytes) : (pack message ++ more).drop 4 = message ++ more := rfl

theorem length_pack (message : Bytes) : (pack message).length = message.length + 4 :=
  List.length_append.trans (Nat.add_comm _ _)

variable {message : Bytes} {writer : Writer}

theorem read_of_whole {more : Bytes} (benign : reader.Benign) (short : message.length < 2 ^ 32)
    (packed : reader.unread = pack message ++ more) (whole : ¬ Splits reader) :
    ∃ rest, rest <:+ reader.schedule ∧ read reader = (.ok message, ⟨more, rest⟩) := by
  have obtained := obtained benign
  unfold read
  generalize readLength reader = outcome at obtained ⊢
  cases obtained with
  | ended lacking =>
    have few := lacking whole
    rw [packed, List.length_append, length_pack] at few
    omega
  | @length lost rest enough suffix lossy =>
    have none : lost = 0 := by
      by_contra some
      exact whole (lossy.mpr (Nat.pos_of_ne_zero some))
    subst none
    have benignRest : Reader.Benign ⟨reader.unread.drop 4, rest⟩ := benign.of_suffix suffix
    obtain ⟨later, shorter, returned⟩ := readBody_eq benignRest message.length
    have length : fromBigEndian ((reader.unread.drop 0).take 4) = message.length := by
      rw [List.drop_zero, packed, take_pack, Nat.mod_eq_of_lt short, fromBigEndian_bigEndian short]
    refine ⟨later, shorter.trans suffix, ?_⟩
    simp only [length, Nat.zero_add, returned]
    rw [packed, drop_pack, List.take_left, List.drop_left, if_neg (Nat.lt_irrefl _)]

/-- A message that is returned has been taken from the stream together with
its length and the bytes that have been lost. -/
theorem length_of_read {rest : Reader} (benign : reader.Benign)
    (returned : read reader = (.ok message, rest)) :
    ∃ lost, (Splits reader → 0 < lost) ∧ reader.unread.length =
      lost + (message.length + 4) + rest.unread.length ∧
      rest.schedule <:+ reader.schedule := by
  have obtained := obtained benign
  unfold read at returned
  generalize readLength reader = outcome at obtained returned
  cases obtained with
  | ended lacking => cases returned
  | @length lost later enough suffix lossy =>
    have benignRest : Reader.Benign ⟨reader.unread.drop (lost + 4), later⟩ :=
      benign.of_suffix suffix
    obtain ⟨last, shorter, body⟩ := readBody_eq benignRest
      (fromBigEndian ((reader.unread.drop lost).take 4))
    simp only [body] at returned
    split at returned
    · cases returned
    · rename_i complete
      cases returned
      refine ⟨lost, lossy.mp, ?_, shorter.trans suffix⟩
      simp only [List.length_take, List.length_drop] at complete ⊢
      omega

/-! ## Any number of messages -/

theorem readAll_of_whole (benign : reader.Benign)
    (short : ∀ message ∈ messages, message.length < 2 ^ 32)
    (packed : reader.unread = (messages.map pack).flatten)
    (whole : ¬ SplitsWithin messages.length reader) :
    (readAll messages.length reader).1 = messages.map .ok := by
  induction messages generalizing reader with
  | nil => rfl
  | cons message messages ih =>
    obtain ⟨first, others⟩ := List.forall_mem_cons.mp short
    have intact : ¬ Splits reader := fun splits => whole (SplitsWithin.first splits)
    obtain ⟨rest, suffix, returned⟩ := read_of_whole benign first packed intact
    have later : ¬ SplitsWithin messages.length (read reader).2 :=
      fun splits => whole (SplitsWithin.next splits)
    rw [returned] at later
    have remaining := ih (benign.of_suffix suffix) others rfl later
    simp [readAll, returned, remaining]

theorem length_of_readAll (benign : reader.Benign)
    (returned : (readAll messages.length reader).1 = messages.map .ok) :
    (messages.map pack).flatten.length ≤ reader.unread.length ∧
      (SplitsWithin messages.length reader →
        (messages.map pack).flatten.length < reader.unread.length) := by
  induction messages generalizing reader with
  | nil => exact ⟨Nat.zero_le _, nofun⟩
  | cons message messages ih =>
    simp only [List.length_cons, readAll, List.map_cons, List.cons.injEq] at returned
    obtain ⟨first, others⟩ := returned
    have one : read reader = (.ok message, (read reader).2) := Prod.ext first rfl
    obtain ⟨lost, lossy, length, suffix⟩ := length_of_read benign one
    have benignRest : (read reader).2.Benign := benign.of_suffix suffix
    obtain ⟨enough, more⟩ := ih benignRest others
    rw [List.map_cons, List.flatten_cons, List.length_append, length_pack]
    refine ⟨by omega, fun splits => ?_⟩
    cases splits with
    | first splits =>
      have positive := lossy splits
      omega
    | next splits =>
      have strict := more splits
      omega

/-! ## What the writer writes -/

theorem writeLoop_eq (packed : Bytes) (benign : ∀ event ∈ writer.schedule, event.Benign) :
    ∃ rest, rest <:+ writer.schedule ∧ writeLoop packed writer =
        (.ok (),
          { writer with
            written := writer.written ++ packed
            schedule := rest }) := by
  fun_induction writeLoop packed writer with
  | case1 writer =>
    refine ⟨writer.schedule, List.suffix_refl _, ?_⟩
    rw [List.append_nil]
  | case2 packed writer some rest returned =>
    have called := writer.called packed
    rw [returned] at called
    generalize none : (0 : Nat) = count at called
    cases called with
    | moved _ nothing =>
      rcases nothing none.symm with empty | scheduled
      · exact (some empty).elim
      · exact (Nat.lt_irrefl 0 (benign _ scheduled)).elim
  | case3 packed writer some count rest returned ih =>
    have called := writer.called packed
    rw [returned] at called
    cases called with
    | moved later _ =>
      obtain ⟨last, suffix, continued⟩ := ih fun event member =>
          benign event (later.subset member)
      refine ⟨last, suffix.trans later, ?_⟩
      rw [continued, List.append_assoc, List.take_append_drop]
  | case4 packed writer some error rest returned transient ih =>
    have called := writer.called packed
    rw [returned] at called
    cases called with
    | @failed later _ scheduled =>
      have suffix : later <:+ writer.schedule := by
        rw [scheduled]
        exact List.suffix_cons _ _
      obtain ⟨last, shorter, continued⟩ := ih fun event member =>
          benign event (suffix.subset member)
      exact ⟨last, shorter.trans suffix, continued⟩
  | case5 packed writer some error rest returned refused =>
    have scheduled := Writer.schedule_of_failed returned
    have transient : error.Transient := benign (.failed error) (scheduled ▸ List.mem_cons_self ..)
    exact (refused transient.symm).elim

theorem written_of_writeAll (benign : ∀ event ∈ writer.schedule, event.Benign) :
    (writeAll messages writer).2.written = writer.written ++ (messages.map pack).flatten := by
  induction messages generalizing writer with
  | nil => exact (List.append_nil _).symm
  | cons message messages ih =>
    obtain ⟨rest, suffix, returned⟩ := writeLoop_eq (pack message) benign
    have first : (write message writer).2 =
        { writer with
          written := writer.written ++ pack message
          schedule := rest } := by
      rw [write, returned]
    have benignRest : ∀ event ∈ (write message writer).2.schedule, event.Benign := by
      rw [first]
      exact fun event member => benign event (suffix.subset member)
    rw [writeAll, ih benignRest, first, List.map_cons, List.flatten_cons, List.append_assoc]

/-- Messages that have been written in any pieces are read again, in order, as
long as no attempt to read a length is cut off by WouldBlock after it has taken
bytes; and only then. -/
theorem messages_read_iff_whole (messages : List Bytes) (writes reads : List Event)
    (flush : Except IoError Unit) (short : ∀ message ∈ messages, message.length < 2 ^ 32)
    (benignWrites : ∀ event ∈ writes, event.Benign) (benignReads : ∀ event ∈ reads, event.Benign) :
    let stream := (writeAll messages ⟨[], writes, flush⟩).2.written
    (readAll messages.length ⟨stream, reads⟩).1 = messages.map .ok ↔
      ¬ SplitsWithin messages.length ⟨stream, reads⟩ := by
  intro stream
  have packed : stream = (messages.map pack).flatten := written_of_writeAll benignWrites
  have benign : Reader.Benign ⟨stream, reads⟩ := benignReads
  constructor
  · intro returned splits
    have fewer := (length_of_readAll benign returned).2 splits
    rw [← packed] at fewer
    exact Nat.lt_irrefl _ fewer
  · exact readAll_of_whole benign short packed

/-- Calls are to be repeated before a header, within a header, and within a
message. -/
theorem interrupted_messages_read : let messages : List Bytes := [[7], [], [8, 9]]
    let writes : List Event := [.moved 2, .failed .wouldBlock, .failed .interrupted, .moved 1]
    let reads : List Event :=
      [.failed .wouldBlock, .moved 3, .failed .interrupted, .moved 1,
        .failed .wouldBlock, .moved 1, .moved 4, .moved 4, .moved 1,
        .failed .wouldBlock]
    let stream := (writeAll messages ⟨[], writes, .ok ()⟩).2.written
    (∀ message ∈ messages, message.length < 2 ^ 32) ∧ (∀ event ∈ writes, event.Benign) ∧
      (∀ event ∈ reads, event.Benign) ∧
      (readAll 3 ⟨stream, reads⟩).1 = messages.map .ok ∧
      ¬ SplitsWithin 3 ⟨stream, reads⟩ := by
  intro messages writes reads stream
  have short : ∀ message ∈ messages, message.length < 2 ^ 32 := by decide
  have benignWrites : ∀ event ∈ writes, event.Benign := by decide
  have benignReads : ∀ event ∈ reads, event.Benign := by decide
  have returned : (readAll 3 ⟨stream, reads⟩).1 = messages.map .ok := by
    decide +kernel
  exact ⟨short, benignWrites, benignReads, returned,
    (messages_read_iff_whole messages writes reads (.ok ()) short benignWrites
      benignReads).mp returned⟩

/-- A call that moves one byte of the header is followed by WouldBlock: the
byte is lost and the message cannot be read. -/
theorem message_lost_within_header : let message : Bytes := [7]
    let reads : List Event := [.moved 1, .failed .wouldBlock]
    let written := writeAll [message] ⟨[], [], .ok ()⟩
    message.length < 2 ^ 32 ∧ (∀ event ∈ reads, event.Benign) ∧ written.1 = [.ok ()] ∧
      (readAll 1 ⟨written.2.written, reads⟩).1 = [.error .disconnected] := by
  intro message reads written
  exact ⟨by decide, by decide, by decide +kernel, by decide +kernel⟩

end Splinter.Transport
