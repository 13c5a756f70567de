/-
**Payloads that are cut off.**

A reader that runs out of bytes tells how many it misses:

* `CountsMissing`: of the bytes that a reader misses it misses **fewer by those that are given to it**, as long
  as these are not enough;
* `Steady`: a reader does so, and what it has found it finds **whatever stands behind**. Steady readers one
  after the other are steady (`Steady.bind`), and readers that only count are so behind steady ones
  (`Steady.bind_counts`);
* `counts_peek`: a reader that looks at the next byte first, and finds none at the end of its bytes;
* `missing_bytes_told` — the payloads of **all kinds**.
-/
import ScatterGather.Wire.Reply

namespace ScatterGather.Wire

variable {α β : Type}

/-- With more bytes behind those that are read, but fewer than are missing, the others of them are
missing. -/
def CountsMissing (read : List UInt8 → Except PacketError α) : Prop :=
  ∀ bytes more missing, read bytes = .error (.truncated missing) → more.length < missing →
    read (bytes ++ more) = .error (.truncated (missing - more.length))

/-- What is read of some bytes is read of them with more bytes behind. -/
def PassesOver (read : List UInt8 → Except PacketError α) : Prop :=
  ∀ bytes more value, read bytes = .ok value → read (bytes ++ more) = .ok value

/-- A reader that counts what is missing, and leaves what stands behind the bytes that it needs. -/
structure Steady (reader : Decoder α) : Prop where
  counts : CountsMissing reader
  leaves : ∀ {bytes value left} (more : List UInt8), reader bytes = .ok (value, left) →
    reader (bytes ++ more) = .ok (value, left ++ more)

/-! ### Readers one after the other -/

/-- A reader that always finds something misses nothing. -/
theorem counts_of_ok {read : List UInt8 → Except PacketError α}
    (finds : ∀ bytes, ∃ value, read bytes = .ok value) : CountsMissing read := by
  intro bytes more missing short few
  obtain ⟨value, found⟩ := finds bytes
  rw [found] at short
  cases short

/-- A reader behind one that counts, which always finds something. -/
theorem CountsMissing.bind_ok {reader : Decoder α} {next : α → Decoder β} (counts : CountsMissing reader)
    (finds : ∀ value bytes, ∃ result, next value bytes = .ok result) :
    CountsMissing (reader >>= next) := by
  intro bytes more missing short few
  change (reader bytes).bind _ = _ at short
  show (reader (bytes ++ more)).bind _ = _
  cases found : reader bytes with
  | error cause =>
    rw [found] at short
    obtain rfl := Except.error.inj short
    rw [counts bytes more missing found few]
    rfl
  | ok result =>
    obtain ⟨last, given⟩ := finds result.1 result.2
    rw [found] at short
    cases given.symm.trans short

namespace Steady

theorem pure (value : α) : Steady (pure value) where
  counts := counts_of_ok fun bytes => ⟨(value, bytes), rfl⟩
  leaves := by
    rintro bytes _ _ more ⟨⟩
    rfl

/-- A refusal is none for want of bytes, and stays one. -/
theorem refuse (marker : UInt8) : Steady (throw (.unexpectedMarker marker) : Decoder α) where
  counts := nofun
  leaves := nofun

/-- A reader that counts, behind a steady one. -/
theorem bind_counts {reader : Decoder α} {next : α → Decoder β} (steady : Steady reader)
    (counts : ∀ value, CountsMissing (next value)) : CountsMissing (reader >>= next) := by
  intro bytes more missing short few
  change (reader bytes).bind _ = _ at short
  show (reader (bytes ++ more)).bind _ = _
  cases found : reader bytes with
  | error cause =>
    rw [found] at short
    obtain rfl := Except.error.inj short
    rw [steady.counts bytes more missing found few]
    rfl
  | ok result =>
    rw [found] at short
    rw [steady.leaves more found]
    exact counts result.1 result.2 more missing short few

/-- **Steady readers one after the other are steady.** -/
protected theorem bind {reader : Decoder α} {next : α → Decoder β} (steady : Steady reader)
    (continues : ∀ value, Steady (next value)) : Steady (reader >>= next) where
  counts := steady.bind_counts fun value => (continues value).counts
  leaves := by
    intro bytes value left more read
    change (reader bytes).bind _ = _ at read
    show (reader (bytes ++ more)).bind _ = _
    cases found : reader bytes with
    | error cause =>
      rw [found] at read
      cases read
    | ok result =>
      rw [found] at read
      rw [steady.leaves more found]
      exact (continues result.1).leaves more read

theorem bind_pure {reader : Decoder α} (steady : Steady reader) (function : α → β) :
    Steady (reader >>= fun value => Pure.pure (function value)) :=
  steady.bind fun value => Steady.pure (function value)

end Steady

/-- The next byte decides between two readers. Where no byte is left, the other one misses one at most, so
that it goes on as before if none is given to it. -/
theorem counts_peek {mark : UInt8} {marked other : Decoder α} (first : CountsMissing marked)
    (second : CountsMissing other)
    (atEnd : ∀ missing, other [] = .error (.truncated missing) → missing ≤ 1) :
    CountsMissing (Decoder.peek >>= fun next => if next = some mark then marked else other) := by
  intro bytes more missing short few
  cases bytes with
  | nil =>
    have none : more = [] := by
      have single := atEnd missing short
      exact List.length_eq_zero_iff.mp (by omega)
    subst none
    exact short
  | cons byte rest =>
    change (if some byte = some mark then marked else other) (byte :: rest) = _ at short
    show (if some byte = some mark then marked else other) (byte :: rest ++ more) = _
    by_cases same : some byte = some mark
    · rw [if_pos same] at short ⊢
      exact first _ more missing short few
    · rw [if_neg same] at short ⊢
      exact second _ more missing short few

/-! ### Bytes and numbers -/

/-- Bytes are taken if there are as many, and otherwise the missing ones are counted. -/
theorem splitBytes_eq (count : Nat) (bytes : List UInt8) :
    splitBytes count bytes =
      if count ≤ bytes.length then .ok (bytes.take count, bytes.drop count)
      else .error (.truncated (count - bytes.length)) := by
  by_cases enough : count ≤ bytes.length
  · have taken := splitBytes_append (bytes.take count) (bytes.drop count)
    rw [List.take_append_drop, List.length_take_of_le enough] at taken
    rw [taken, if_pos enough]
  · obtain ⟨less, rfl⟩ := Nat.exists_eq_add_of_lt (Nat.lt_of_not_le enough)
    rw [splitBytes_short, if_neg enough, Nat.add_assoc, Nat.add_sub_cancel_left]

namespace Decoder

theorem steady_take (count : Nat) : Steady (take count) where
  counts := by
    intro bytes more missing short few
    change splitBytes count bytes = _ at short
    show splitBytes count (bytes ++ more) = _
    rw [splitBytes_eq] at short ⊢
    split at short
    · cases short
    · next notEnough =>
      obtain rfl := PacketError.truncated.inj (Except.error.inj short)
      rw [List.length_append, if_neg (by omega), Nat.sub_sub]
  leaves := by
    intro bytes value left more read
    change splitBytes count bytes = _ at read
    show splitBytes count (bytes ++ more) = _
    rw [splitBytes_eq] at read ⊢
    split at read
    · next enough =>
      obtain ⟨rfl, rfl⟩ := Prod.mk.inj (Except.ok.inj read)
      rw [List.length_append, if_pos (by omega), List.take_append_of_le_length enough,
        List.drop_append_of_le_length enough]
    · cases read

theorem steady_byte : Steady byte where
  counts := by
    intro bytes more missing short few
    cases bytes with
    | nil =>
      obtain rfl := PacketError.truncated.inj (Except.error.inj short)
      obtain rfl := List.length_eq_zero_iff.mp (Nat.lt_one_iff.mp few)
      rfl
    | cons first rest => cases short
  leaves := by
    intro bytes value left more read
    cases bytes with
    | nil => cases read
    | cons first rest =>
      obtain ⟨rfl, rfl⟩ := Prod.mk.inj (Except.ok.inj read)
      rfl

theorem steady_number (width : Nat) : Steady (number width) :=
  (steady_take width).bind_pure ofLittleEndian

theorem steady_uint16 : Steady uint16 :=
  (steady_number 2).bind_pure UInt16.ofNat

theorem steady_uint32 : Steady uint32 :=
  (steady_number 4).bind_pure UInt32.ofNat

theorem steady_lengthNumber : Steady lengthNumber := by
  unfold lengthNumber
  refine steady_byte.bind fun first => ?_
  by_cases two : first = twoByteMark
  · rw [if_pos two]
    exact (steady_number 2).bind_pure UInt64.ofNat
  by_cases three : first = threeByteMark
  · rw [if_neg two, if_pos three]
    exact (steady_number 3).bind_pure UInt64.ofNat
  by_cases eight : first = eightByteMark
  · rw [if_neg two, if_neg three, if_pos eight]
    exact (steady_number 8).bind_pure UInt64.ofNat
  · rw [if_neg two, if_neg three, if_neg eight]
    exact .pure _

theorem steady_lengthBytes : Steady lengthBytes :=
  steady_lengthNumber.bind fun size => steady_take size.toNat

theorem steady_lengthText : Steady lengthText :=
  steady_lengthBytes.bind_pure Text.Utf8.decode

theorem steady_marker (expected : UInt8) : Steady (marker expected) := by
  unfold marker
  refine steady_byte.bind fun found => ?_
  split
  · exact .pure ()
  · exact .refuse found

end Decoder

/-! ### Payloads -/

/-- What a reader counts is what is told of a payload. -/
theorem CountsMissing.run {reader : Decoder α} (counts : CountsMissing reader) :
    CountsMissing reader.run := by
  intro bytes more missing short few
  rw [Decoder.run] at short ⊢
  split at short
  · cases short
  · next cause found =>
    obtain rfl := Except.error.inj short
    rw [counts bytes more missing found few]

/-- A steady reader passes over what stands behind its value. -/
theorem Steady.passesOver {reader : Decoder α} (steady : Steady reader) : PassesOver reader.run := by
  intro bytes more value read
  rw [Decoder.run] at read ⊢
  split at read
  · next found left given =>
    rw [steady.leaves more given]
    exact read
  · cases read

open Decoder

/-- The text of a success is all that is left, so that nothing can be missing of it. -/
theorem OkReply.counts_decoder : CountsMissing decoder := by
  refine (steady_marker marker).bind_counts fun _ => ?_
  refine steady_lengthNumber.bind_counts fun affectedRows => ?_
  refine steady_lengthNumber.bind_counts fun insertId => ?_
  refine steady_uint16.bind_counts fun status => steady_uint16.bind_counts fun warnings => ?_
  exact counts_of_ok fun bytes => ⟨_, rfl⟩

/-- A state that is marked is missing as a whole or in part, and one that is not is never missing. -/
theorem ErrReply.counts_stateDecoder : CountsMissing stateDecoder := by
  refine counts_peek ?_ ?_ nofun
  · refine steady_byte.bind_counts fun _ => ?_
    exact ((steady_take stateSize).bind_pure Text.Utf8.decode).counts
  · exact (Steady.pure generalState).counts

theorem ErrReply.counts_decoder : CountsMissing decoder := by
  refine (steady_marker marker).bind_counts fun _ => steady_uint16.bind_counts fun code => ?_
  exact counts_stateDecoder.bind_ok fun state bytes => ⟨_, rfl⟩

theorem EofReply.steady_decoder : Steady decoder := by
  refine (steady_marker marker).bind fun _ => ?_
  exact steady_uint16.bind fun warnings => steady_uint16.bind_pure (EofReply.mk warnings)

theorem ResultHeader.steady_decoder : Steady decoder :=
  steady_lengthNumber.bind_pure ResultHeader.mk

theorem FieldReply.steady_decoder : Steady decoder := by
  refine steady_lengthBytes.bind fun _ => ?_
  refine steady_lengthText.bind fun schema => steady_lengthText.bind fun table => ?_
  refine steady_lengthBytes.bind fun _ => steady_lengthText.bind fun name => ?_
  refine steady_lengthBytes.bind fun _ => steady_lengthNumber.bind fun _ => ?_
  refine steady_uint16.bind fun charset => steady_uint32.bind fun length => ?_
  refine steady_byte.bind fun columnType => steady_uint16.bind fun flags => ?_
  exact steady_byte.bind_pure _

namespace Row

/-- A cell starts with a byte, so that there is none at the end of the bytes, and more bytes do not change
which byte it starts with. -/
theorem steady_cellDecoder : Steady cellDecoder := by
  have null : Steady (Decoder.byte >>= fun _ => pure none : Decoder (Option (List UInt8))) :=
    steady_byte.bind_pure fun _ => none
  have cell := steady_lengthBytes.bind_pure some
  refine ⟨counts_peek null.counts cell.counts ?_, ?_⟩
  · rintro missing ⟨⟩
    exact Nat.le_refl 1
  · intro bytes value left more read
    cases bytes with
    | nil => cases read
    | cons byte rest =>
      change (if some byte = some nullMark then _ else _ : Decoder _) (byte :: rest) = _ at read
      show (if some byte = some nullMark then _ else _ : Decoder _) (byte :: rest ++ more) = _
      by_cases isNull : some byte = some nullMark
      · rw [if_pos isNull] at read ⊢
        exact null.leaves more read
      · rw [if_neg isNull] at read ⊢
        exact cell.leaves more read

/-- **Cells are read steadily**, as many of them as there are columns. -/
theorem steady_cellsDecoder (count : Nat) : Steady (cellsDecoder count) := by
  induction count with
  | zero => exact .pure []
  | succ count ih => exact steady_cellDecoder.bind fun cell => ih.bind_pure (cell :: ·)

end Row

/-- **What is missing of a payload is told exactly.** If bytes are missing and fewer are given behind the
payload, the others are missing, whatever the kind of the payload and the number of columns of a row. What
was read of a number of columns, an end, a column or a row is read of it whatever stands behind. -/
theorem missing_bytes_told :
    (CountsMissing OkReply.read ∧ CountsMissing ErrReply.read ∧ CountsMissing EofReply.read ∧
      CountsMissing ResultHeader.read ∧ CountsMissing FieldReply.read ∧
        ∀ fieldCount, CountsMissing (Row.read · fieldCount)) ∧
      PassesOver ResultHeader.read ∧ PassesOver EofReply.read ∧ PassesOver FieldReply.read ∧
        ∀ fieldCount, PassesOver (Row.read · fieldCount) := by
  have row : ∀ fieldCount,
      Steady (Row.cellsDecoder fieldCount >>= fun cells => pure (Row.mk cells)) :=
    fun fieldCount => (Row.steady_cellsDecoder fieldCount).bind_pure Row.mk
  refine ⟨⟨?_, ?_, ?_, ?_, ?_, ?_⟩, ?_, ?_, ?_, ?_⟩
  · exact OkReply.counts_decoder.run
  · exact ErrReply.counts_decoder.run
  · exact EofReply.steady_decoder.counts.run
  · exact ResultHeader.steady_decoder.counts.run
  · exact FieldReply.steady_decoder.counts.run
  · exact fun fieldCount => (row fieldCount).counts.run
  · exact ResultHeader.steady_decoder.passesOver
  · exact EofReply.steady_decoder.passesOver
  · exact FieldReply.steady_decoder.passesOver
  · exact fun fieldCount => (row fieldCount).passesOver

/-- Two of the four bytes that a third cell misses behind a cell and NULL, and one of the three that a state
misses; and a row of one column before bytes of another packet. -/
theorem cut_row_told :
    let cut : List UInt8 := [1, 0x61, 0xfb, 5, 0x62]
    let failure : List UInt8 := [0xff, 0x26, 0x04, 0x23, 0x32, 0x33]
    Row.read cut 3 = .error (.truncated 4) ∧ Row.read (cut ++ [0x63, 0x64]) 3 = .error (.truncated 2) ∧
      ErrReply.read failure = .error (.truncated 3) ∧
        ErrReply.read (failure ++ [0x30]) = .error (.truncated 2) ∧
      Row.read [1, 0x61] 1 = .ok ⟨[some [0x61]]⟩ ∧
        Row.read ([1, 0x61] ++ failure) 1 = .ok ⟨[some [0x61]]⟩ := by
  intro cut failure
  obtain ⟨⟨-, failures, -, -, -, rows⟩, -, -, -, others⟩ := missing_bytes_told
  refine ⟨rfl, ?_, rfl, ?_, rfl, ?_⟩
  · exact rows 3 cut [0x63, 0x64] 4 rfl (by decide)
  · exact failures failure [0x30] 3 rfl (by decide)
  · exact others 1 [1, 0x61] failure ⟨[some [0x61]]⟩ rfl

end ScatterGather.Wire
