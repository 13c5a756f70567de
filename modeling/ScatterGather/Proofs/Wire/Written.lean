/-
**What is read of what was written.**

A reader `Reads` some bytes as a value if it finds the value in them and leaves whatever stands behind
them. Readers one after the other read what was written one behind the other, so that each kind of
payload comes down to its parts:

* `reads_number`, `reads_lengthNumber`, `reads_lengthBytes` — numbers and byte strings are **read as
  they were written**;
* `exists_first`, `nullMark_ne_head` — the first byte of a number, which is **never taken for NULL**;
* `OkReply.read_payload`, `ErrReply.read_payload`, `FieldReply.read_payload`, `Row.read_payload`, … — a
  success, a failure with a state of the right size, a column and a row are read as they were written;
* `ReadBack`: a packet that carries an id, and is read as the value that it was built of;
* `replies_read_back` — packets built of **replies of every kind** are read as these replies.
-/
import ScatterGather.Proofs.Text.Encoded
import ScatterGather.Wire.Reply

namespace ScatterGather.Wire

open Text

/-! ### Readers and bytes -/

/-- A reader finds a value in some bytes, and leaves what stands behind them. -/
def Reads {α : Type} (reader : Decoder α) (bytes : List UInt8) (value : α) : Prop :=
  ∀ rest, reader (bytes ++ rest) = .ok (value, rest)

namespace Reads

variable {α β : Type} {reader : Decoder α} {next : α → Decoder β} {bytes more : List UInt8}
  {value : α} {result : β}

/-- After a reader that finds its value, the next one goes on behind it. -/
theorem bind_append (reads : Reads reader bytes value) (rest : List UInt8) :
    (reader >>= next) (bytes ++ rest) = next value rest := by
  show (reader (bytes ++ rest)).bind (fun found => next found.1 found.2) = _
  rw [reads rest]
  rfl

protected theorem bind (reads : Reads reader bytes value) (continues : Reads (next value) more result) :
    Reads (reader >>= next) (bytes ++ more) result := fun rest => by
  rw [List.append_assoc, reads.bind_append, continues rest]

theorem bind_pure (reads : Reads reader bytes value) (function : α → β) :
    Reads (reader >>= fun found => pure (function found)) bytes (function value) := fun rest => by
  rw [reads.bind_append]
  rfl

end Reads

namespace Decoder

theorem reads_byte (byte : UInt8) : Reads Decoder.byte [byte] byte :=
  fun _ => rfl

theorem reads_take (bytes : List UInt8) : Reads (take bytes.length) bytes bytes :=
  fun rest => splitBytes_append bytes rest

/-! ### Numbers -/

theorem reads_number {width value : Nat} (fits : value < Nat.pow 256 width) :
    Reads (number width) (littleEndian width value) value := by
  have reads := reads_take (littleEndian width value)
  rw [length_littleEndian] at reads
  have whole := reads.bind_pure ofLittleEndian
  rwa [ofLittleEndian_littleEndian, Nat.mod_eq_of_lt fits] at whole

theorem reads_uint16 (value : UInt16) : Reads uint16 (littleEndian 2 value.toNat) value := by
  have reads : Reads (number 2) (littleEndian 2 value.toNat) value.toNat :=
    reads_number value.toNat_lt
  have whole := reads.bind_pure UInt16.ofNat
  rwa [UInt16.ofNat_toNat] at whole

theorem reads_uint32 (value : UInt32) : Reads uint32 (littleEndian 4 value.toNat) value := by
  have reads : Reads (number 4) (littleEndian 4 value.toNat) value.toNat :=
    reads_number value.toNat_lt
  have whole := reads.bind_pure UInt32.ofNat
  rwa [UInt32.ofNat_toNat] at whole

/-- The marks of longer numbers are no numbers of one byte. -/
theorem toUInt8_ne_mark {value : UInt64} (small : value.toNat ≤ 250) {mark : UInt8}
    (isMark : 250 < mark.toNat) : value.toUInt8 ≠ mark := by
  intro same
  have size : value.toUInt8.toNat = value.toNat := by
    rw [UInt64.toNat_toUInt8, Nat.mod_eq_of_lt (by omega)]
  rw [same] at size
  omega

/-- Behind each mark stands a number of its size. -/
theorem lengthNumber_marked (bytes : List UInt8) :
    lengthNumber (twoByteMark :: bytes) = (number 2 >>= fun found => pure (UInt64.ofNat found)) bytes ∧
      lengthNumber (threeByteMark :: bytes) =
        (number 3 >>= fun found => pure (UInt64.ofNat found)) bytes ∧
      lengthNumber (eightByteMark :: bytes) =
        (number 8 >>= fun found => pure (UInt64.ofNat found)) bytes :=
  ⟨rfl, rfl, rfl⟩

/-- A byte that is no mark is a number by itself. -/
theorem lengthNumber_single {value : UInt64} (small : value.toNat ≤ 250) (bytes : List UInt8) :
    lengthNumber (value.toUInt8 :: bytes) = .ok (value, bytes) := by
  have widened : value.toUInt8.toUInt64 = value := by
    rw [← UInt64.toNat_inj, UInt8.toNat_toUInt64, UInt64.toNat_toUInt8, Nat.mod_eq_of_lt (by omega)]
  show (if value.toUInt8 = twoByteMark then _ else if value.toUInt8 = threeByteMark then _
    else if value.toUInt8 = eightByteMark then _ else pure value.toUInt8.toUInt64 : Decoder UInt64)
      bytes = _
  rw [if_neg (toUInt8_ne_mark small (by decide)), if_neg (toUInt8_ne_mark small (by decide)),
    if_neg (toUInt8_ne_mark small (by decide)), widened]
  rfl

/-- **A number is read as it was written.** -/
theorem reads_lengthNumber (value : UInt64) : Reads lengthNumber (Wire.lengthNumber value) value := by
  intro rest
  have behind : ∀ width : Nat, value.toNat < Nat.pow 256 width →
      (number width >>= fun found => pure (UInt64.ofNat found))
        (littleEndian width value.toNat ++ rest) = .ok (value, rest) := by
    intro width fits
    rw [(reads_number fits).bind_pure UInt64.ofNat, UInt64.ofNat_toNat]
  unfold Wire.lengthNumber
  by_cases one : value.toNat ≤ 250
  · simp only [if_pos one]
    exact lengthNumber_single one rest
  · by_cases two : value.toNat ≤ 0xffff
    · simp only [if_neg one, if_pos two, List.cons_append]
      exact (lengthNumber_marked _).1.trans (behind 2 (Nat.lt_succ_of_le two))
    · by_cases three : value.toNat ≤ 0xffffff
      · simp only [if_neg one, if_neg two, if_pos three, List.cons_append]
        exact (lengthNumber_marked _).2.1.trans (behind 3 (Nat.lt_succ_of_le three))
      · simp only [if_neg one, if_neg two, if_neg three, List.cons_append]
        exact (lengthNumber_marked _).2.2.trans (behind 8 value.toNat_lt)

/-- **A byte string is read as it was written**, if its size can be told. -/
theorem reads_lengthBytes {bytes : List UInt8} (fits : bytes.length < UInt64.size) :
    Reads lengthBytes (Wire.lengthBytes bytes) bytes := by
  refine (reads_lengthNumber _).bind ?_
  rw [UInt64.toNat_ofNat', Nat.mod_eq_of_lt fits]
  exact reads_take bytes

/-- A text is read as it was written, if the number of its bytes can be told. -/
theorem reads_lengthText {text : String} (fits : (Utf8.encode text).length < UInt64.size) :
    Reads lengthText (Wire.lengthBytes (Utf8.encode text)) text := by
  have reads := (reads_lengthBytes fits).bind_pure Utf8.decode
  rwa [Utf8.decode_encode] at reads

/-- **The first byte of a number** is a number of one byte, or one of the three marks. -/
theorem exists_first (value : UInt64) : ∃ first behind, Wire.lengthNumber value = first :: behind ∧
    (first.toNat ≤ 250 ∨ first = twoByteMark ∨ first = threeByteMark ∨ first = eightByteMark) := by
  unfold Wire.lengthNumber
  by_cases one : value.toNat ≤ 250
  · have small : value.toUInt8.toNat ≤ 250 := by
      rw [UInt64.toNat_toUInt8]
      exact Nat.le_trans (Nat.mod_le _ _) one
    exact ⟨_, _, if_pos one, Or.inl small⟩
  · simp only [if_neg one]
    split
    · exact ⟨_, _, rfl, by simp⟩
    · split <;> exact ⟨_, _, rfl, by simp⟩

/-- No other byte stands first. -/
theorem head_ne {other : UInt8} (great : 250 < other.toNat)
    (noMark : other ∉ [twoByteMark, threeByteMark, eightByteMark]) (value : UInt64) (rest : List UInt8) :
    (Wire.lengthNumber value ++ rest).head? ≠ some other := by
  obtain ⟨first, behind, written, small | mark⟩ := exists_first value
  · rintro same
    rw [written] at same
    obtain rfl : first = other := Option.some.inj same
    omega
  · rintro same
    rw [written] at same
    obtain rfl : first = other := Option.some.inj same
    exact noMark (by simpa using mark)

/-- The number in front of a byte string is not taken for NULL. -/
theorem nullMark_ne_head (value : UInt64) (rest : List UInt8) :
    (Wire.lengthNumber value ++ rest).head? ≠ some Row.nullMark :=
  head_ne (by decide) (by decide) value rest

end Decoder

/-! ### Payloads -/

/-- A reader that finds its value in bytes finds it where nothing stands behind them. -/
theorem Reads.run {α : Type} {reader : Decoder α} {bytes : List UInt8} {value : α}
    (reads : Reads reader bytes value) : reader.run bytes = .ok value := by
  have whole := reads []
  rw [List.append_nil] at whole
  rw [Decoder.run, whole]

theorem Decoder.reads_marker (expected : UInt8) : Reads (Decoder.marker expected) [expected] () := by
  intro rest
  rw [Decoder.marker, (Decoder.reads_byte expected).bind_append, if_pos rfl]
  rfl

/-- **A success is read as it was written.** -/
theorem OkReply.read_payload (reply : OkReply) : OkReply.read reply.payload = .ok reply := by
  rw [OkReply.read, Decoder.run, payload, decoder]
  simp only [List.append_assoc]
  rw [(Decoder.reads_marker marker).bind_append,
    (Decoder.reads_lengthNumber reply.affectedRows).bind_append,
    (Decoder.reads_lengthNumber reply.insertId).bind_append,
    (Decoder.reads_uint16 reply.status).bind_append,
    (Decoder.reads_uint16 reply.warnings).bind_append]
  show Except.ok { reply with message := Utf8.decode (Utf8.encode reply.message) } = _
  rw [Utf8.decode_encode]

/-- A failure is read as what its bytes are as texts, whatever bytes its state and its message are. -/
theorem ErrReply.read_bytes (code : UInt16) {state : List UInt8} (sized : state.length = stateSize)
    (message : List UInt8) :
    ErrReply.read ([marker] ++ littleEndian 2 code.toNat ++ [stateMark] ++ state ++ message) =
      .ok ⟨code, Utf8.decode state, Utf8.decode message⟩ := by
  have reads : Reads stateDecoder ([stateMark] ++ state) (Utf8.decode state) := by
    intro rest
    show (Decoder.take stateSize >>= fun found => pure (Utf8.decode found)) (state ++ rest) = _
    rw [← sized, (Decoder.reads_take _).bind_append]
    rfl
  rw [ErrReply.read, Decoder.run, decoder]
  simp only [List.append_assoc]
  rw [(Decoder.reads_marker marker).bind_append, (Decoder.reads_uint16 code).bind_append,
    ← List.append_assoc, reads.bind_append]
  rfl

/-- **A failure is read as it was written**, if its state has the right size. -/
theorem ErrReply.read_payload {reply : ErrReply}
    (stated : (Utf8.encode reply.state).length = stateSize) :
    ErrReply.read reply.payload = .ok reply := by
  have state : stateBytes reply.state = Utf8.encode reply.state := by
    rw [stateBytes, ← stated, List.take_left]
  rw [payload, state, read_bytes reply.code stated, Utf8.decode_encode, Utf8.decode_encode]

/-- **An end is read as it was written.** -/
theorem EofReply.read_payload (reply : EofReply) : EofReply.read reply.payload = .ok reply := by
  have reads : Reads decoder reply.payload reply := by
    rw [payload, List.append_assoc]
    exact (Decoder.reads_marker marker).bind ((Decoder.reads_uint16 reply.warnings).bind
      ((Decoder.reads_uint16 reply.status).bind_pure (EofReply.mk reply.warnings)))
  exact reads.run

/-- **A number of columns is read as it was written.** -/
theorem ResultHeader.read_payload (header : ResultHeader) :
    ResultHeader.read header.payload = .ok header :=
  ((Decoder.reads_lengthNumber header.fieldCount).bind_pure ResultHeader.mk).run

/-- **A column is read as it was written**, if the sizes of its texts can be told. -/
theorem FieldReply.read_payload {field : FieldReply}
    (fit : ∀ text ∈ [field.schema, field.table, field.name],
      (Utf8.encode text).length < UInt64.size) :
    FieldReply.read field.payload = .ok field := by
  obtain ⟨schema, table, name⟩ : (Utf8.encode field.schema).length < UInt64.size ∧
      (Utf8.encode field.table).length < UInt64.size ∧
        (Utf8.encode field.name).length < UInt64.size := by
    simpa only [List.forall_mem_cons, List.not_mem_nil, false_implies, implies_true, and_true]
      using fit
  have catalog : (Utf8.encode catalog).length < UInt64.size := by decide +kernel
  rw [FieldReply.read, Decoder.run, payload, decoder]
  simp only [List.append_assoc]
  rw [(Decoder.reads_lengthBytes catalog).bind_append, (Decoder.reads_lengthText schema).bind_append,
    (Decoder.reads_lengthText table).bind_append, (Decoder.reads_lengthBytes table).bind_append,
    (Decoder.reads_lengthText name).bind_append, (Decoder.reads_lengthBytes name).bind_append,
    (Decoder.reads_lengthNumber fixedSize).bind_append,
    (Decoder.reads_uint16 field.charset).bind_append,
    (Decoder.reads_uint32 field.length).bind_append,
    (Decoder.reads_byte field.columnType).bind_append,
    (Decoder.reads_uint16 field.flags).bind_append,
    (Decoder.reads_byte field.decimals).bind_append]
  rfl

namespace Row

/-- A cell is read as it was written, if its size can be told. -/
theorem reads_cell {cell : Option (List UInt8)}
    (fits : ∀ bytes ∈ cell, bytes.length < UInt64.size) : Reads cellDecoder (cellBytes cell) cell := by
  intro rest
  cases cell with
  | none => rfl
  | some bytes =>
    have other : (lengthBytes bytes ++ rest).head? ≠ some nullMark := by
      rw [Wire.lengthBytes, List.append_assoc]
      exact Decoder.nullMark_ne_head _ _
    have read := (Decoder.reads_lengthBytes (fits bytes rfl)).bind_pure some rest
    rw [← read]
    show (if (lengthBytes bytes ++ rest).head? = some nullMark then _ else _ : Decoder _) _ = _
    rw [if_neg other]
    rfl

theorem reads_cells {cells : List (Option (List UInt8))}
    (fit : ∀ cell ∈ cells, ∀ bytes ∈ cell, bytes.length < UInt64.size) :
    Reads (cellsDecoder cells.length) (cells.flatMap cellBytes) cells := by
  induction cells with
  | nil => exact fun _ => rfl
  | cons cell rest ih =>
    have first := reads_cell (fit cell List.mem_cons_self)
    have others := ih fun other inside => fit other (List.mem_cons_of_mem _ inside)
    exact first.bind (others.bind_pure (cell :: ·))

theorem length_le_of_mem {row : Row} {bytes : List UInt8} (inside : some bytes ∈ row.cells) :
    bytes.length ≤ row.payload.length := by
  obtain ⟨before, after, split⟩ := List.append_of_mem inside
  rw [payload, split, List.flatMap_append, List.flatMap_cons, cellBytes, Wire.lengthBytes]
  simp only [List.length_append]
  omega

/-- A row is read as it was written, by the number of its cells, if the size of each can be told. -/
theorem read_of_cells {row : Row}
    (fit : ∀ bytes, some bytes ∈ row.cells → bytes.length < UInt64.size) :
    Row.read row.payload row.cells.length = .ok row := by
  have cells : Reads (cellsDecoder row.cells.length) (row.cells.flatMap cellBytes) row.cells := by
    refine reads_cells fun cell inside bytes isCell => ?_
    obtain rfl : cell = some bytes := isCell
    exact fit bytes inside
  exact (cells.bind_pure Row.mk).run

/-- **A row is read as it was written**, by the number of its cells. -/
theorem read_payload {row : Row} (fits : row.payload.length < UInt64.size) :
    Row.read row.payload row.cells.length = .ok row :=
  read_of_cells fun _ inside => Nat.lt_of_le_of_lt (length_le_of_mem inside) fits

end Row

/-! ### Packets of all kinds -/

/-- A packet built of a payload carries its id, on the wire too, and is read as a value. -/
structure ReadBack {α : Type} (read : List UInt8 → Except PacketError α) (packet : Packet)
    (sequence : UInt8) (value : α) : Prop where
  id : packet.sequence = sequence
  onWire : packet.bytes[3]? = some sequence
  value : read packet.payload = .ok value

theorem ReadBack.of_read {α : Type} {read : List UInt8 → Except PacketError α}
    {payload : List UInt8} {value : α} (sequence : UInt8) (found : read payload = .ok value) :
    ReadBack read ⟨sequence, payload⟩ sequence value :=
  ⟨rfl, rfl, found⟩

/-- **Replies of every kind are read back** from the packets that are built of them, under any id: a
success, an end and a number of columns whatever they hold, a failure with a state of five bytes, and
columns and rows whose texts and cells have sizes that can be told. -/
theorem replies_read_back (sequence : UInt8) :
    (∀ reply : OkReply, ReadBack OkReply.read ⟨sequence, reply.payload⟩ sequence reply) ∧
      (∀ reply : EofReply, ReadBack EofReply.read ⟨sequence, reply.payload⟩ sequence reply) ∧
      (∀ header : ResultHeader,
        ReadBack ResultHeader.read ⟨sequence, header.payload⟩ sequence header) ∧
      (∀ field : FieldReply, (∀ text ∈ [field.schema, field.table, field.name],
          (Utf8.encode text).length < UInt64.size) →
        ReadBack FieldReply.read ⟨sequence, field.payload⟩ sequence field) ∧
      (∀ reply : ErrReply, (Utf8.encode reply.state).length = 5 →
        ReadBack ErrReply.read ⟨sequence, reply.payload⟩ sequence reply) ∧
      ∀ row : Row, (∀ bytes, some bytes ∈ row.cells → bytes.length < UInt64.size) →
        ReadBack (Row.read · row.cells.length) ⟨sequence, row.payload⟩ sequence row :=
  ⟨fun reply => .of_read sequence reply.read_payload,
    fun reply => .of_read sequence reply.read_payload,
    fun header => .of_read sequence header.read_payload,
    fun _ fit => .of_read sequence (FieldReply.read_payload fit),
    fun _ stated => .of_read sequence (ErrReply.read_payload stated),
    fun _ fit => .of_read sequence (Row.read_of_cells fit)⟩

/-- A column, a failure, and a row with NULL, an empty cell and a cell too long for a size of one
byte. -/
theorem long_replies_read_back :
    let field : FieldReply := { name := "größe", columnType := 0xfd }
    let failure : ErrReply := ⟨1062, "23000", "Duplicate entry"⟩
    let row : Row := ⟨[none, some [], some (List.replicate 251 0xfb)]⟩
    ReadBack FieldReply.read ⟨255, field.payload⟩ 255 field ∧
      ReadBack ErrReply.read ⟨255, failure.payload⟩ 255 failure ∧
        ReadBack (Row.read · 3) ⟨255, row.payload⟩ 255 row := by
  intro field failure row
  obtain ⟨-, -, -, fields, failures, rows⟩ := replies_read_back 255
  refine ⟨fields field ?_, failures failure (by decide +kernel), rows row fun bytes inside => ?_⟩
  · decide +kernel
  · have sizes : ∀ cell ∈ row.cells, (cell.map List.length).getD 0 ≤ 251 := by decide +kernel
    exact Nat.lt_of_le_of_lt (sizes (some bytes) inside) (by decide)

end ScatterGather.Wire
