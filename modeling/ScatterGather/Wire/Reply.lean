/-
**Replies.**

The payloads that shards send, as values. For each kind of payload, `payload` writes it and `read`
reads it; a reader passes over what stands behind it.

* `OkReply`: success of a statement without rows;
* `ErrReply`: failure;
* `EofReply`: the end of column definitions, or of rows;
* `ResultHeader`, `FieldReply`, `Row`: the number of columns, a column, and a row;
* `ClientError`: every failure that ends a statement, by where it arose, with the number and the text that
  it is reported with.
-/
import ScatterGather.Text.Utf8
import ScatterGather.Wire.Packet

namespace ScatterGather.Wire

open Text

/-- A first byte that has to be the marker of a kind. -/
def Decoder.marker (expected : UInt8) : Decoder Unit := do
  let found ← Decoder.byte
  if found = expected then return else throw (.unexpectedMarker found)

/-- Bytes behind their number, as text. -/
def Decoder.lengthText : Decoder String := do
  return Utf8.decode (← Decoder.lengthBytes)

/-! ### Success -/

/-- Success of a statement without rows. -/
structure OkReply where
  affectedRows : UInt64 := 0
  insertId : UInt64 := 0
  status : UInt16 := 0
  warnings : UInt16 := 0
  message : String := ""
  deriving DecidableEq, Repr, Inhabited

namespace OkReply

/-- The first byte of a success. -/
def marker : UInt8 := 0x00

/-- A success as payload. -/
def payload (reply : OkReply) : List UInt8 :=
  [marker] ++ lengthNumber reply.affectedRows ++ lengthNumber reply.insertId ++
    littleEndian 2 reply.status.toNat ++ littleEndian 2 reply.warnings.toNat ++
    Utf8.encode reply.message

/-- The reader of a success. -/
def decoder : Decoder OkReply := do
  Decoder.marker marker
  let affectedRows ← Decoder.lengthNumber
  let insertId ← Decoder.lengthNumber
  let status ← Decoder.uint16
  let warnings ← Decoder.uint16
  let message := Utf8.decode (← Decoder.rest)
  return { affectedRows, insertId, status, warnings, message }

/-- The success that a payload tells of. -/
def read (payload : List UInt8) : Except PacketError OkReply :=
  decoder.run payload

end OkReply

/-! ### Failure -/

/-- Failure of a statement. -/
structure ErrReply where
  code : UInt16
  state : String
  message : String
  deriving DecidableEq, Repr, Inhabited

namespace ErrReply

/-- The first byte of a failure. -/
def marker : UInt8 := 0xff

/-- The byte before the state of a failure. -/
def stateMark : UInt8 := 0x23

/-- The number of bytes of a state. -/
def stateSize : Nat := 5

/-- The state of a failure that tells none. -/
def generalState : String := "HY000"

/-- A state in as many bytes as it has on the wire, filled up with the digit zero. -/
def stateBytes (state : String) : List UInt8 :=
  (Utf8.encode state ++ List.replicate stateSize 0x30).take stateSize

/-- A failure as payload. -/
def payload (reply : ErrReply) : List UInt8 :=
  [marker] ++ littleEndian 2 reply.code.toNat ++ [stateMark] ++ stateBytes reply.state ++
    Utf8.encode reply.message

/-- A failure as the first packet of a response. -/
def packet (reply : ErrReply) : Packet :=
  ⟨(Sequence.next {}).last, reply.payload⟩

/-- The reader of a state, which may be missing with its mark. -/
def stateDecoder : Decoder String := do
  if (← Decoder.peek) = some stateMark then
    let _ ← Decoder.byte
    return Utf8.decode (← Decoder.take stateSize)
  else return generalState

/-- The reader of a failure. -/
def decoder : Decoder ErrReply := do
  Decoder.marker marker
  let code ← Decoder.uint16
  let state ← stateDecoder
  let message := Utf8.decode (← Decoder.rest)
  return { code, state, message }

/-- The failure that a payload tells of. -/
def read (payload : List UInt8) : Except PacketError ErrReply :=
  decoder.run payload

end ErrReply

/-! ### Ends -/

/-- The end of column definitions, or of rows. -/
structure EofReply where
  warnings : UInt16 := 0
  status : UInt16 := 0
  deriving DecidableEq, Repr, Inhabited

namespace EofReply

/-- The first byte of an end. -/
def marker : UInt8 := 0xfe

/-- An end as payload. -/
def payload (reply : EofReply) : List UInt8 :=
  [marker] ++ littleEndian 2 reply.warnings.toNat ++ littleEndian 2 reply.status.toNat

/-- The reader of an end. -/
def decoder : Decoder EofReply := do
  Decoder.marker marker
  let warnings ← Decoder.uint16
  let status ← Decoder.uint16
  return { warnings, status }

/-- The end that a payload tells of. -/
def read (payload : List UInt8) : Except PacketError EofReply :=
  decoder.run payload

end EofReply

/-! ### Columns -/

/-- The number of columns of a result. -/
structure ResultHeader where
  fieldCount : UInt64
  deriving DecidableEq, Repr, Inhabited

namespace ResultHeader

/-- A number of columns as payload. -/
def payload (header : ResultHeader) : List UInt8 :=
  lengthNumber header.fieldCount

/-- The reader of a number of columns. -/
def decoder : Decoder ResultHeader := do
  return ⟨← Decoder.lengthNumber⟩

/-- The number of columns that a payload tells. -/
def read (payload : List UInt8) : Except PacketError ResultHeader :=
  decoder.run payload

end ResultHeader

/-- A column of a result. -/
structure FieldReply where
  schema : String := ""
  table : String := ""
  name : String
  charset : UInt16 := 33
  length : UInt32 := 255
  columnType : UInt8
  flags : UInt16 := 0
  decimals : UInt8 := 0
  deriving DecidableEq, Repr, Inhabited

namespace FieldReply

/-- The catalog of all columns. -/
def catalog : String := "def"

/-- The size of the part of fixed size. -/
def fixedSize : UInt64 := 0x0c

/-- A column as payload. The original names of the table and the column are those of the result. -/
def payload (field : FieldReply) : List UInt8 :=
  let table := lengthBytes (Utf8.encode field.table)
  let name := lengthBytes (Utf8.encode field.name)
  lengthBytes (Utf8.encode catalog) ++ lengthBytes (Utf8.encode field.schema) ++ table ++ table ++
    name ++ name ++ lengthNumber fixedSize ++ littleEndian 2 field.charset.toNat ++
    littleEndian 4 field.length.toNat ++ [field.columnType] ++
    littleEndian 2 field.flags.toNat ++ [field.decimals] ++ littleEndian 2 0

/-- The reader of a column. -/
def decoder : Decoder FieldReply := do
  let _ ← Decoder.lengthBytes
  let schema ← Decoder.lengthText
  let table ← Decoder.lengthText
  let _ ← Decoder.lengthBytes
  let name ← Decoder.lengthText
  let _ ← Decoder.lengthBytes
  let _ ← Decoder.lengthNumber
  let charset ← Decoder.uint16
  let length ← Decoder.uint32
  let columnType ← Decoder.byte
  let flags ← Decoder.uint16
  let decimals ← Decoder.byte
  return { schema, table, name, charset, length, columnType, flags, decimals }

/-- The column that a payload describes. -/
def read (payload : List UInt8) : Except PacketError FieldReply :=
  decoder.run payload

end FieldReply

/-! ### Rows -/

/-- A row: the bytes of each column, or NULL. -/
structure Row where
  cells : List (Option (List UInt8))
  deriving DecidableEq, Repr, Inhabited

namespace Row

/-- The byte that stands for NULL. -/
def nullMark : UInt8 := 0xfb

/-- A cell as it stands in a payload. -/
def cellBytes : Option (List UInt8) → List UInt8
  | none => [nullMark]
  | some bytes => lengthBytes bytes

/-- A row as payload. -/
def payload (row : Row) : List UInt8 :=
  row.cells.flatMap cellBytes

/-- The reader of a cell. -/
def cellDecoder : Decoder (Option (List UInt8)) := do
  if (← Decoder.peek) = some nullMark then
    let _ ← Decoder.byte
    return none
  else return some (← Decoder.lengthBytes)

/-- The reader of some cells. -/
def cellsDecoder : Nat → Decoder (List (Option (List UInt8)))
  | 0 => return []
  | count + 1 => do
    let cell ← cellDecoder
    return cell :: (← cellsDecoder count)

/-- The row of some columns that a payload holds. -/
def read (payload : List UInt8) (fieldCount : Nat) : Except PacketError Row :=
  Decoder.run (do return ⟨← cellsDecoder fieldCount⟩) payload

end Row

end ScatterGather.Wire

namespace ScatterGather

/-! ### Errors that a client sees -/

/-- A failure that a client sees. -/
inductive ClientError where
  /-- The statement is malformed or not supported. -/
  | parse (text : String)
  /-- The layout cannot place the statement. -/
  | routing (text : String)
  /-- A shard answered with an error. -/
  | backend (code : UInt16) (state text : String)
  /-- The connection to a shard went away. -/
  | connection (reason : String)
  /-- The replies of the shards do not fit together, or cannot be read. -/
  | internal (text : String)
  deriving DecidableEq, Repr, Inhabited

namespace ClientError

/-- The number of an error. -/
def code : ClientError → UInt16
  | parse _ => 1064
  | routing _ => 1105
  | backend code _ _ => code
  | connection _ => 2013
  | internal _ => 1003

/-- The text of an error. -/
def message : ClientError → String
  | parse text => "parse error: " ++ text
  | routing text => "routing error: " ++ text
  | backend code _ text => s!"backend error {code}: {text}"
  | connection reason => "connection error: " ++ reason
  | internal text => "internal error: " ++ text

end ClientError

end ScatterGather
