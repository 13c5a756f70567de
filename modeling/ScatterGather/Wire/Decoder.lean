/-
**Reading and writing bytes.**

* `PacketError`: why bytes are no packet, or no packet of a kind;
* `Decoder`: a reader that takes bytes from the front;
* `Decoder.take`: a number of bytes, or how many are missing;
* `littleEndian`, `ofLittleEndian`: a number in bytes, the lowest first; reading what was written gives
  the number back (`ofLittleEndian_littleEndian`);
* `Decoder.lengthNumber`, `lengthNumber`: a number in one byte, or in two, three or eight bytes behind a
  byte that tells how many.
-/

namespace ScatterGather.Wire

/-- Why bytes cannot be read. -/
inductive PacketError where
  | truncated (needed : Nat)
  | lengthMismatch (declared actual : Nat)
  | unexpectedMarker (marker : UInt8)
  deriving DecidableEq, Repr

/-- A digit of a byte in hexadecimal. -/
def hexDigit (value : Nat) : Char :=
  Char.ofNat (if value < 10 then 0x30 + value else 0x61 + (value - 10))

/-- A byte as two hexadecimal digits. -/
def hexByte (byte : UInt8) : String :=
  String.ofList [hexDigit (byte.toNat / 16), hexDigit (byte.toNat % 16)]

/-- The text of a failure to read bytes. -/
def PacketError.message : PacketError → String
  | truncated needed => s!"packet truncated: needed {needed} more byte(s)"
  | lengthMismatch declared actual =>
    s!"header declares {declared} payload bytes but {actual} are present"
  | unexpectedMarker marker => "unexpected packet marker 0x" ++ hexByte marker

/-! ### Numbers -/

/-- The lowest bytes of a number, the lowest first. -/
def littleEndian : Nat → Nat → List UInt8
  | 0, _ => []
  | width + 1, value => UInt8.ofNat value :: littleEndian width (value / 256)

/-- The number of bytes whose lowest comes first. -/
def ofLittleEndian : List UInt8 → Nat
  | [] => 0
  | byte :: rest => byte.toNat + 256 * ofLittleEndian rest

/-- A number of so many bytes is written in so many bytes. -/
theorem length_littleEndian (width value : Nat) : (littleEndian width value).length = width := by
  induction width generalizing value with
  | zero => rfl
  | succ width ih => rw [littleEndian, List.length_cons, ih]

/-- What is written of a number is its remainder. -/
theorem ofLittleEndian_littleEndian (width value : Nat) :
    ofLittleEndian (littleEndian width value) = value % Nat.pow 256 width := by
  induction width generalizing value with
  | zero => exact (Nat.mod_one value).symm
  | succ width ih =>
    rw [littleEndian, ofLittleEndian, ih, UInt8.toNat_ofNat',
      show Nat.pow 256 (width + 1) = 256 * Nat.pow 256 width from Nat.mul_comm _ _]
    exact Nat.mod_mul.symm

/-- The byte before a number of two bytes. -/
def twoByteMark : UInt8 := 0xfc

/-- The byte before a number of three bytes. -/
def threeByteMark : UInt8 := 0xfd

/-- The byte before a number of eight bytes. -/
def eightByteMark : UInt8 := 0xfe

/-- A number in as few bytes as there are for its size. -/
def lengthNumber (value : UInt64) : List UInt8 :=
  let size := value.toNat
  if size ≤ 250 then [value.toUInt8]
  else if size ≤ 0xffff then twoByteMark :: littleEndian 2 size
  else if size ≤ 0xffffff then threeByteMark :: littleEndian 3 size
  else eightByteMark :: littleEndian 8 size

/-- Bytes behind their number. -/
def lengthBytes (bytes : List UInt8) : List UInt8 :=
  lengthNumber (UInt64.ofNat bytes.length) ++ bytes

/-! ### Decoders -/

/-- A reader of bytes. -/
abbrev Decoder := StateT (List UInt8) (Except PacketError)

/-- The first bytes and those behind them, or how many are missing. -/
def splitBytes : Nat → List UInt8 → Except PacketError (List UInt8 × List UInt8)
  | 0, bytes => .ok ([], bytes)
  | count + 1, [] => .error (.truncated (count + 1))
  | count + 1, byte :: rest =>
    match splitBytes count rest with
    | .ok (taken, left) => .ok (byte :: taken, left)
    | .error cause => .error cause

/-- Bytes that stand in front are taken whole. -/
theorem splitBytes_append (taken left : List UInt8) :
    splitBytes taken.length (taken ++ left) = .ok (taken, left) := by
  induction taken with
  | nil => rfl
  | cons byte rest ih => rw [List.length_cons, List.cons_append, splitBytes, ih]

/-- Bytes that are not enough tell how many are missing. -/
theorem splitBytes_short (bytes : List UInt8) (missing : Nat) :
    splitBytes (bytes.length + missing + 1) bytes = .error (.truncated (missing + 1)) := by
  induction bytes with
  | nil => rw [List.length_nil, Nat.zero_add, splitBytes]
  | cons byte rest ih =>
    rw [List.length_cons, Nat.add_right_comm rest.length, splitBytes, ih]

namespace Decoder

/-- A number of bytes. -/
def take (count : Nat) : Decoder (List UInt8) :=
  splitBytes count

/-- One byte. -/
def byte : Decoder UInt8
  | [] => .error (.truncated 1)
  | first :: rest => .ok (first, rest)

/-- The next byte, which stays. -/
def peek : Decoder (Option UInt8) := fun bytes => .ok (bytes.head?, bytes)

/-- All bytes that are left. -/
def rest : Decoder (List UInt8) := fun bytes => .ok (bytes, [])

/-- A number of some bytes. -/
def number (width : Nat) : Decoder Nat := do
  return ofLittleEndian (← take width)

/-- A number of two bytes. -/
def uint16 : Decoder UInt16 := do
  return UInt16.ofNat (← number 2)

/-- A number of four bytes. -/
def uint32 : Decoder UInt32 := do
  return UInt32.ofNat (← number 4)

/-- A number in as many bytes as its first byte tells. -/
def lengthNumber : Decoder UInt64 := do
  let first ← byte
  if first = twoByteMark then return UInt64.ofNat (← number 2)
  else if first = threeByteMark then return UInt64.ofNat (← number 3)
  else if first = eightByteMark then return UInt64.ofNat (← number 8)
  else return first.toUInt64

/-- Bytes behind their number. -/
def lengthBytes : Decoder (List UInt8) := do
  let size ← lengthNumber
  take size.toNat

/-- What a reader finds in bytes; bytes left over are passed over. -/
def run {α : Type} (reader : Decoder α) (bytes : List UInt8) : Except PacketError α :=
  match reader bytes with
  | .ok (value, _) => .ok value
  | .error cause => .error cause

end Decoder

end ScatterGather.Wire
