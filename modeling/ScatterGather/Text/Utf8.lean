/-
**Texts as bytes.**

* `Utf8.encode`: the bytes of a text;
* `Utf8.decode`: the text of any byte string, in which each maximal ill-formed part becomes one
  replacement character.
-/

namespace ScatterGather.Text.Utf8

/-! ### Encoding -/

/-- The bytes of one character: one to four, by the size of its code point. -/
def encodeChar (c : Char) : List UInt8 :=
  let point := c.toNat
  if point < 0x80 then [point.toUInt8]
  else if point < 0x800 then
    [(0xC0 + point / 0x40).toUInt8, (0x80 + point % 0x40).toUInt8]
  else if point < 0x10000 then
    [(0xE0 + point / 0x1000).toUInt8, (0x80 + point / 0x40 % 0x40).toUInt8,
      (0x80 + point % 0x40).toUInt8]
  else
    [(0xF0 + point / 0x40000).toUInt8, (0x80 + point / 0x1000 % 0x40).toUInt8,
      (0x80 + point / 0x40 % 0x40).toUInt8, (0x80 + point % 0x40).toUInt8]

/-- The bytes of a text. -/
def encode (text : String) : List UInt8 :=
  text.toList.flatMap encodeChar

/-! ### Decoding -/

/-- The character that stands for an ill-formed part. -/
def replacement : Char := Char.ofNat 0xFFFD

/-- A character of several bytes that has begun: how many bytes it still owes, the bounds of the
next one, and the part of the code point read so far. -/
structure Pending where
  owed : Nat
  low : UInt8
  high : UInt8
  point : Nat
  deriving DecidableEq, Repr

/-- What a byte does between characters: it is one, it begins one, or it is ill-formed. -/
def lead (byte : UInt8) : List Char × Option Pending :=
  if byte < 0x80 then ([Char.ofNat byte.toNat], none)
  else if byte < 0xC2 then ([replacement], none)
  else if byte < 0xE0 then ([], some ⟨1, 0x80, 0xBF, byte.toNat - 0xC0⟩)
  else if byte < 0xF0 then
    let low := if byte == 0xE0 then 0xA0 else 0x80
    let high := if byte == 0xED then 0x9F else 0xBF
    ([], some ⟨2, low, high, byte.toNat - 0xE0⟩)
  else if byte < 0xF5 then
    let low := if byte == 0xF0 then 0x90 else 0x80
    let high := if byte == 0xF4 then 0x8F else 0xBF
    ([], some ⟨3, low, high, byte.toNat - 0xF0⟩)
  else ([replacement], none)

/-- What a byte does in either situation. A byte that cannot continue the pending character ends
it, and then counts as the first byte of what follows. -/
def step : Option Pending → UInt8 → List Char × Option Pending
  | none, byte => lead byte
  | some pending, byte =>
    if pending.low ≤ byte ∧ byte ≤ pending.high then
      let point := pending.point * 0x40 + (byte.toNat - 0x80)
      if pending.owed ≤ 1 then ([Char.ofNat point], none)
      else ([], some ⟨pending.owed - 1, 0x80, 0xBF, point⟩)
    else (replacement :: (lead byte).1, (lead byte).2)

/-- The characters of a byte string that follows a possibly begun character. -/
def decodeFrom : Option Pending → List UInt8 → List Char
  | none, [] => []
  | some _, [] => [replacement]
  | state, byte :: rest => (step state byte).1 ++ decodeFrom (step state byte).2 rest

/-- The characters of a byte string. -/
def decodeChars (bytes : List UInt8) : List Char :=
  decodeFrom none bytes

/-- The text of a byte string. -/
def decode (bytes : List UInt8) : String :=
  String.ofList (decodeChars bytes)

end ScatterGather.Text.Utf8
