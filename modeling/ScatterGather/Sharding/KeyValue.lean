/-
**Key values and their hash.**

* `KeyValue`: a literal bound to a sharding column. Values are ordered by their kind, NULL before
  whole numbers before texts before truth values, and within a kind by value;
* `KeyValue.bytes`: what hashing sees of a value. A whole number is hashed as its decimal text, a
  truth value as `1` or `0`, so that `7` and `'7'` are hashed alike;
* `KeyValue.asInteger?`: a value as a whole number, where it is one in any spelling;
* `SeaHash.words`: a byte string as words of eight bytes, the lowest byte first; a last word of
  fewer bytes is filled up with zeros;
* `SeaHash.hash`: the words are mixed in turn into four lanes, and the lanes and the number of bytes
  make up the hash.
-/
import ScatterGather.Text.Character
import ScatterGather.Text.Utf8
import ScatterGather.Number.Decimal

namespace ScatterGather

/-- A literal bound to a sharding column. -/
inductive KeyValue where
  | null
  | integer (value : Int64)
  | text (value : String)
  | boolean (value : Bool)
  deriving DecidableEq, Ord, Repr, Inhabited

namespace KeyValue

/-- A value as messages show it. -/
def display : KeyValue → String
  | null => "NULL"
  | integer value => toString value
  | text value => "'" ++ value ++ "'"
  | boolean value => toString value

/-- The text that is hashed for a value. -/
def hashText : KeyValue → String
  | null => "null"
  | integer value => toString value
  | text value => value
  | boolean value => if value then "1" else "0"

/-- The bytes that are hashed for a value. -/
def bytes (key : KeyValue) : List UInt8 :=
  Text.Utf8.encode key.hashText

/-- A value as a whole number. A text counts as the number it spells, white space around it
aside. -/
def asInteger? : KeyValue → Option Int64
  | null => none
  | integer value => some value
  | text value => Whole.int64? (Text.trim value.toList)
  | boolean value => some (if value then 1 else 0)

end KeyValue

/-! ### The hash -/

namespace SeaHash

/-- The four lanes. -/
structure Lanes where
  a : UInt64
  b : UInt64
  c : UInt64
  d : UInt64
  deriving DecidableEq, Repr

/-- The lanes before the first word. -/
def seed : Lanes :=
  ⟨0x16f11fe89b0d677c, 0xb480a793d8e6c86c, 0x6fe2e5aaf078ebc9, 0x14f994a4c5259381⟩

/-- The multiplier of a diffusion. -/
def multiplier : UInt64 := 0x6eed0e9da4d94a4f

/-- A word with its bits spread over all of it. -/
def diffuse (word : UInt64) : UInt64 :=
  let spread := word * multiplier
  (spread ^^^ ((spread >>> 32) >>> (spread >>> 60))) * multiplier

/-- The lanes after one more word: it is mixed into the first lane, which becomes the last. -/
def Lanes.push (lanes : Lanes) (word : UInt64) : Lanes :=
  ⟨lanes.b, lanes.c, lanes.d, diffuse (lanes.a ^^^ word)⟩

/-- The word whose bytes, the lowest first, are given. -/
def word (bytes : List UInt8) : UInt64 :=
  bytes.foldr (fun byte high => (high <<< 8) ||| byte.toUInt64) 0

/-- A byte string as words. -/
def words : List UInt8 → List UInt64
  | a :: b :: c :: d :: e :: f :: g :: h :: rest => word [a, b, c, d, e, f, g, h] :: words rest
  | [] => []
  | bytes => [word bytes]

/-- The hash of a byte string. -/
def hash (bytes : List UInt8) : UInt64 :=
  let lanes := (words bytes).foldl Lanes.push seed
  diffuse (lanes.a ^^^ lanes.b ^^^ lanes.c ^^^ lanes.d ^^^ UInt64.ofNat bytes.length)

end SeaHash

end ScatterGather
