/-
**JSON values.**

* `Json`: a value with the members of its objects in order, repeated names included. A text that
  holds half of a surrogate pair is a text of no value;
* `Json.read?`: the value that a text spells;
* `Json.fields?`: the fields of a record, by name from an object or by place from an array;
* `Json.depth`, `Json.isSound`: how deep a value nests, and whether all texts in it have values and
  all numbers are finite.
-/
import ScatterGather.Number.Binary64

namespace ScatterGather

/-- A value in JSON. -/
inductive Json where
  | null
  | boolean (value : Bool)
  | integer (value : Int)
  /-- A number with a fraction or an exponent, a zero with a minus sign, or a whole number beyond 64
  bits, as it is spelled. -/
  | real (spelling : String)
  | text (value : Option String)
  | array (items : List Json)
  | object (members : List (Option String × Json))
  deriving Repr, Inhabited

namespace Json

/-! ### Texts -/

/-- A piece of a text: a character, or an escaped half of a surrogate pair. -/
inductive Piece where
  | char (c : Char)
  | half (unit : Nat)
  deriving DecidableEq, Repr

/-- The value of a hexadecimal digit. -/
def hexDigit? (c : Char) : Option Nat :=
  if c.isDigit then some (c.toNat - 0x30)
  else if 'a' ≤ c ∧ c ≤ 'f' then some (c.toNat - 0x61 + 10)
  else if 'A' ≤ c ∧ c ≤ 'F' then some (c.toNat - 0x41 + 10)
  else none

/-- The piece that four hexadecimal digits stand for. -/
def unit? (a b c d : Char) : Option Piece := do
  let high := (← hexDigit? a) * 16 + (← hexDigit? b)
  let low := (← hexDigit? c) * 16 + (← hexDigit? d)
  let unit := high * 256 + low
  return if 0xD800 ≤ unit ∧ unit < 0xE000 then .half unit else .char (Char.ofNat unit)

/-- The character that a backslash and one more character stand for. -/
def escape? (c : Char) : Option Char :=
  match c with
  | '\x22' | '\x5c' | '/' => some c
  | 'b' => some (Char.ofNat 0x08)
  | 'f' => some (Char.ofNat 0x0C)
  | 'n' => some '\n'
  | 'r' => some '\r'
  | 't' => some '\t'
  | _ => none

/-- The pieces of a text up to its closing quote, and the characters behind it. -/
def pieces? : List Char → Option (List Piece × List Char)
  | [] => none
  | '\x22' :: rest => some ([], rest)
  | '\x5c' :: 'u' :: a :: b :: c :: d :: rest => do
    let piece ← unit? a b c d
    let (pieces, after) ← pieces? rest
    return (piece :: pieces, after)
  | '\x5c' :: c :: rest => do
    let c ← escape? c
    let (pieces, after) ← pieces? rest
    return (.char c :: pieces, after)
  | c :: rest => do
    if c.toNat < 0x20 then none
    else
      let (pieces, after) ← pieces? rest
      return (.char c :: pieces, after)

/-- The characters that pieces make up; nothing where half of a pair stands alone. -/
def chars? : List Piece → Option (List Char)
  | [] => some []
  | .char c :: rest => (chars? rest).map (c :: ·)
  | .half high :: .half low :: rest =>
    if high < 0xDC00 ∧ 0xDC00 ≤ low then
      let c := Char.ofNat (0x10000 + (high - 0xD800) * 0x400 + (low - 0xDC00))
      (chars? rest).map (c :: ·)
    else none
  | .half _ :: _ => none

/-- A text behind its opening quote, and the characters behind it. -/
def text? (chars : List Char) : Option (Option String × List Char) := do
  let (pieces, after) ← pieces? chars
  return ((chars? pieces).map String.ofList, after)

/-! ### Numbers -/

/-- The whole part of a number: a zero, or digits that do not begin with one. -/
def wholePart? (chars : List Char) : Option (List Char × List Char) :=
  match chars with
  | '0' :: rest => some (['0'], rest)
  | c :: _ =>
    if c.isDigit then some (chars.takeWhile Char.isDigit, chars.dropWhile Char.isDigit) else none
  | [] => none

/-- One or more digits behind a mark that has been read. -/
def digits? (mark : List Char) (chars : List Char) : Option (List Char × List Char) :=
  let digits := chars.takeWhile Char.isDigit
  if digits.isEmpty then none else some (mark ++ digits, chars.dropWhile Char.isDigit)

/-- The fraction of a number, where it has one. -/
def fractionPart? : List Char → Option (List Char × List Char)
  | '.' :: rest => digits? ['.'] rest
  | chars => some ([], chars)

/-- The exponent of a number, where it has one. -/
def exponentPart? : List Char → Option (List Char × List Char)
  | mark :: rest =>
    if mark = 'e' ∨ mark = 'E' then
      match rest with
      | '+' :: rest => digits? [mark, '+'] rest
      | '-' :: rest => digits? [mark, '-'] rest
      | _ => digits? [mark] rest
    else some ([], mark :: rest)
  | [] => some ([], [])

/-- Tells whether a whole number is one of 64 bits, with a sign where it is negative. -/
def isWord (value : Int) : Bool :=
  -0x8000000000000000 ≤ value && value < 0x10000000000000000

/-- A number, and the characters behind it. -/
def number? (chars : List Char) : Option (Json × List Char) := do
  let (negative, body) := match chars with
    | '-' :: rest => (true, rest)
    | _ => (false, chars)
  let (whole, rest) ← wholePart? body
  let (fraction, rest) ← fractionPart? rest
  let (exponent, rest) ← exponentPart? rest
  let sign := if negative then ['-'] else []
  let value ← Whole.signed? (sign ++ whole)
  if fraction.isEmpty ∧ exponent.isEmpty ∧ isWord value ∧ !(negative && value == 0) then
    return (.integer value, rest)
  else return (.real (String.ofList (sign ++ whole ++ fraction ++ exponent)), rest)

/-! ### Values -/

/-- The characters behind white space. -/
def skipBlanks (chars : List Char) : List Char :=
  chars.dropWhile fun c => c == ' ' || c == '\n' || c == '\t' || c == '\r'

/-- The characters behind a word that has to come next. -/
def word? (word : List Char) (chars : List Char) : Option (List Char) :=
  if word.isPrefixOf chars then some (chars.drop word.length) else none

mutual

/-- A value, and the characters behind it, in at most so many steps. -/
def value? : Nat → List Char → Option (Json × List Char)
  | 0, _ => none
  | steps + 1, chars =>
    match skipBlanks chars with
    | '\x22' :: rest => do
      let (value, after) ← text? rest
      return (.text value, after)
    | '[' :: rest =>
      match skipBlanks rest with
      | ']' :: after => some (.array [], after)
      | _ => do
        let (items, after) ← items? steps rest
        return (.array items, after)
    | '\x7b' :: rest =>
      match skipBlanks rest with
      | '\x7d' :: after => some (.object [], after)
      | _ => do
        let (members, after) ← members? steps rest
        return (.object members, after)
    | 'n' :: rest => (word? "ull".toList rest).map fun after => (.null, after)
    | 't' :: rest => (word? "rue".toList rest).map fun after => (.boolean true, after)
    | 'f' :: rest => (word? "alse".toList rest).map fun after => (.boolean false, after)
    | other => number? other

/-- The items of an array up to its end. -/
def items? : Nat → List Char → Option (List Json × List Char)
  | 0, _ => none
  | steps + 1, chars => do
    let (item, rest) ← value? steps chars
    match skipBlanks rest with
    | ']' :: after => return ([item], after)
    | ',' :: rest =>
      let (items, after) ← items? steps rest
      return (item :: items, after)
    | _ => none

/-- The members of an object up to its end. -/
def members? : Nat → List Char → Option (List (Option String × Json) × List Char)
  | 0, _ => none
  | steps + 1, chars => do
    let (name, rest) ← match skipBlanks chars with
      | '\x22' :: rest => text? rest
      | _ => none
    let (value, rest) ← match skipBlanks rest with
      | ':' :: rest => value? steps rest
      | _ => none
    match skipBlanks rest with
    | '\x7d' :: after => return ([(name, value)], after)
    | ',' :: rest =>
      let (members, after) ← members? steps rest
      return ((name, value) :: members, after)
    | _ => none

end

/-- The value that a text spells. Each step reads a character at least, or descends behind one
that has been read. -/
def read? (text : String) : Option Json := do
  let chars := text.toList
  let (value, rest) ← value? (2 * chars.length + 2) chars
  if (skipBlanks rest).isEmpty then return value else none

/-! ### Records -/

/-- The values of the members of a name. -/
def valuesOf (name : String) (members : List (Option String × Json)) : List Json :=
  (members.filter fun member => member.1 == some name).map Prod.snd

/-- The value of a field, where it is there; a field that is there twice is refused. -/
def field? (members : List (Option String × Json)) (name : String) : Option (Option Json) :=
  match valuesOf name members with
  | [] => some none
  | [value] => some (some value)
  | _ => none

/-- The fields of a record in the order of their names. Other members are passed over; an array
gives the fields in order, and those at its end may be left off. -/
def fields? (names : List String) : Json → Option (List (Option Json))
  | object members =>
    if members.all fun member => member.1.isSome then names.mapM (field? members) else none
  | array items =>
    if items.length ≤ names.length then
      some (items.map some ++ List.replicate (names.length - items.length) none)
    else none
  | _ => none

/-! ### Soundness -/

mutual

/-- How many arrays and objects a value has within one another. -/
def depth : Json → Nat
  | array items => depthOfItems items + 1
  | object members => depthOfMembers members + 1
  | _ => 0

/-- The greatest depth of some items. -/
def depthOfItems : List Json → Nat
  | [] => 0
  | item :: rest => max (depth item) (depthOfItems rest)

/-- The greatest depth of some members. -/
def depthOfMembers : List (Option String × Json) → Nat
  | [] => 0
  | (_, value) :: rest => max (depth value) (depthOfMembers rest)

end

/-- Tells whether a number is within the range of doubles. An exponent beyond 32 bits is too large
for any number but zero. -/
def isFinite (spelling : String) : Bool :=
  let (whole, fraction, rest) := Decimal.splitDigits (Whole.splitSign spelling.toList).2
  let exponent := (Decimal.exponentPart? rest).getD 0
  let scaled := Scaled.ofParts whole fraction exponent
  if 0x80000000 ≤ exponent then scaled.significand = 0
  else exponent ≤ -0x80000000 || scaled.isFinite

mutual

/-- Tells whether all texts in a value have values and all its numbers are finite. -/
def isSound : Json → Bool
  | text value => value.isSome
  | real spelling => isFinite spelling
  | array items => areSoundItems items
  | object members => areSoundMembers members
  | _ => true

/-- Tells whether items are sound. -/
def areSoundItems : List Json → Bool
  | [] => true
  | item :: rest => isSound item && areSoundItems rest

/-- Tells whether members are sound. -/
def areSoundMembers : List (Option String × Json) → Bool
  | [] => true
  | (name, value) :: rest => name.isSome && isSound value && areSoundMembers rest

end

end Json

end ScatterGather
