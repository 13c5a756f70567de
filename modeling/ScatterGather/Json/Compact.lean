/-
**JSON values as text.**

* `Json.escaped`, `Json.quoted`: a character and a text between quotes, with escapes where they are
  needed;
* `Json.compact`: the characters of a value, with no white space between them;
* `Json.written`: the text of a value.
-/
import ScatterGather.Json

namespace ScatterGather.Json

/-- The character that stands behind a backslash for a character, if there is one. -/
def escapeMark? (c : Char) : Option Char :=
  match c with
  | '\x22' | '\x5c' => some c
  | '\x08' => some 'b'
  | '\x0c' => some 'f'
  | '\n' => some 'n'
  | '\r' => some 'r'
  | '\t' => some 't'
  | _ => none

/-- A character of a text. A control character without a mark of its own is written by its number. -/
def escaped (c : Char) : List Char :=
  match escapeMark? c with
  | some mark => ['\x5c', mark]
  | none =>
    if c.toNat < 0x20 then
      ['\x5c', 'u', '0', '0', (c.toNat / 16).digitChar, (c.toNat % 16).digitChar]
    else [c]

/-- A text between quotes. One that has no value is written as half of a surrogate pair. -/
def quoted : Option String → List Char
  | some value => '\x22' :: (value.toList.flatMap escaped ++ ['\x22'])
  | none => ['\x22', '\x5c', 'u', 'd', '8', '0', '0', '\x22']

mutual

/-- The characters of a value. -/
def compact : Json → List Char
  | null => "null".toList
  | boolean value => (if value then "true" else "false").toList
  | integer value => (toString value).toList
  | real spelling => spelling.toList
  | text value => quoted value
  | array items => '[' :: compactItems items
  | object members => '\x7b' :: compactMembers members

/-- The characters of items up to the end of their array. -/
def compactItems : List Json → List Char
  | [] => [']']
  | [item] => compact item ++ [']']
  | item :: rest => compact item ++ ',' :: compactItems rest

/-- The characters of members up to the end of their object. -/
def compactMembers : List (Option String × Json) → List Char
  | [] => ['\x7d']
  | [(name, value)] => quoted name ++ ':' :: (compact value ++ ['\x7d'])
  | (name, value) :: rest => quoted name ++ ':' :: (compact value ++ ',' :: compactMembers rest)

end

/-- The text of a value. -/
def written (json : Json) : String :=
  String.ofList json.compact

end ScatterGather.Json
