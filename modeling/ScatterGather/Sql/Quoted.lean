/-
**Quoted text.**

* `Quoted.read`: the text between quotes. A doubled quote stands for one, and where backslashes
  escape, a backslash and the character after it stand for one character;
* `Quoted.write`: a text between quotes. A quote inside is written twice; but two adjacent quotes,
  and quotes that follow a backslash, are taken to be escaped already and stand as they are.
-/

namespace ScatterGather.Sql

/-- The quote of string literals. -/
def singleQuote : Char := '\x27'

/-- The other quote of string literals. -/
def doubleQuote : Char := '\x22'

/-- The quote of identifiers. -/
def identifierQuote : Char := '\x60'

/-- The character that escapes the next one in a string literal. -/
def backslash : Char := '\x5c'

namespace Quoted

/-- The character that a backslash and this character stand for. -/
def unescape (c : Char) : Char :=
  match c with
  | '0' => Char.ofNat 0x00
  | 'a' => Char.ofNat 0x07
  | 'b' => Char.ofNat 0x08
  | 'f' => Char.ofNat 0x0C
  | 'n' => Char.ofNat 0x0A
  | 'r' => Char.ofNat 0x0D
  | 't' => Char.ofNat 0x09
  | 'Z' => Char.ofNat 0x1A
  | other => other

/-- The text up to the closing quote and the characters after it; nothing where no quote closes
it. The opening quote has been read. -/
def read (quote : Char) (escapes : Bool) : List Char → Option (List Char × List Char)
  | [] => none
  | [c] => if c = quote then some ([], []) else none
  | c :: d :: rest =>
    if c = quote then
      if d = quote then
        (read quote escapes rest).map fun (text, after) => (quote :: text, after)
      else some ([], d :: rest)
    else if escapes && c = backslash then
      (read quote escapes rest).map fun (text, after) => (unescape d :: text, after)
    else
      (read quote escapes (d :: rest)).map fun (text, after) => (c :: text, after)

/-- The characters of a text as they stand between quotes; `escaped` tells that the text so far
ends in a backslash, or in quotes that follow one. -/
def body (quote : Char) (escaped : Bool) : List Char → List Char
  | [] => []
  | [c] => if c = quote && !escaped then [quote, quote] else [c]
  | c :: d :: rest =>
    if c = quote then
      if escaped then quote :: body quote true (d :: rest)
      else if d = quote then quote :: quote :: body quote false rest
      else quote :: quote :: body quote false (d :: rest)
    else c :: body quote (c = backslash) (d :: rest)

/-- A text between quotes. -/
def write (quote : Char) (text : String) : String :=
  String.ofList (quote :: (body quote false text.toList ++ [quote]))

end Quoted

end ScatterGather.Sql
