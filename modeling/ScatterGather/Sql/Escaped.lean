/-
**Text between quotes in which a backslash escapes.**

* `Escaped.read`: the text up to the closing quote. A backslash stands before the code of a
  character, before the letter of a control character, or before a character that means itself;
* `Escaped.write`: a text with backslashes before its quotes and backslashes, and with letters for
  its line ends and tabs.
-/
import ScatterGather.Sql.Quoted

namespace ScatterGather.Sql.Escaped

/-! ### Codes -/

/-- The value of a digit of any base up to sixteen. -/
def digitValue? (c : Char) : Option Nat :=
  if '0' ≤ c ∧ c ≤ '9' then some (c.toNat - '0'.toNat)
  else if 'a' ≤ c ∧ c ≤ 'f' then some (c.toNat - 'a'.toNat + 10)
  else if 'A' ≤ c ∧ c ≤ 'F' then some (c.toNat - 'A'.toNat + 10)
  else none

/-- Tells whether a character is a digit of a base. -/
def isDigitOf (base : Nat) (c : Char) : Bool :=
  (digitValue? c).any (· < base)

/-- The number that digits spell in a base. -/
def numberOf (base : Nat) (digits : List Char) : Nat :=
  digits.foldl (fun value digit => value * base + (digitValue? digit).getD 0) 0

/-- The character of a code. -/
def charOf? (code : Nat) : Option Char :=
  if code.isValidChar then some (Char.ofNat code) else none

/-- The digits of a base that come next, as many as there are up to a number. -/
def digitsOf (base count : Nat) (chars : List Char) : List Char :=
  (chars.take count).takeWhile (isDigitOf base)

/-- The character of a code of one byte, which has to be one of ASCII. -/
def byteOf? (base : Nat) (digits : List Char) : Option Char :=
  let code := numberOf base digits % 256
  if code < 128 then some (Char.ofNat code) else none

/-- The character of a code of exactly so many hexadecimal digits. A plus sign may take the place
of the first digit. -/
def codePoint? (count : Nat) (chars : List Char) : Option (Char × List Char) :=
  let spelled := chars.take count
  let digits := match spelled with
    | '+' :: digits => digits
    | digits => digits
  if spelled.length = count ∧ digits.all (isDigitOf 16) then
    (charOf? (numberOf 16 digits)).map (·, chars.drop count)
  else none

/-! ### Reading -/

/-- What the characters behind a backslash stand for, and the characters after them. -/
def escape? : List Char → Option (Char × List Char)
  | [] => none
  | c :: rest =>
    match c with
    | 'b' => some (Char.ofNat 0x08, rest)
    | 'f' => some (Char.ofNat 0x0C, rest)
    | 'n' => some ('\n', rest)
    | 'r' => some ('\r', rest)
    | 't' => some ('\t', rest)
    | 'u' => codePoint? 4 rest
    | 'U' => codePoint? 8 rest
    | 'x' =>
      match digitsOf 16 2 rest with
      | [] => some ('x', rest)
      | digits => (byteOf? 16 digits).map (·, rest.drop digits.length)
    | c =>
      if isDigitOf 8 c then
        let more := digitsOf 8 2 rest
        (byteOf? 8 (c :: more)).map (·, rest.drop more.length)
      else some (c, rest)

/-- The text up to the closing quote and the characters after it, in at most `steps` steps, each of
which reads at least one character. Nothing where no quote closes it, and where a code stands for
no character or for NUL. -/
def readWithin : Nat → List Char → Option (List Char × List Char)
  | 0, _ => none
  | _, [] => none
  | steps + 1, c :: rest =>
    if c = singleQuote then
      match rest with
      | d :: after =>
        if d = singleQuote then
          (readWithin steps after).map fun (text, after) => (singleQuote :: text, after)
        else some ([], rest)
      | [] => some ([], [])
    else if c = backslash then do
      let (meant, after) ← escape? rest
      if meant.toNat = 0 then none
      else (readWithin steps after).map fun (text, after) => (meant :: text, after)
    else (readWithin steps rest).map fun (text, after) => (c :: text, after)

/-- The text up to the closing quote and the characters after it. The opening quote has been
read. -/
def read (chars : List Char) : Option (List Char × List Char) :=
  readWithin chars.length chars

/-! ### Writing -/

/-- A character as it stands between quotes. -/
def encode (c : Char) : List Char :=
  if c = singleQuote ∨ c = backslash then [backslash, c]
  else if c = '\n' then [backslash, 'n']
  else if c = '\t' then [backslash, 't']
  else if c = '\r' then [backslash, 'r']
  else [c]

/-- A text between quotes, with the mark of such texts before it. -/
def write (text : String) : String :=
  String.ofList ('E' :: singleQuote :: (text.toList.flatMap encode ++ [singleQuote]))

end ScatterGather.Sql.Escaped
