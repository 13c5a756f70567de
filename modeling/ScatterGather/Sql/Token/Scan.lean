/-
**The tokens of a text.**

* `Token.scan`: the tokens of a text in order; white space and comments part them and leave
  nothing behind;
* comments are `--` and `#` to the end of the line, and `/* */`, which nest;
* a name may hold any letter, and any character of the basic plane from U+0080 on; it may begin
  with a digit where what begins is no number.
-/
import ScatterGather.Sql.Escaped
import ScatterGather.Sql.Token
import ScatterGather.Text.Character
import ScatterGather.Text.Case

namespace ScatterGather.Sql.Token

open ScatterGather.Text

/-! ### Names -/

/-- Tells whether a name may begin with a character. -/
def startsName (c : Char) : Bool :=
  c.isAlpha || c == '_' || c == '$' || c == '@' || (0x80 ≤ c.toNat && c.toNat ≤ 0xFFFF) ||
    isSupplementaryLetter c

/-- Tells whether a name may go on with a character. -/
def continuesName (c : Char) : Bool :=
  startsName c || c.isDigit

/-- An unquoted name. -/
def ofName (chars : List Char) : Token :=
  let name := String.ofList chars
  word ⟨name, none⟩ (upper name)

/-- The name that begins with given characters, and the characters after it. -/
def nameFrom (beginning rest : List Char) : Token × List Char :=
  (ofName (beginning ++ rest.takeWhile continuesName), rest.dropWhile continuesName)

/-! ### Comments -/

/-- The characters after a nested comment; `depth` counts the comments still open, `last` is the
character before. Nothing where the comment does not end. -/
def afterComment (depth : Nat) (last : Char) : List Char → Option (List Char)
  | [] => none
  | c :: rest =>
    if last = '/' ∧ c = '*' then afterComment (depth + 1) c rest
    else if last = '*' ∧ c = '/' then
      if depth ≤ 1 then some rest else afterComment (depth - 1) c rest
    else afterComment depth c rest

/-- The characters after the end of the line. -/
def afterLine (chars : List Char) : List Char :=
  (chars.dropWhile fun c => c ≠ '\n').drop 1

/-! ### Numbers -/

/-- The exponent of a number: its characters and the characters after it. The mark of an exponent
without digits is not read, but counts as a beginning. -/
def exponent (chars : List Char) : Bool × List Char × List Char :=
  match chars with
  | mark :: rest =>
    if mark == 'e' || mark == 'E' then
      let (sign, body) := match rest with
        | '+' :: body => (['+'], body)
        | '-' :: body => (['-'], body)
        | body => ([], body)
      match body.takeWhile Char.isDigit with
      | [] => (true, [], chars)
      | digits => (true, mark :: (sign ++ digits), body.dropWhile Char.isDigit)
    else (false, [], chars)
  | [] => (false, [], [])

/-- The token that begins with a digit or a point: a number, a hexadecimal literal, a point, or a
name that begins with digits. -/
def numeric (chars : List Char) : Token × List Char :=
  let whole := chars.takeWhile Char.isDigit
  match whole, chars.dropWhile Char.isDigit with
  | ['0'], 'x' :: rest =>
    let isHex : Char → Bool := fun c =>
      c.isDigit || ('a' ≤ c && c ≤ 'f') || ('A' ≤ c && c ≤ 'F')
    (marked 'X' singleQuote (String.ofList (rest.takeWhile isHex)), rest.dropWhile isHex)
  | whole, afterWhole =>
    let (point, afterPoint) := match afterWhole with
      | '.' :: rest => (['.'], rest)
      | rest => ([], rest)
    let mantissa := whole ++ point ++ afterPoint.takeWhile Char.isDigit
    let rest := afterPoint.dropWhile Char.isDigit
    if mantissa = ['.'] then (symbol ".", rest)
    else
      let (begun, power, afterPower) := exponent rest
      match begun, rest.takeWhile continuesName with
      | false, _ :: _ => nameFrom mantissa rest
      | _, _ =>
        let digits := String.ofList (mantissa ++ power)
        match afterPower with
        | 'L' :: rest => (number digits true, rest)
        | rest => (number digits false, rest)

/-! ### Operators -/

/-- The operators and punctuation marks of several characters, each before those that begin it. -/
def longSymbols : List String :=
  ["->>", "->", "||/", "||", "|/", "<=>", "<=", "<>", "<<", "<@", ">=", ">>", "=>", "==", "!=",
    "!!", "!~~*", "!~~", "!~*", "!~", "~~*", "~~", "~*", "::", ":=", "&&", "^@"]

/-- The operator or punctuation mark at the start of a text that is not empty. -/
def symbolic (first : Char) (rest : List Char) : Token × List Char :=
  match longSymbols.find? fun mark => mark.toList.isPrefixOf (first :: rest) with
  | some mark => (symbol mark, (first :: rest).drop mark.length)
  | none => (symbol (String.singleton first), rest)

/-! ### Scanning -/

/-- A string literal whose opening quote has been read. -/
def quotedWith (build : String → Token) (quote : Char) (escapes : Bool) (rest : List Char) :
    Except SyntaxError (Option Token × List Char) :=
  match Quoted.read quote escapes rest with
  | some (text, after) => .ok (some (build (String.ofList text)), after)
  | none => .error .unterminated

/-- A letter that may mark a string literal, and stands for the start of a name elsewhere. -/
def letterOrLiteral (letter mark : Char) (quotes : List Char) (escapes : Bool)
    (rest : List Char) : Except SyntaxError (Option Token × List Char) :=
  match rest with
  | quote :: after =>
    if quotes.contains quote then quotedWith (marked mark quote) quote escapes after
    else .ok (nameFrom [letter] rest |>.map some id)
  | [] => .ok (some (ofName [letter]), [])

/-- A letter that may mark a string literal with escapes, and stands for the start of a name
elsewhere. -/
def letterOrEscaped (letter : Char) (rest : List Char) :
    Except SyntaxError (Option Token × List Char) :=
  match rest with
  | [] => .ok (some (ofName [letter]), [])
  | quote :: after =>
    if quote = singleQuote then
      match Escaped.read after with
      | some (text, after) => .ok (some (escaped (String.ofList text)), after)
      | none => .error .unterminated
    else .ok (nameFrom [letter] rest |>.map some id)

/-- The token after an at sign: a name that the sign begins, or the sign alone. -/
def atSign (rest : List Char) : Token × List Char :=
  match rest with
  | [] => (symbol "@", [])
  | '>' :: after => (symbol "@>", after)
  | '?' :: after => (symbol "@?", after)
  | ' ' :: _ => (symbol "@", rest)
  | ['@'] => (symbol "@@", [])
  | '@' :: ' ' :: after => (symbol "@@", ' ' :: after)
  | '@' :: c :: after => nameFrom ['@', '@', c] after
  | c :: after => nameFrom ['@', c] after

/-- The first token of a text that begins with a character, if it is one, and the characters after
it; nothing where white space or a comment stands first. -/
def scanOne (first : Char) (rest : List Char) : Except SyntaxError (Option Token × List Char) :=
  if first.isWhitespace then .ok (none, rest)
  else match first, rest with
  | 'b', _ | 'B', _ => letterOrLiteral first 'B' [singleQuote, doubleQuote] false rest
  | 'e', _ | 'E', _ => letterOrEscaped first rest
  | 'n', _ | 'N', _ => letterOrLiteral first 'N' [singleQuote] true rest
  | 'x', _ | 'X', _ => letterOrLiteral first 'X' [singleQuote] true rest
  | '-', '-' :: after => .ok (none, afterLine after)
  | '#', after => .ok (none, afterLine after)
  | '/', '*' :: after =>
    match afterComment 1 ' ' after with
    | some rest => .ok (none, rest)
    | none => .error .unterminated
  | '@', after => .ok ((atSign after).map some id)
  | '?', after =>
    .ok (some (placeholder (String.ofList ('?' :: after.takeWhile isNumeral))),
      after.dropWhile isNumeral)
  | _, _ =>
    if first = singleQuote ∨ first = doubleQuote then quotedWith (string first) first true rest
    else if first = identifierQuote then
      quotedWith (fun name => word ⟨name, some identifierQuote⟩ "") identifierQuote false rest
    else if first.isDigit || first == '.' then .ok ((numeric (first :: rest)).map some id)
    else if startsName first then .ok ((nameFrom [first] rest).map some id)
    else if isBlank first then .ok (none, rest)
    else .ok ((symbolic first rest).map some id)

/-- The tokens of a text in at most `steps` steps, each of which reads at least one character. -/
def scanWithin : Nat → List Char → Except SyntaxError (List Token)
  | _, [] => .ok []
  | 0, _ :: _ => .error .unexpected
  | steps + 1, first :: rest =>
    match scanOne first rest with
    | .error cause => .error cause
    | .ok (none, after) => scanWithin steps after
    | .ok (some token, after) =>
      match scanWithin steps after with
      | .ok tokens => .ok (token :: tokens)
      | .error cause => .error cause

/-- The tokens of a text. -/
def scan (chars : List Char) : Except SyntaxError (List Token) :=
  scanWithin chars.length chars

end ScatterGather.Sql.Token
