/-
**Reading tokens.**

* `Parser`: a reader of tokens that takes some from the front or says why it cannot;
* `attempt?`: reading that may fail without harm. A text nested too deeply fails for good;
* `many`, `commaSeparated`: repetition, bounded by the tokens at hand, since each round takes one;
* `nested`: a rule that contains itself, bounded by the tokens at hand;
* `Grammar`: the rules whose nesting is limited. A rule at one depth is built from those of the
  depth below, so the depth at which reading gives up is also what the recursion descends on;
* `statements`: the statements between semicolons.
-/
import ScatterGather.Sql.Keyword
import ScatterGather.Sql.Statement

namespace ScatterGather.Sql

/-- A reader of tokens. -/
abbrev Parser := StateT (List Token) (Except SyntaxError)

namespace Parser

/-! ### Single tokens -/

/-- Refusal of the next token. -/
def refuse {α : Type} : Parser α :=
  throw .unexpected

/-- The next token, which is taken. -/
def next : Parser Token := do
  match ← get with
  | [] => refuse
  | token :: rest =>
    set rest
    return token

/-- The next token, which stays. -/
def peek : Parser (Option Token) :=
  return (← get).head?

/-- The keyword at a distance; empty where no unquoted word stands there. -/
def keywordAt (distance : Nat) : Parser String := do
  match (← get)[distance]? with
  | some (.word _ keyword) => return keyword
  | _ => return ""

/-- Tells whether a symbol stands at a distance. -/
def symbolAt (distance : Nat) (mark : String) : Parser Bool :=
  return (← get)[distance]? == some (.symbol mark)

/-- Takes tokens from the front. -/
def skip (count : Nat) : Parser Unit :=
  modify fun tokens => tokens.drop count

/-- Takes a keyword if it comes next. -/
def keyword? (keyword : String) : Parser Bool := do
  if (← keywordAt 0) = keyword then
    skip 1
    return true
  else return false

/-- Takes several keywords in a row if all come next. -/
def keywords? (keywords : List String) : Parser Bool := do
  let found := (← get).take keywords.length |>.map fun token =>
    match token with
    | .word _ keyword => keyword
    | _ => ""
  if found = keywords then
    skip keywords.length
    return true
  else return false

/-- Takes one of several keywords if it comes next. -/
def oneOf? (keywords : List String) : Parser (Option String) := do
  let keyword ← keywordAt 0
  if keywords.contains keyword then
    skip 1
    return some keyword
  else return none

/-- Takes a keyword that has to come next. -/
def expectKeyword (keyword : String) : Parser Unit := do
  unless ← keyword? keyword do refuse

/-- Takes one of several keywords, one of which has to come next. -/
def expectOneOf (keywords : List String) : Parser String := do
  match ← oneOf? keywords with
  | some keyword => return keyword
  | none => refuse

/-- Takes a symbol if it comes next. -/
def symbol? (mark : String) : Parser Bool := do
  if ← symbolAt 0 mark then
    skip 1
    return true
  else return false

/-- Takes a symbol that has to come next. -/
def expectSymbol (mark : String) : Parser Unit := do
  unless ← symbol? mark do refuse

/-! ### Alternatives and repetition -/

/-- What a reader finds, or nothing and no token taken where it fails. A text nested too deeply
is no mere failure. -/
def attempt? {α : Type} (reader : Parser α) : Parser (Option α) := fun tokens =>
  match reader tokens with
  | .ok (found, rest) => .ok (some found, rest)
  | .error .tooDeep => .error .tooDeep
  | .error _ => .ok (none, tokens)

/-- A first reader, or a second from the same place where the first fails; if both fail, the
first one's reason holds. -/
def orElse {α : Type} (first second : Parser α) : Parser α := fun tokens =>
  match first tokens with
  | .ok found => .ok found
  | .error cause =>
    match second tokens with
    | .ok found => .ok found
    | .error _ => .error cause

/-- What the first of several readers finds that finds something. -/
def firstOf {α : Type} : List (Parser (Option α)) → Parser (Option α)
  | [] => return none
  | reader :: others => do
    match ← reader with
    | some found => return some found
    | none => firstOf others

/-- Takes what the first reader takes, or what the second does if the first takes nothing. -/
def either? (first second : Parser Bool) : Parser Bool := do
  if ← first then return true else second

/-- A reader for its form alone. -/
def passOver {α : Type} (reader : Parser α) : Parser Unit := do
  let _ ← reader

/-- Repeats a reader in at most `rounds` rounds until it finds nothing. -/
def manyWithin {α : Type} (reader : Parser (Option α)) : Nat → Parser (List α)
  | 0 => return []
  | rounds + 1 => do
    match ← reader with
    | none => return []
    | some found => return found :: (← manyWithin reader rounds)

/-- Repeats a reader, which takes a token whenever it finds something, until it finds nothing. -/
def many {α : Type} (reader : Parser (Option α)) : Parser (List α) := do
  manyWithin reader ((← get).length + 1)

/-- A rule that contains itself, down to some depth. -/
def nestedWithin {α : Type} (rule : Parser α → Parser α) : Nat → Parser α
  | 0 => refuse
  | depth + 1 => fun tokens => rule (nestedWithin rule depth) tokens

/-- A rule that contains itself. Each time it does it takes a token, so the tokens at hand bound how
often. -/
def nested {α : Type} (rule : Parser α → Parser α) : Parser α := do
  nestedWithin rule ((← get).length + 1)

/-- One or more items with commas between them. -/
def commaSeparated {α : Type} (item : Parser α) : Parser (List α) := do
  let first ← item
  let rest ← many do
    if ← symbol? "," then return some (← item) else return none
  return first :: rest

/-- An item in parentheses. -/
def inParens {α : Type} (item : Parser α) : Parser α := do
  expectSymbol "("
  let found ← item
  expectSymbol ")"
  return found

/-- No items before a closing symbol, or one or more with commas between them. -/
def commaSeparatedUpto {α : Type} (closing : String) (item : Parser α) : Parser (List α) := do
  if ← symbolAt 0 closing then return [] else commaSeparated item

/-- What a reader finds behind some keywords, if they come next. -/
def after? {α : Type} (keywords : List String) (reader : Parser α) : Parser (Option α) := do
  if ← keywords? keywords then return some (← reader) else return none

/-! ### Names -/

/-- A name: a word, or a string literal in its place. -/
def ident : Parser Ident := do
  match ← next with
  | .word ident _ => return ident
  | .string quote text => return ⟨text, some quote⟩
  | _ => refuse

/-- A name of several parts with points between them. -/
def path : Parser (List Ident) := do
  let first ← ident
  let rest ← many do
    if ← symbol? "." then return some (← ident) else return none
  return first :: rest

/-- Names in parentheses. -/
def identList : Parser (List Ident) :=
  inParens (commaSeparated ident)

/-- Names in parentheses, which may be left out. -/
def identList? : Parser (List Ident) := do
  if ← symbolAt 0 "(" then identList else return []

/-- A text in single quotes. -/
def singleQuoted : Parser String := do
  match ← next with
  | .string quote text => if quote = singleQuote then return text else refuse
  | _ => refuse

/-- A string, or a plain word in its place. -/
def stringOrWord : Parser String := do
  match ← next with
  | .word ident keyword => if Keyword.isPlain keyword then return ident.name else refuse
  | .string _ text => return text
  | _ => refuse

/-- A number of 64 bits without sign, point and exponent. -/
def whole : Parser Nat := do
  match ← next with
  | .number digits _ =>
    match digits.toNat? with
    | some value => if value < 0x10000000000000000 then return value else refuse
    | none => refuse
  | _ => refuse

/-- An alias for a column or a table. Without `AS`, the reserved words are none. -/
def alias? (reserved : List String) : Parser (Option Ident) := do
  let explicit ← keyword? "AS"
  match ← peek with
  | some (.word ident keyword) =>
    if explicit || !reserved.contains keyword then
      skip 1
      return some ident
    else return none
  | some (.string quote text) =>
    skip 1
    return some ⟨text, some quote⟩
  | _ => if explicit then refuse else return none

end Parser

/-! ### Rules of limited depth -/

/-- The rules whose nesting is limited, at some depth. -/
structure Grammar where
  /-- An expression of operators that bind tighter than the given strength. -/
  exprAbove : Nat → Parser Expr
  query : Parser Query
  statement : Parser Statement

/-- A whole expression. -/
def Grammar.expr (grammar : Grammar) : Parser Expr :=
  grammar.exprAbove 0

/-- The rules where nothing may nest any more. -/
def Grammar.bottom : Grammar where
  exprAbove _ := throw .tooDeep
  query := throw .tooDeep
  statement := throw .tooDeep

namespace Parser

/-- The statements from here on in at most `rounds` rounds; `ended` tells whether a semicolon or
the start of the text stands before them. A statement may also be followed by `END`, which ends
them all. -/
def statementsWithin (grammar : Grammar) : Nat → Bool → Parser (List Statement)
  | 0, _ => return []
  | rounds + 1, ended => do
    let separators ← many do
      if ← symbol? ";" then return some () else return none
    let ended := ended || !separators.isEmpty
    match ← peek with
    | none => return []
    | some token =>
      if ended then
        let statement ← grammar.statement
        return statement :: (← statementsWithin grammar rounds false)
      else
        match token with
        | .word _ "END" => return []
        | _ => refuse

/-- The statements from here on, with semicolons between them. -/
def statements (grammar : Grammar) : Parser (List Statement) := do
  statementsWithin grammar ((← get).length + 1) true

end Parser

end ScatterGather.Sql
