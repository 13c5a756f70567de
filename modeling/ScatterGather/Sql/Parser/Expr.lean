/-
**Reading expressions.**

* `Parser.operand`: an expression without infix operators;
* `Parser.infixed`: an infix operator and what stands behind it, taken together with the
  expression before it;
* `Parser.exprAbove`: operands and the operators between them, the tighter ones first and those
  of one strength from left to right.
-/
import ScatterGather.Sql.Parser.Call
import ScatterGather.Sql.Parser.DataType

namespace ScatterGather.Sql

namespace Strength

/-! ### Binding strength -/

/-- The strength of `NOT` before an expression. -/
def negation : Nat := 15

/-- The strength of `LIKE` and its kin. -/
def likeness : Nat := 19

/-- The strength of `IN` and `BETWEEN`. -/
def membership : Nat := 20

/-- The strength of a sign, which is that of multiplication. -/
def sign : Nat := 40

/-- The strength of an operator that is a word. -/
def ofKeyword (keyword following afterNext : String) : Nat :=
  match keyword with
  | "OR" => 5
  | "AND" => 10
  | "IS" => 17
  | "LIKE" | "ILIKE" | "RLIKE" | "REGEXP" | "SIMILAR" => likeness
  | "IN" | "BETWEEN" | "OPERATOR" => membership
  | "XOR" => 24
  | "DIV" => 40
  | "AT" => if following = "TIME" ∧ afterNext = "ZONE" then 41 else 0
  | "NOT" =>
    match following with
    | "IN" | "BETWEEN" => membership
    | "LIKE" | "ILIKE" | "RLIKE" | "REGEXP" | "SIMILAR" => likeness
    | _ => 0
  | _ => 0

/-- The strength of an operator that is a symbol. -/
def ofSymbol (mark : String) : Nat :=
  match mark with
  | "->" | "->>" | "@>" | "<@" | "@?" | "@@" => 16
  | "=" | "==" | "<" | "<=" | "<>" | "!=" | ">" | ">=" | "<=>" | "~" | "~*" | "!~" | "!~*" |
    "~~" | "~~*" | "!~~" | "!~~*" => 20
  | "|" => 21
  | "^" | "<<" | ">>" => 22
  | "&" => 23
  | "+" | "-" => 30
  | "*" | "/" | "%" | "||" => 40
  | "::" | "!" | "[" | "&&" | "^@" => 50
  | _ => 0

end Strength

namespace Parser

/-- The strength of the infix operator that comes next; zero where none does. -/
def strengthNext : Parser Nat := do
  match ← peek with
  | some (.word _ keyword) => return Strength.ofKeyword keyword (← keywordAt 1) (← keywordAt 2)
  | some (.symbol mark) => return Strength.ofSymbol mark
  | _ => return 0

/-! ### Literals behind types -/

/-- A literal behind the name of its type, which may not be a name of its own. -/
def typedLiteral : Parser Expr := do
  let type ← dataType
  if type.custom then refuse
  else return .phrase (type.spelling ++ " " ++ Quoted.write singleQuote (← stringOrWord))

/-! ### Words with a construct of their own -/

/-- A choice between cases, behind its keyword. -/
def caseExpr (grammar : Grammar) : Parser Expr := do
  let operand ← do
    if ← keyword? "WHEN" then pure ""
    else
      let expr ← grammar.expr
      expectKeyword "WHEN"
      pure (" " ++ expr.text)
  let branch : Parser String := do
    let condition ← grammar.expr
    expectKeyword "THEN"
    return " WHEN " ++ condition.text ++ " THEN " ++ (← grammar.expr).text
  let first ← branch
  let rest ← many (after? ["WHEN"] branch)
  let otherwise ← after? ["ELSE"] do return " ELSE " ++ (← grammar.expr).text
  expectKeyword "END"
  return .phrase ("CASE" ++ operand ++ first ++ String.join rest ++ otherwise.getD "" ++ " END")

/-- A query in parentheses. -/
def subquery (grammar : Grammar) : Parser String := do
  return "(" ++ (← inParens grammar.query).text ++ ")"

/-- A test for rows, behind its keyword. -/
def existsExpr (grammar : Grammar) (negated : Bool) : Parser Expr := do
  return .phrase (notIf negated ++ "EXISTS " ++ (← subquery grammar))

/-- A negation, behind its keyword. -/
def notExpr (grammar : Grammar) : Parser Expr := do
  if ← keyword? "EXISTS" then existsExpr grammar true
  else return .unary .not (← grammar.exprAbove Strength.negation)

/-- The format of a conversion, behind its keyword. -/
def castFormat : Parser String := do
  let format ← literalText
  let zone ← after? ["AT", "TIME", "ZONE"] literalText
  return " FORMAT " ++ joined " AT TIME ZONE " (format :: zone.toList)

/-- A conversion to a type, behind its keyword. -/
def castExpr (grammar : Grammar) (keyword : String) : Parser Expr := inParens do
  let value ← grammar.expr
  expectKeyword "AS"
  let type ← typeText
  let format ← after? ["FORMAT"] castFormat
  return .phrase (keyword ++ "(" ++ value.text ++ " AS " ++ type ++ format.getD "" ++ ")")

/-- A conversion to a type or a character set, behind its keyword. -/
def convertExpr (grammar : Grammar) : Parser Expr := inParens do
  let value ← grammar.expr
  if ← keyword? "USING" then
    return .phrase ("CONVERT(" ++ value.text ++ " USING " ++ pathText (← path) ++ ")")
  else
    expectSymbol ","
    let target ← typeText
    let charset ← after? ["CHARACTER", "SET"] do return " CHARACTER SET " ++ pathText (← path)
    return .phrase ("CONVERT(" ++ value.text ++ ", " ++ target ++ charset.getD "" ++ ")")

/-- A part of a date, behind its keyword. -/
def extractExpr (grammar : Grammar) : Parser Expr := inParens do
  let unit ← timeUnit
  expectKeyword "FROM"
  return .phrase ("EXTRACT(" ++ unit ++ " FROM " ++ (← grammar.expr).text ++ ")")

/-- A rounding up or down, behind its keyword. -/
def roundExpr (grammar : Grammar) (name : String) : Parser Expr := inParens do
  let value ← grammar.expr
  if ← keyword? "TO" then
    return .phrase (name ++ "(" ++ value.text ++ " TO " ++ (← timeUnit) ++ ")")
  else if ← symbol? "," then
    match ← literal with
    | .number digits long =>
      return .phrase (name ++ "(" ++ value.text ++ ", " ++ (Literal.number digits long).text ++ ")")
    | _ => refuse
  else return .phrase (name ++ "(" ++ value.text ++ ")")

/-- A search for a text in another, behind its keyword. -/
def positionExpr (grammar : Grammar) (name : Ident) : Parser Expr := do
  let search ← attempt? <| inParens do
    let sought ← grammar.exprAbove Strength.membership
    expectKeyword "IN"
    return Expr.phrase ("POSITION(" ++ sought.text ++ " IN " ++ (← grammar.expr).text ++ ")")
  match search with
  | some found => return found
  | none => call grammar name.text

/-- A part of a text, behind its keyword. -/
def substringExpr (grammar : Grammar) : Parser Expr := inParens do
  let value ← grammar.expr
  let listed ← symbol? ","
  let start ← do
    if listed then pure (", " ++ (← grammar.expr).text)
    else if ← keyword? "FROM" then pure (" FROM " ++ (← grammar.expr).text)
    else pure ""
  let size ← do
    if ← either? (keyword? "FOR") (symbol? ",") then
      pure ((if listed then ", " else " FOR ") ++ (← grammar.expr).text)
    else pure ""
  return .phrase ("SUBSTRING(" ++ value.text ++ start ++ size ++ ")")

/-- A text with a part of it replaced, behind its keyword. -/
def overlayExpr (grammar : Grammar) : Parser Expr := inParens do
  let value ← grammar.expr
  expectKeyword "PLACING"
  let replacement ← grammar.expr
  expectKeyword "FROM"
  let start ← grammar.expr
  let size ← after? ["FOR"] do return " FOR " ++ (← grammar.expr).text
  return .phrase ("OVERLAY(" ++ value.text ++ " PLACING " ++ replacement.text ++ " FROM " ++
    start.text ++ size.getD "" ++ ")")

/-- A text without what surrounds it, behind its keyword. A comma behind it is passed over. -/
def trimExpr (grammar : Grammar) : Parser Expr := inParens do
  let side := match ← oneOf? ["BOTH", "LEADING", "TRAILING"] with
    | some side => side ++ " "
    | none => ""
  let value ← grammar.expr
  if ← keyword? "FROM" then
    return .phrase ("TRIM(" ++ side ++ value.text ++ " FROM " ++ (← grammar.expr).text ++ ")")
  else
    passOver (symbol? ",")
    return .phrase ("TRIM(" ++ side ++ value.text ++ ")")

/-- The ways to search for words in a text, the longer before those that begin it. -/
def searchModes : List (List String) :=
  [["IN", "NATURAL", "LANGUAGE", "MODE", "WITH", "QUERY", "EXPANSION"],
   ["IN", "NATURAL", "LANGUAGE", "MODE"],
   ["IN", "BOOLEAN", "MODE"],
   ["WITH", "QUERY", "EXPANSION"]]

/-- A search for words in columns, behind its keyword. -/
def matchExpr : Parser Expr := do
  let columns ← identList
  expectKeyword "AGAINST"
  inParens do
    let words ← literal
    let mode ← firstOf <| searchModes.map fun mode =>
      after? mode do return " " ++ joined " " mode
    return .phrase ("MATCH (" ++ commaJoined (columns.map Ident.text) ++ ") AGAINST (" ++
      words.text ++ mode.getD "" ++ ")")

/-- The members of an array and the closing bracket. -/
def arrayMembers (grammar : Grammar) : Parser String := do
  let members ← commaSeparatedUpto "]" grammar.expr
  expectSymbol "]"
  return "[" ++ commaJoined (members.map Expr.text) ++ "]"

/-- An array of members or of the rows of a query, behind its keyword; nothing where none begins. -/
def arrayExpr? (grammar : Grammar) (name : Ident) : Parser (Option Expr) := do
  if ← symbol? "[" then return some (.phrase ("ARRAY" ++ (← arrayMembers grammar)))
  else if ← symbolAt 0 "(" then return some (.phrase (name.text ++ (← subquery grammar)))
  else return none

/-- The name of a function of time, with or without parentheses. -/
def timeFunction (grammar : Grammar) (name : Ident) : Parser Expr := do
  if ← symbol? "(" then return .phrase (name.text ++ (← arguments grammar))
  else return .phrase name.text

/-- The construct that a word begins, where it begins one. The word has been read. -/
def construct? (grammar : Grammar) (name : Ident) (keyword : String) : Parser (Option Expr) :=
  match keyword with
  | "TRUE" => return some (.literal (.boolean true))
  | "FALSE" => return some (.literal (.boolean false))
  | "NULL" => return some (.literal .null)
  | "CURRENT_TIMESTAMP" | "CURRENT_TIME" | "CURRENT_DATE" | "LOCALTIME" | "LOCALTIMESTAMP" =>
    some <$> timeFunction grammar name
  | "CASE" => some <$> caseExpr grammar
  | "CONVERT" => some <$> convertExpr grammar
  | "CAST" | "TRY_CAST" | "SAFE_CAST" => some <$> castExpr grammar keyword
  | "EXISTS" => some <$> existsExpr grammar false
  | "EXTRACT" => some <$> extractExpr grammar
  | "CEIL" | "FLOOR" => some <$> roundExpr grammar keyword
  | "POSITION" => do
    if ← symbolAt 0 "(" then some <$> positionExpr grammar name else return none
  | "SUBSTRING" => some <$> substringExpr grammar
  | "OVERLAY" => some <$> overlayExpr grammar
  | "TRIM" => some <$> trimExpr grammar
  | "ARRAY" => arrayExpr? grammar name
  | "INTERVAL" => some <$> interval grammar
  | "MATCH" => some <$> matchExpr
  | "NOT" => some <$> notExpr grammar
  | _ => return none

/-! ### Operands -/

/-- A column, a function call or a string behind the name of its character set. The first word
has been read. -/
def named (grammar : Grammar) (name : Ident) : Parser Expr := do
  match ← peek with
  | some (.symbol "(") | some (.symbol ".") =>
    let rest ← many do
      if ← symbol? "." then return some (← part) else return none
    if ← symbolAt 0 "(" then call grammar (pathText (name :: rest))
    else return .column (name :: rest)
  | some (.string quote text) =>
    if name.name.startsWith "_" then
      skip 1
      return .phrase (name.name ++ " " ++ Quoted.write quote text)
    else return .column [name]
  | some (.marked 'X' quote text) =>
    if name.name.startsWith "_" then
      skip 1
      return .phrase (name.name ++ " " ++ markedText 'X' quote text)
    else return .column [name]
  | _ => return .column [name]

/-- A collation behind an expression, where one is written. -/
def collated (expr : Expr) : Parser Expr := do
  match ← after? ["COLLATE"] path with
  | some collation => return .phrase (expr.text ++ " COLLATE " ++ pathText collation)
  | none => return expr

/-- What a word begins: its construct, if it has one, or a name. Where a construct fails, most
words may still be names, which then take no collation. -/
def worded (grammar : Grammar) (name : Ident) (keyword : String) : Parser Expr := fun tokens =>
  match construct? grammar name keyword tokens with
  | .ok (some expr, rest) => collated expr rest
  | .ok (none, rest) => (named grammar name >>= collated) rest
  | .error cause =>
    if Keyword.neverName.contains keyword then .error cause
    else
      match named grammar name tokens with
      | .ok found => .ok found
      | .error _ => .error cause

/-- A query, an expression or several expressions in parentheses, or a field of what stands in
them. The opening parenthesis has been read. -/
def parenthesized (grammar : Grammar) : Parser Expr := do
  let inner ← do
    if ["SELECT", "WITH"].contains (← keywordAt 0) then
      pure (Expr.subquery ("(" ++ (← grammar.query).text ++ ")"))
    else
      match ← commaSeparated grammar.expr with
      | [expr] => pure (Expr.nested expr)
      | exprs => pure (Expr.phrase ("(" ++ commaJoined (exprs.map Expr.text) ++ ")"))
  expectSymbol ")"
  if ← symbol? "." then
    match ← next with
    | .word key _ => return .phrase (inner.text ++ "." ++ key.text)
    | _ => refuse
  else return inner

/-- A function call in braces. The opening brace has been read. -/
def bracedCall (grammar : Grammar) : Parser Expr := do
  expectKeyword "FN"
  let name ← path
  let called ← call grammar (pathText name)
  expectSymbol "\x7d"
  return .phrase ("\x7bfn " ++ called.text ++ "\x7d")

/-- What stands before infix operators and is no word. -/
def unworded (grammar : Grammar) : Parser Expr := do
  match ← peek with
  | some (.symbol "-") =>
    skip 1
    return .unary .minus (← grammar.exprAbove Strength.sign)
  | some (.symbol "+") =>
    skip 1
    return .unary .plus (← grammar.exprAbove Strength.sign)
  | some (.symbol "(") =>
    skip 1
    parenthesized grammar
  | some (.symbol "[") =>
    skip 1
    return .phrase (← arrayMembers grammar)
  | some (.symbol "\x7b") =>
    skip 1
    bracedCall grammar
  | some (.escaped _) => refuse
  | _ => return .literal (← literal)

/-- An expression without infix operators. A literal behind its type, and a span of time, take no
collation. -/
def operand (grammar : Grammar) : Parser Expr := do
  match ← peek with
  | some (.word name keyword) =>
    if keyword == "INTERVAL" && !(← symbolAt 1 "[") then
      skip 1
      return ← interval grammar
    match ← attempt? typedLiteral with
    | some expr => return expr
    | none =>
      skip 1
      worded grammar name keyword
  | _ => collated (← unworded grammar)

/-! ### Infix operators -/

/-- The operators whose right side may be quantified. -/
def comparisons : List String :=
  ["=", "==", "<", "<=", "<>", "!=", ">", ">="]

/-- The operators between two expressions that are spelled as they are written. -/
def plainOperators : List String :=
  ["<", "<=", ">", ">=", "<=>", "+", "-", "*", "/", "%", "||", "|", "^", "&", "->", "->>", "@>",
   "<@", "@?", "@@", "~", "~*", "!~", "!~*", "~~", "~~*", "!~~", "!~~*"]

/-- The operator that a symbol is between two expressions. -/
def binaryOf? (mark : String) : Option BinaryOp :=
  match mark with
  | "=" | "==" => some .eq
  | "!=" | "<>" => some (.other "<>")
  | _ => if plainOperators.contains mark then some (.other mark) else none

/-- The right side of a quantified comparison, behind the quantifier. A query has parentheses of its
own. -/
def quantified (grammar : Grammar) (strength : Nat) : Parser String := do
  let right ← do
    if ["SELECT", "WITH"].contains (← keywordAt 1) && (← symbolAt 0 "(") then
      grammar.exprAbove strength
    else inParens (grammar.exprAbove strength)
  match right with
  | .subquery spelling => return spelling
  | right => return "(" ++ right.text ++ ")"

/-- The right side of an operator, and the expression that it makes. -/
def binaryWith (grammar : Grammar) (left : Expr) (op : BinaryOp) (comparison : Bool)
    (strength : Nat) : Parser Expr := do
  match ← oneOf? ["ANY", "ALL", "SOME"] with
  | some quantifier =>
    let right ← quantified grammar strength
    if comparison then
      return .phrase (left.text ++ " " ++ op.text ++ " " ++ quantifier ++ right)
    else refuse
  | none => return .binary left op (← grammar.exprAbove strength)

/-- The keys behind a value, each in brackets. -/
def keys (grammar : Grammar) : Parser (List String) :=
  many do
    if ← symbol? "[" then
      let key ← grammar.expr
      expectSymbol "]"
      return some ("[" ++ key.text ++ "]")
    else return none

/-- What `IS` tests for. -/
def isTest (grammar : Grammar) (left : Expr) : Parser Expr := do
  let negated ← keyword? "NOT"
  match ← oneOf? ["NULL", "TRUE", "FALSE", "UNKNOWN", "DISTINCT"] with
  | some "DISTINCT" =>
    expectKeyword "FROM"
    let right ← grammar.expr
    return .phrase (left.text ++ " IS " ++ notIf negated ++ "DISTINCT FROM " ++ right.text)
  | some word => return .phrase (left.text ++ " IS " ++ notIf negated ++ word)
  | none => refuse

/-- A pattern behind its keyword, with the character that escapes in it. -/
def likeTest (grammar : Grammar) (left : Expr) (negated : Bool) (word : String) :
    Parser Expr := do
  let any ← if word == "SIMILAR TO" then pure false else keyword? "ANY"
  let pattern ← grammar.exprAbove Strength.likeness
  let escape ← after? ["ESCAPE"] do
    let quote := String.singleton singleQuote
    return " ESCAPE " ++ quote ++ (← stringOrWord) ++ quote
  return .phrase (left.text ++ " " ++ notIf negated ++ word ++ (if any then " ANY " else " ") ++
    pattern.text ++ escape.getD "")

/-- A test of membership, likeness or order behind an optional `NOT`. -/
def negatableTest (grammar : Grammar) (left : Expr) : Parser Expr := do
  let negated ← keyword? "NOT"
  match ← oneOf? ["REGEXP", "RLIKE", "IN", "BETWEEN", "LIKE", "ILIKE", "SIMILAR"] with
  | some "IN" =>
    if ← keyword? "UNNEST" then
      return .phrase (left.text ++ " " ++ notIf negated ++ "IN UNNEST" ++ (← exprInParens grammar))
    expectSymbol "("
    if ["SELECT", "WITH"].contains (← keywordAt 0) then
      let query ← grammar.query
      expectSymbol ")"
      return .phrase (left.text ++ " " ++ notIf negated ++ "IN (" ++ query.text ++ ")")
    else
      let candidates ← commaSeparated grammar.expr
      expectSymbol ")"
      return .inList left candidates negated
  | some "BETWEEN" =>
    let low ← grammar.exprAbove Strength.membership
    expectKeyword "AND"
    let high ← grammar.exprAbove Strength.membership
    return .phrase (left.text ++ " " ++ notIf negated ++ "BETWEEN " ++ low.text ++ " AND " ++
      high.text)
  | some "SIMILAR" =>
    expectKeyword "TO"
    likeTest grammar left negated "SIMILAR TO"
  | some "LIKE" => likeTest grammar left negated "LIKE"
  | some "ILIKE" => likeTest grammar left negated "ILIKE"
  | some word =>
    if word == "REGEXP" then passOver (keyword? "RLIKE")
    let pattern ← grammar.exprAbove Strength.likeness
    return .phrase (left.text ++ " " ++ notIf negated ++ word ++ " " ++ pattern.text)
  | none => refuse

/-- An infix operator of a given strength and its right side, behind the expression on its left.
Whole division takes all that follows as its right side. -/
def infixed (grammar : Grammar) (left : Expr) (strength : Nat) : Parser Expr := do
  match ← peek with
  | some (.symbol "::") =>
    skip 1
    return .phrase (left.text ++ "::" ++ (← typeText))
  | some (.symbol "[") => return .phrase (left.text ++ String.join (← keys grammar))
  | some (.symbol mark) =>
    match binaryOf? mark with
    | some op =>
      skip 1
      binaryWith grammar left op (comparisons.contains mark) strength
    | none => refuse
  | some (.word _ "DIV") =>
    skip 1
    return .binary left (.other "DIV") (← grammar.expr)
  | some (.word _ "AND") =>
    skip 1
    binaryWith grammar left .and false strength
  | some (.word _ "OR") =>
    skip 1
    binaryWith grammar left .or false strength
  | some (.word _ "XOR") =>
    skip 1
    binaryWith grammar left (.other "XOR") false strength
  | some (.word _ "IS") =>
    skip 1
    isTest grammar left
  | some (.word _ "AT") =>
    skip 3
    return .phrase (left.text ++ " AT TIME ZONE " ++ (← grammar.exprAbove strength).text)
  | _ => negatableTest grammar left

/-- Adds infix operators that bind tighter than `floor` to an expression, in at most `rounds`
rounds. -/
def climb (grammar : Grammar) (floor : Nat) : Nat → Expr → Parser Expr
  | 0, left => return left
  | rounds + 1, left => do
    let strength ← strengthNext
    if strength ≤ floor then return left
    else climb grammar floor rounds (← infixed grammar left strength)

/-- An expression of operators that bind tighter than `floor`, with the rules one level deeper. -/
def exprAbove (grammar : Grammar) (floor : Nat) : Parser Expr := do
  let left ← operand grammar
  climb grammar floor ((← get).length + 1) left

end Parser

end ScatterGather.Sql
