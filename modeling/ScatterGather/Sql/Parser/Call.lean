/-
**Reading calls of functions.**

* `Parser.selected`: an expression or a star, alone or behind the name of a table;
* `Parser.orderItem`: an expression to order by;
* `Parser.arguments`: the arguments of a function with the clauses behind them;
* `Parser.window`: the window that a function looks at;
* `Parser.call`: all that follows the name of a function.
-/
import ScatterGather.Sql.Parser.Literal

namespace ScatterGather.Sql.Parser

/-! ### Stars -/

/-- A word or a text in single quotes, where names of several parts have one. -/
def part : Parser Ident := do
  match ← next with
  | .word ident _ => return ident
  | .string quote text => if quote = singleQuote then return ⟨text, some quote⟩ else refuse
  | _ => refuse

/-- The names before a star, whose first one has been read, and the star; nothing where there is no
star behind them. -/
def qualifiedStar? (first : Ident) : Parser (Option String) := do
  let rest ← many do
    if (← symbolAt 0 ".") && !(← symbolAt 1 "*") then
      skip 1
      return some (← part)
    else return none
  if ← symbol? "." then
    expectSymbol "*"
    return some (pathText (first :: rest) ++ ".*")
  else return none

/-- A star, alone or behind the name of a table, where one stands. -/
def star? : Parser (Option String) := do
  if ← symbol? "*" then return some "*"
  else if ← symbolAt 1 "." then
    let start ← get
    match ← attempt? part with
    | none => return none
    | some first =>
      match ← qualifiedStar? first with
      | some text => return some text
      | none =>
        set start
        return none
  else return none

/-- What may be selected: an expression or a star. A star comes with its text alone. -/
def selected (grammar : Grammar) : Parser (String × Option Expr) := do
  match ← star? with
  | some text => return (text, none)
  | none =>
    let expr ← grammar.expr
    return (expr.text, some expr)

/-! ### Lists of expressions -/

/-- Expressions with commas between them, in their canonical spellings. -/
def exprTexts (grammar : Grammar) : Parser (List String) := do
  return (← commaSeparated grammar.expr).map Expr.text

/-- An expression in parentheses, in its canonical spelling. -/
def exprInParens (grammar : Grammar) : Parser String := do
  return "(" ++ (← inParens grammar.expr).text ++ ")"

/-- Expressions in parentheses, in their canonical spelling. -/
def exprsInParens (grammar : Grammar) : Parser String := do
  return "(" ++ commaJoined (← inParens (exprTexts grammar)) ++ ")"

/-- An expression to order by, with its direction. -/
def orderItem (grammar : Grammar) : Parser OrderItem := do
  let expr ← grammar.expr
  let ascending := (← oneOf? ["ASC", "DESC"]).map fun word => word == "ASC"
  let nullsFirst ← do
    if ← keywords? ["NULLS", "FIRST"] then pure (some true)
    else if ← keywords? ["NULLS", "LAST"] then pure (some false)
    else pure none
  return { expr, ascending, nullsFirst }

/-- Expressions to order by, as one clause. Its keywords have been read. -/
def orderItems (grammar : Grammar) : Parser String := do
  let items ← commaSeparated (orderItem grammar)
  return "ORDER BY " ++ commaJoined (items.map OrderItem.text)

/-- Expressions to order by, behind their keywords, as one clause. -/
def orderClause? (grammar : Grammar) : Parser (Option String) :=
  after? ["ORDER", "BY"] (orderItems grammar)

/-! ### Arguments -/

/-- The name before an argument, with the mark between them. -/
def argumentName : Parser String := do
  let name ← ident
  if ← keyword? "VALUE" then return name.text ++ " VALUE "
  else
    expectSymbol "=>"
    return name.text ++ " => "

/-- An argument of a function: an expression or a star, alone or behind a name. -/
def argument (grammar : Grammar) : Parser String := do
  let named := (← symbolAt 1 "=>") || (← keywordAt 1) == "VALUE"
  let found ← if named then
      attempt? do return (← argumentName) ++ (← selected grammar).1
    else pure none
  match found with
  | some text => return text
  | none => return (← selected grammar).1

/-- How repeated arguments count. -/
def duplicates? : Parser (Option String) := do
  let all ← keyword? "ALL"
  let distinct ← keyword? "DISTINCT"
  match all, distinct with
  | true, true => refuse
  | true, false => return some "ALL "
  | false, true => return some "DISTINCT "
  | false, false => return none

/-- What becomes of NULL in a document, where it is written. -/
def absence? : Parser (Option String) :=
  firstOf <| [["ABSENT", "ON", "NULL"], ["NULL", "ON", "NULL"]].map fun words =>
    after? words (pure (joined " " words))

/-- What is left of a list that grows too long, behind its keywords. -/
def overflow (grammar : Grammar) : Parser String := do
  if ← keyword? "ERROR" then return "ON OVERFLOW ERROR"
  else
    expectKeyword "TRUNCATE"
    let filler ← do
      match ← peek with
      | some (.word _ "WITH") | some (.word _ "WITHOUT") => pure ""
      | some (.string quote _) =>
        if quote = singleQuote then pure (" " ++ (← grammar.expr).text) else refuse
      | some (.marked mark quote _) =>
        if mark ≠ 'B' ∧ quote = singleQuote then pure (" " ++ (← grammar.expr).text) else refuse
      | _ => refuse
    let count ← expectOneOf ["WITH", "WITHOUT"]
    expectKeyword "COUNT"
    return "ON OVERFLOW TRUNCATE" ++ filler ++ " " ++ count ++ " COUNT"

/-- The arguments of a function and the closing parenthesis. -/
def arguments (grammar : Grammar) : Parser String := do
  let absence ← absence?
  if ← symbol? ")" then return "(" ++ absence.getD "" ++ ")"
  let duplicates ← duplicates?
  let found ← commaSeparated (argument grammar)
  let order ← orderClause? grammar
  let limit ← after? ["LIMIT"] do return "LIMIT " ++ (← grammar.expr).text
  let separator ← after? ["SEPARATOR"] do return "SEPARATOR " ++ (← literalText)
  let overflow ← after? ["ON", "OVERFLOW"] (overflow grammar)
  let lastAbsence ← absence?
  expectSymbol ")"
  let clauses := absence.toList ++ order.toList ++ limit.toList ++ separator.toList ++
    overflow.toList ++ lastAbsence.toList
  return "(" ++ duplicates.getD "" ++ joined " " (commaJoined found :: clauses) ++ ")"

/-! ### Spans of time -/

/-- The precision of seconds, with that of their fractions, where they are written. -/
def secondsPrecision : Parser String := do
  if ← symbolAt 0 "(" then inParens do
    let digits ← whole
    if ← symbol? "," then
      let fraction ← whole
      return s!" ({digits}, {fraction})"
    else return s!" ({digits})"
  else return ""

/-- The precision of a unit of time, where it is written. -/
def unitPrecision : Parser String := do
  if ← symbolAt 0 "(" then
    let digits ← inParens whole
    return s!" ({digits})"
  else return ""

/-- The last unit of a span, with the precision of its seconds. -/
def lastUnit : Parser String := do
  let unit ← timeUnit
  if unit == "SECOND" then return " TO SECOND" ++ (← unitPrecision) else return " TO " ++ unit

/-- A unit of time and the last unit of a span, with their precisions. -/
def spanUnits : Parser String := do
  let unit ← spanUnit
  if unit == "SECOND" then return unit ++ (← secondsPrecision)
  else
    let precision ← unitPrecision
    return unit ++ precision ++ ((← after? ["TO"] lastUnit).getD "")

/-- A span of time behind its keyword: any expression and a unit. -/
def interval (grammar : Grammar) : Parser Expr := do
  let value ← grammar.expr
  return .phrase ("INTERVAL " ++ value.text ++ " " ++ (← spanUnits))

/-! ### Windows -/

/-- An end of a window frame. -/
def frameBound (grammar : Grammar) : Parser String := do
  if ← keywords? ["CURRENT", "ROW"] then return "CURRENT ROW"
  let distance ← do
    if ← keyword? "UNBOUNDED" then pure "UNBOUNDED"
    else
      match ← peek with
      | some (.string quote _) =>
        if quote = singleQuote then pure (← interval grammar).text
        else pure (← grammar.expr).text
      | _ => pure (← grammar.expr).text
  return distance ++ " " ++ (← expectOneOf ["PRECEDING", "FOLLOWING"])

/-- The frame of a window, where one is written. -/
def frame? (grammar : Grammar) : Parser (Option String) := do
  match ← oneOf? ["ROWS", "RANGE", "GROUPS"] with
  | none => return none
  | some unit =>
    if ← keyword? "BETWEEN" then
      let first ← frameBound grammar
      expectKeyword "AND"
      return some (unit ++ " BETWEEN " ++ first ++ " AND " ++ (← frameBound grammar))
    else return some (unit ++ " " ++ (← frameBound grammar))

/-- A window in parentheses. -/
def window (grammar : Grammar) : Parser String := inParens do
  let name ← do
    match ← peek with
    | some (.word ident keyword) =>
      if Keyword.isPlain keyword then
        skip 1
        pure [ident.text]
      else pure []
    | _ => pure []
  let partition ← after? ["PARTITION", "BY"] do
    return "PARTITION BY " ++ commaJoined (← exprTexts grammar)
  let order ← orderClause? grammar
  let frame ← frame? grammar
  return "(" ++ joined " " (name ++ partition.toList ++ order.toList ++ frame.toList) ++ ")"

/-! ### Calls -/

/-- What follows the name of a function: its arguments, the order within a group, the treatment of
NULL and the window. -/
def callTail (grammar : Grammar) : Parser String := do
  expectSymbol "("
  let args ← arguments grammar
  let group ← after? ["WITHIN", "GROUP"] do
    let order ← inParens do
      expectKeyword "ORDER"
      expectKeyword "BY"
      orderItems grammar
    return " WITHIN GROUP (" ++ order ++ ")"
  let nulls ← do
    match ← oneOf? ["RESPECT", "IGNORE"] with
    | some word =>
      expectKeyword "NULLS"
      pure (" " ++ word ++ " NULLS")
    | none => pure ""
  let frame ← after? ["OVER"] do
    if ← symbolAt 0 "(" then return " OVER " ++ (← window grammar)
    else return " OVER " ++ (← ident).text
  return args ++ group.getD "" ++ nulls ++ frame.getD ""

/-- The call of a function whose name has been read. -/
def call (grammar : Grammar) (name : String) : Parser Expr := do
  return .phrase (name ++ (← callTail grammar))

end ScatterGather.Sql.Parser
