/-
**Reading selections.**

* `Parser.selectItem`: a selected expression or star;
* `Parser.selection`: a selection from `SELECT` to its last clause.
-/
import ScatterGather.Text.Case
import ScatterGather.Sql.Parser.Relation

namespace ScatterGather.Sql.Parser

/-! ### Selected expressions -/

/-- A selected expression with its alias, or a star. The bare name `from` is no expression here. -/
def selectItem (grammar : Grammar) : Parser String := do
  match ← selected grammar with
  | (text, none) => return text
  | (text, some expr) =>
    if let .column [⟨name, none⟩] := expr then
      if Text.sameIgnoringCase name "from" then refuse
    match ← alias? Keyword.notColumnAlias with
    | some byname => return text ++ " AS " ++ byname.text
    | none => return text

/-- Selected expressions in their canonical spelling. -/
def selectItems (grammar : Grammar) : Parser String := do
  return commaJoined (← commaSeparated (selectItem grammar))

/-! ### How many rows -/

/-- Whether repeated rows are dropped, and by which expressions. -/
def distinct (grammar : Grammar) : Parser (List String) := do
  let all ← keyword? "ALL"
  if ← keyword? "DISTINCT" then
    if all then refuse
    else if ← keyword? "ON" then
      let exprs ← inParens (commaSeparatedUpto ")" grammar.expr)
      return ["DISTINCT ON (" ++ commaJoined (exprs.map Expr.text) ++ ")"]
    else return ["DISTINCT"]
  else return []

/-- The first rows that are kept, behind the keyword. -/
def top (grammar : Grammar) : Parser String := do
  let count ← if ← symbolAt 0 "(" then exprInParens grammar else toString <$> whole
  let percent ← if ← keyword? "PERCENT" then pure " PERCENT" else pure ""
  let ties ← if ← keywords? ["WITH", "TIES"] then pure " WITH TIES" else pure ""
  return "TOP " ++ count ++ percent ++ ties

/-! ### Clauses -/

/-- Where selected rows are put. -/
def destination : Parser String := do
  let temporary := match ← oneOf? ["TEMP", "TEMPORARY"] with
    | some _ => "TEMPORARY "
    | none => ""
  let unlogged ← if ← keyword? "UNLOGGED" then pure "UNLOGGED " else pure ""
  let table ← if ← keyword? "TABLE" then pure "TABLE " else pure ""
  return "INTO " ++ temporary ++ unlogged ++ table ++ pathText (← path)

/-- A view of the members of each row, behind its keywords. -/
def lateralView (grammar : Grammar) : Parser String := do
  let outer ← if ← keyword? "OUTER" then pure "OUTER " else pure ""
  let expr ← grammar.expr
  let name ← path
  let columns ← commaSeparated (alias? ["WHERE", "GROUP", "CLUSTER", "HAVING", "LATERAL"])
  let names := columns.filterMap fun column => column.map Ident.text
  return "LATERAL VIEW " ++ outer ++ expr.text ++ " " ++ pathText name ++
    (if names.isEmpty then "" else " AS " ++ commaJoined names)

/-- A window with its name. -/
def namedWindow (grammar : Grammar) : Parser String := do
  let name ← ident
  expectKeyword "AS"
  return name.text ++ " AS " ++ (← window grammar)

/-- Windows with their names, behind the keyword. -/
def namedWindows (grammar : Grammar) : Parser String := do
  return "WINDOW " ++ commaJoined (← commaSeparated (namedWindow grammar))

/-- A list of expressions behind some words, as one clause, where the words come next. -/
def listClause? (grammar : Grammar) (words : List String) : Parser (Option String) :=
  after? words do return joined " " words ++ " " ++ commaJoined (← exprTexts grammar)

/-- A condition behind its keyword, as one clause, where the keyword comes next. -/
def conditionClause? (grammar : Grammar) (keyword : String) : Parser (Option String) :=
  after? [keyword] do return keyword ++ " " ++ (← grammar.expr).text

/-- The clauses of a selection after its condition. -/
def selectClauses (grammar : Grammar) : Parser (List String) := do
  let group ← do
    if ← keywords? ["GROUP", "BY", "ALL"] then pure (some "GROUP BY ALL")
    else listClause? grammar ["GROUP", "BY"]
  let cluster ← listClause? grammar ["CLUSTER", "BY"]
  let distribute ← listClause? grammar ["DISTRIBUTE", "BY"]
  let sort ← listClause? grammar ["SORT", "BY"]
  let having ← conditionClause? grammar "HAVING"
  let windows ← after? ["WINDOW"] (namedWindows grammar)
  let qualify ← conditionClause? grammar "QUALIFY"
  let lateWindows ← if windows.isNone && qualify.isSome then
      after? ["WINDOW"] (namedWindows grammar)
    else pure none
  return [group, cluster, distribute, sort, having, windows, qualify, lateWindows].flatMap
    Option.toList

/-! ### Selections -/

/-- A selection behind its `SELECT`. -/
def selection (grammar : Grammar) : Parser Select := do
  let distinct ← distinct grammar
  let top ← after? ["TOP"] (top grammar)
  let items ← commaSeparated (selectItem grammar)
  let destination ← after? ["INTO"] destination
  let sources ← after? ["FROM"] (commaSeparated (source grammar))
  let views ← many (after? ["LATERAL", "VIEW"] (lateralView grammar))
  let condition ← after? ["WHERE"] grammar.expr
  let clauses ← selectClauses grammar
  return {
    quantifiers := distinct ++ top.toList, items, destination, sources := sources.getD [], views,
    condition, clauses }

end ScatterGather.Sql.Parser
