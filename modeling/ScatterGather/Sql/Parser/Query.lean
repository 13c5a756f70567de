/-
**Reading queries.**

* `Parser.body`: selections with the set operators between them; `INTERSECT` binds tighter than
  `UNION` and `EXCEPT`, which go from left to right;
* `Parser.tail`: order, window and what follows them;
* `Parser.query`: a whole query.
-/
import ScatterGather.Sql.Parser.Write

namespace ScatterGather.Sql.Parser

/-! ### Bodies -/

/-- The name of a table whose rows are all read. Three tokens are taken, whether or not the name
has two parts. -/
def tableRows : Parser Body := do
  let tokens := (← get).take 3
  skip 3
  match tokens with
  | [.word schema _, .symbol ".", .word table _] =>
    return .table [⟨schema.name, none⟩, ⟨table.name, none⟩]
  | _ :: .symbol "." :: _ => refuse
  | .word table _ :: _ => return .table [⟨table.name, none⟩]
  | _ => refuse

/-- A body without set operators. -/
def simpleBody (grammar : Grammar) : Parser Body := do
  if ← keyword? "SELECT" then return .select (← selection grammar)
  else if ← symbol? "(" then
    let inner ← grammar.query
    expectSymbol ")"
    return .nested inner.preamble inner.body inner.tail
  else if ← keyword? "VALUES" then rows grammar
  else if ← keyword? "TABLE" then tableRows
  else refuse

/-- How a set operator treats repeated rows and matches columns. -/
def quantifier : Parser String := do
  if ← keywords? ["DISTINCT", "BY", "NAME"] then return " DISTINCT BY NAME"
  else if ← keywords? ["BY", "NAME"] then return " BY NAME"
  else if ← keyword? "ALL" then
    return if ← keywords? ["BY", "NAME"] then " ALL BY NAME" else " ALL"
  else if ← keyword? "DISTINCT" then return " DISTINCT"
  else return ""

/-- Bodies with one of some set operators between them, joined from left to right. -/
def combined (operators : List String) (part : Parser Body) : Parser Body := do
  let first ← part
  let rest ← many do
    match ← oneOf? operators with
    | none => return none
    | some operator =>
      let operator := operator ++ (← quantifier)
      return some (operator, ← part)
  return rest.foldl (fun left (operator, right) => .combined left operator right) first

/-- The body of a query. -/
def body (grammar : Grammar) : Parser Body :=
  combined ["UNION", "EXCEPT"] (combined ["INTERSECT"] (simpleBody grammar))

/-! ### Queries -/

/-- The rows to skip, behind their keyword. -/
def offset (grammar : Grammar) : Parser Offset := do
  let count ← grammar.expr
  return { count, unit := ← oneOf? ["ROW", "ROWS"] }

/-- Reads a clause of a window unless it has been read. -/
def unlessRead {α : Type} (found : Option α) (reader : Parser (Option α)) : Parser (Option α) :=
  match found with
  | some _ => return found
  | none => reader

/-- The number of rows and the rows to skip, each of which may come first. Where two numbers follow
`LIMIT`, the first tells the rows to skip. -/
def windowClauses (grammar : Grammar) :
    Nat → Option Expr × Option Offset → Parser (Option Expr × Option Offset)
  | 0, window => return window
  | rounds + 1, (limit, offset?) => do
    let limit ← unlessRead limit do
      if ← keyword? "LIMIT" then
        if ← keyword? "ALL" then return none else return some (← grammar.expr)
      else return none
    let offset? ← unlessRead offset? (after? ["OFFSET"] (offset grammar))
    match limit, offset? with
    | some skipped, none =>
      if ← symbol? "," then
        windowClauses grammar rounds (some (← grammar.expr), some { count := skipped })
      else windowClauses grammar rounds (limit, none)
    | _, _ => windowClauses grammar rounds (limit, offset?)

/-- A locking clause, behind its keyword. -/
def lock : Parser String := do
  let kind ← expectOneOf ["UPDATE", "SHARE"]
  let tables ← after? ["OF"] do return " OF " ++ pathText (← path)
  let waiting ← do
    if ← keyword? "NOWAIT" then pure " NOWAIT"
    else if ← keywords? ["SKIP", "LOCKED"] then pure " SKIP LOCKED"
    else pure ""
  return "FOR " ++ kind ++ tables.getD "" ++ waiting

/-- The first rows of the window, behind the keyword. -/
def fetch : Parser String := do
  passOver (expectOneOf ["FIRST", "NEXT"])
  let count ← do
    match ← oneOf? ["ROW", "ROWS"] with
    | some _ => pure ""
    | none =>
      let value ← literalText
      let percent ← keyword? "PERCENT"
      passOver (expectOneOf ["ROW", "ROWS"])
      pure (value ++ (if percent then " PERCENT " else " "))
  if ← keyword? "ONLY" then return "FETCH FIRST " ++ count ++ "ROWS ONLY"
  else if ← keywords? ["WITH", "TIES"] then return "FETCH FIRST " ++ count ++ "ROWS WITH TIES"
  else refuse

/-- A text in parentheses behind a keyword, in its canonical spelling. -/
def nameInParens : Parser String := do
  let quote := String.singleton singleQuote
  return "(" ++ quote ++ (← inParens stringOrWord) ++ quote ++ ")"

/-- Options behind commas, of which some may be empty, as texts by the place at which each is
written. -/
def outputOptions (option : Parser (Option (Nat × String))) : Parser String := do
  let found ← many do
    if ← symbol? "," then return some (← option) else return none
  let found := found.filterMap id
  let last := fun place => (found.filter fun (told, _) => told == place).getLast?
  return String.join ((List.range 4).map fun place =>
    match last place with
    | some (_, text) => ", " ++ text
    | none => "")

/-- The form of markup that rows are given in, behind the keyword. -/
def markup : Parser String := do
  let form ← do
    match ← expectOneOf ["RAW", "AUTO", "EXPLICIT", "PATH"] with
    | "RAW" => if ← symbolAt 0 "(" then pure ("RAW" ++ (← nameInParens)) else pure "RAW"
    | "PATH" => if ← symbolAt 0 "(" then pure ("PATH" ++ (← nameInParens)) else pure "PATH"
    | word => pure word
  let options ← outputOptions <| firstOf [
    after? ["ELEMENTS"] (pure (3, "ELEMENTS")),
    after? ["BINARY"] (expectKeyword "BASE64" *> pure (0, "BINARY BASE64")),
    after? ["ROOT"] do return (2, "ROOT" ++ (← nameInParens)),
    after? ["TYPE"] (pure (1, "TYPE"))]
  return "FOR XML " ++ form ++ options

/-- The form of documents that rows are given in, behind the keyword. -/
def documents : Parser String := do
  let form ← expectOneOf ["AUTO", "PATH"]
  let options ← outputOptions <| firstOf [
    after? ["ROOT"] do return (0, "ROOT" ++ (← nameInParens)),
    after? ["INCLUDE_NULL_VALUES"] (pure (1, "INCLUDE_NULL_VALUES")),
    after? ["WITHOUT_ARRAY_WRAPPER"] (pure (2, "WITHOUT_ARRAY_WRAPPER"))]
  return "FOR JSON " ++ form ++ options

/-- The form that rows are given in, behind its `FOR`, if one is told. -/
def outputForm? : Parser (Option String) := do
  match ← oneOf? ["XML", "JSON", "BROWSE"] with
  | none => return none
  | some "XML" => return some (← markup)
  | some "JSON" => return some (← documents)
  | some _ => return some "FOR BROWSE"

/-- The locks and the form of output, in at most `rounds` rounds. The form comes last. -/
def locksAndForm : Nat → Parser (List String)
  | 0 => return []
  | rounds + 1 => do
    if ← keyword? "FOR" then
      match ← outputForm? with
      | some form => return [form]
      | none => return (← lock) :: (← locksAndForm rounds)
    else return []

/-- What follows the body of a query. -/
def tail (grammar : Grammar) : Parser Tail := do
  let orderBy ← after? ["ORDER", "BY"] (commaSeparated (orderItem grammar))
  let (limit, offset) ← windowClauses grammar 2 (none, none)
  let fetched ← after? ["FETCH"] fetch
  let last ← locksAndForm ((← get).length + 1)
  return { orderBy := orderBy.getD [], limit, offset, rest := fetched.toList ++ last }

/-- A named query of a `WITH`. -/
def namedQuery (grammar : Grammar) : Parser String := do
  let name ← ident
  let columns ← if (← keywordAt 0) == "AS" then pure [] else aliasColumns
  expectKeyword "AS"
  let query ← inParens grammar.query
  let origin ← after? ["FROM"] do return " FROM " ++ (← ident).text
  return Alias.text { name, columns } ++ " AS (" ++ query.text ++ ")" ++ origin.getD ""

/-- The `WITH` of a query, behind its keyword. -/
def preamble (grammar : Grammar) : Parser String := do
  let recursive ← keyword? "RECURSIVE"
  let queries ← commaSeparated (namedQuery grammar)
  return (if recursive then "WITH RECURSIVE " else "WITH ") ++ commaJoined queries

/-- A query, with the rules one level deeper. A statement that writes rows may take the place of its
body. -/
def query (grammar : Grammar) : Parser Query := do
  let preamble ← after? ["WITH"] (preamble grammar)
  if ← keyword? "INSERT" then
    return { preamble, body := .write (← insertion grammar "INSERT").text }
  else if ← keyword? "UPDATE" then return { preamble, body := .write (← change grammar).text }
  else
    let body ← body grammar
    return { preamble, body, tail := ← tail grammar }

end ScatterGather.Sql.Parser
