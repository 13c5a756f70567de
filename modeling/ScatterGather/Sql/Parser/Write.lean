/-
**Reading statements that write rows.**

* `Parser.insertion`, `Parser.change`, `Parser.deletion`, `Parser.merge`: a statement behind its
  verb;
* `Insertion`: rows go to a table, or to files.
-/
import ScatterGather.Sql.Parser.Select

namespace ScatterGather.Sql

/-- What an insertion writes to. -/
inductive Insertion where
  | table (insert : Insert)
  /-- Files in a directory; the insertion in its canonical spelling. -/
  | directory (spelling : String)
  deriving Repr, Inhabited

/-- The canonical spelling of an insertion. -/
def Insertion.text : Insertion → String
  | .table insert => insert.text
  | .directory spelling => spelling

namespace Parser

/-! ### Assignments -/

/-- A column, or several in parentheses, with a new value. -/
def assignment (grammar : Grammar) : Parser String := do
  let target ← do
    if ← symbolAt 0 "(" then
      pure ("(" ++ commaJoined ((← inParens (commaSeparated path)).map pathText) ++ ")")
    else pure (pathText (← path))
  expectSymbol "="
  return target ++ " = " ++ (← grammar.expr).text

/-- Columns with their new values. -/
def assignments (grammar : Grammar) : Parser (List String) :=
  commaSeparated (assignment grammar)

/-- What becomes of a row that cannot be written, where it is told. -/
def resolution? : Parser (Option String) := do
  let told ← firstOf <| ["REPLACE", "ROLLBACK", "ABORT", "FAIL", "IGNORE"].map fun word =>
    after? ["OR", word] (pure ("OR " ++ word))
  match told with
  | some text => return some text
  | none => after? ["REPLACE"] (pure "OR REPLACE")

/-- The selected expressions that a writing statement answers with, where it does. -/
def returning? (grammar : Grammar) : Parser (Option String) :=
  after? ["RETURNING"] do return "RETURNING " ++ (← selectItems grammar)

/-! ### Insertions -/

/-- The columns that an insertion fills. The list may be left out, and it may be empty. -/
def insertedColumns : Parser (List Ident) := do
  if ← symbolAt 0 "(" then inParens (commaSeparatedUpto ")" ident) else return []

/-- The partition that an insertion goes to. -/
def insertedPartition (grammar : Grammar) : Parser String := do
  return "PARTITION " ++ (← exprsInParens grammar)

/-- The name of the rows to insert, with names for their columns. -/
def insertedAlias : Parser String := do
  let name ← path
  let columns ← identList?
  return if columns.isEmpty then "AS " ++ pathText name
    else "AS " ++ pathText name ++ " (" ++ commaJoined (columns.map Ident.text) ++ ")"

/-- The rows that a conflict is about. -/
def conflictTarget : Parser String := do
  if ← keywords? ["ON", "CONSTRAINT"] then return " ON CONSTRAINT " ++ pathText (← path)
  else if ← symbolAt 0 "(" then return "(" ++ commaJoined ((← identList).map Ident.text) ++ ")"
  else return ""

/-- What becomes of rows that are there already, behind the keyword. -/
def conflictClause (grammar : Grammar) : Parser String := do
  if ← keyword? "CONFLICT" then
    let target ← conflictTarget
    expectKeyword "DO"
    if ← keyword? "NOTHING" then return "ON CONFLICT" ++ target ++ " DO NOTHING"
    else
      expectKeyword "UPDATE"
      expectKeyword "SET"
      let changes := "DO UPDATE SET " ++ commaJoined (← assignments grammar)
      let condition ← conditionClause? grammar "WHERE"
      return "ON CONFLICT" ++ target ++ " " ++ joined " " (changes :: condition.toList)
  else
    expectKeyword "DUPLICATE"
    expectKeyword "KEY"
    expectKeyword "UPDATE"
    return "ON DUPLICATE KEY UPDATE " ++ commaJoined (← assignments grammar)

/-- The clauses of an insertion after its rows. -/
def insertClauses (grammar : Grammar) : Parser (List String) := do
  let byname ← after? ["AS"] insertedAlias
  let conflict ← after? ["ON"] (conflictClause grammar)
  return byname.toList ++ conflict.toList ++ (← returning? grammar).toList

/-- A format of files. -/
def fileFormat : Parser String :=
  expectOneOf ["AVRO", "JSONFILE", "ORC", "PARQUET", "RCFILE", "SEQUENCEFILE", "TEXTFILE"]

/-- An insertion into the files of a directory, behind that keyword. -/
def insertionInFiles (grammar : Grammar) (overwrites isLocal : Bool) : Parser Insertion := do
  let quote := String.singleton singleQuote
  let directory := quote ++ (← stringOrWord) ++ quote
  let format ← after? ["STORED", "AS"] do return "STORED AS " ++ (← fileFormat)
  let words := (if overwrites then ["OVERWRITE"] else []) ++ (if isLocal then ["LOCAL"] else [])
  return .directory (joined " "
    (["INSERT"] ++ words ++ ["DIRECTORY", directory] ++ format.toList ++ [(← grammar.query).text]))

/-- An insertion into a table, behind its first words. -/
def insertionInTable (grammar : Grammar) (opening : String) : Parser Insertion := do
  let table ← path
  if ← keywords? ["DEFAULT", "VALUES"] then
    return .table { opening, table, clauses := ← insertClauses grammar }
  let subquery := (← symbolAt 0 "(") && (← keywordAt 1) == "SELECT"
  let columns ← if subquery then pure [] else insertedColumns
  let partition ← if subquery then pure none else after? ["PARTITION"] (insertedPartition grammar)
  let source ← grammar.query
  return .table { opening, table, columns, partition, source, clauses := ← insertClauses grammar }

/-- An insertion behind its verb. Where it tells what becomes of rows that cannot be written, its
other words are left out. -/
def insertion (grammar : Grammar) (verb : String) : Parser Insertion := do
  let resolution ← resolution?
  let priority ← oneOf? ["LOW_PRIORITY", "DELAYED", "HIGH_PRIORITY"]
  let ignore ← keyword? "IGNORE"
  let overwrite ← keyword? "OVERWRITE"
  let into ← keyword? "INTO"
  let isLocal ← keyword? "LOCAL"
  if ← keyword? "DIRECTORY" then insertionInFiles grammar overwrite isLocal
  else
    let table ← keyword? "TABLE"
    match resolution with
    | some resolution => insertionInTable grammar ("INSERT " ++ resolution ++ " INTO")
    | none =>
      let words := [(ignore, "IGNORE"), (overwrite, "OVERWRITE"), (into, "INTO"), (table, "TABLE")]
      let written := words.filterMap fun (found, word) => if found then some word else none
      insertionInTable grammar (joined " " (verb :: (priority.toList ++ written)))

/-! ### Changes and deletions -/

/-- A change behind its verb. A `FROM` behind the assignments is taken, but no source may follow
it. -/
def change (grammar : Grammar) : Parser Update := do
  let resolution ← resolution?
  let target ← source grammar
  expectKeyword "SET"
  let assignments ← assignments grammar
  passOver (keyword? "FROM")
  let condition ← after? ["WHERE"] grammar.expr
  return { resolution, target, assignments, condition, answer := ← returning? grammar }

/-- A deletion behind its verb. -/
def deletion (grammar : Grammar) : Parser Delete := do
  let tables ← do
    if ← keyword? "FROM" then pure []
    else
      let names ← commaSeparated path
      expectKeyword "FROM"
      pure names
  let sources ← commaSeparated (source grammar)
  let usingSources ← after? ["USING"] (commaSeparated (source grammar))
  let condition ← after? ["WHERE"] grammar.expr
  passOver (returning? grammar)
  passOver (orderClause? grammar)
  passOver <| after? ["LIMIT"] do
    unless ← keyword? "ALL" do passOver grammar.expr
  return { tables, sources, usingSources, condition }

/-! ### Rows written out -/

/-- A row written out, and whether `ROW` stands before it. -/
def row (grammar : Grammar) : Parser (Bool × List Expr) := do
  let explicitRow ← keyword? "ROW"
  return (explicitRow, ← inParens (commaSeparatedUpto ")" grammar.expr))

/-- Rows behind their `VALUES`. -/
def rows (grammar : Grammar) : Parser Body := do
  let found ← commaSeparated (row grammar)
  return .values (found.any Prod.fst) (found.map Prod.snd)

/-! ### Merges -/

/-- What a merge does in one case, behind the `WHEN`. Rows without a match in the target can only be
inserted, all others only changed or deleted. -/
def mergeCase (grammar : Grammar) : Parser Unit := do
  let unmatched ← keyword? "NOT"
  expectKeyword "MATCHED"
  let inserts ← do
    if !unmatched then pure false
    else if ← keywords? ["BY", "SOURCE"] then pure false
    else passOver (keywords? ["BY", "TARGET"]) *> pure true
  passOver (after? ["AND"] grammar.expr)
  expectKeyword "THEN"
  match ← expectOneOf (if inserts then ["INSERT"] else ["UPDATE", "DELETE"]) with
  | "UPDATE" =>
    expectKeyword "SET"
    passOver (assignments grammar)
  | "INSERT" =>
    passOver insertedColumns
    expectKeyword "VALUES"
    passOver (rows grammar)
  | _ => return

/-- A merge of a relation into another, behind its verb. -/
def merge (grammar : Grammar) : Parser Statement := do
  passOver (keyword? "INTO")
  passOver (relation grammar)
  expectKeyword "USING"
  passOver (relation grammar)
  expectKeyword "ON"
  passOver grammar.expr
  passOver (many (after? ["WHEN"] (mergeCase grammar)))
  match ← peek with
  | none | some (.symbol ";") => return .other
  | _ => refuse

end Parser

end ScatterGather.Sql
