/-
**Reading changes of definitions.**

Of a change only the names that decide where it goes are kept; all else is checked for its form and
left out.

* `Parser.alteration`: a change of a table;
* `Parser.alter`, `Parser.drop`, `Parser.truncate`: a statement behind its first keyword.
-/
import ScatterGather.Sql.Parser.Definition

namespace ScatterGather.Sql.Parser

/-! ### Additions and new names -/

/-- Where a column stands among the others, if it is written. -/
def columnPosition : Parser Unit := do
  unless ← keyword? "FIRST" do passOver (after? ["AFTER"] ident)

/-- An addition to a table: a constraint, partitions or a column. -/
def alterAdd (grammar : Grammar) : Parser Unit := do
  match ← constraint? grammar with
  | some () => return
  | none =>
    passOver (keywords? ["IF", "NOT", "EXISTS"])
    let partitions ← many (after? ["PARTITION"] (exprsInParens grammar))
    if partitions.isEmpty then
      passOver (keyword? "COLUMN")
      columnDefinition grammar
      columnPosition

/-- A new name for a table or a column. -/
def alterRename : Parser Unit := do
  if ← keyword? "TO" then passOver path
  else
    passOver (keyword? "COLUMN")
    passOver ident
    expectKeyword "TO"
    passOver ident

/-- New values for a partition of a table. -/
def alterPartition (grammar : Grammar) : Parser Unit := do
  passOver (exprsInParens grammar)
  for word in ["RENAME", "TO", "PARTITION"] do expectKeyword word
  passOver (exprsInParens grammar)

/-! ### Removals -/

/-- A removal from a table. -/
def alterDrop (grammar : Grammar) : Parser Unit := do
  if ← either? (keywords? ["IF", "EXISTS", "PARTITION"]) (keyword? "PARTITION") then
    passOver (exprsInParens grammar)
  else if ← keyword? "CONSTRAINT" then
    passOver (keywords? ["IF", "EXISTS"])
    passOver ident
    passOver (keyword? "CASCADE")
  else if ← keywords? ["PRIMARY", "KEY"] then return
  else
    passOver (keyword? "PROJECTION")
    if ← keywords? ["CLUSTERING", "KEY"] then return
    passOver (keyword? "COLUMN")
    passOver (keywords? ["IF", "EXISTS"])
    passOver ident
    passOver (keyword? "CASCADE")

/-! ### Columns -/

/-- A new type for a column that keeps its name. -/
def alterModify (grammar : Grammar) : Parser Unit := do
  passOver ident
  passOver dataType
  passOver (many (columnProperty? grammar))
  columnPosition

/-- The source of the values of a column from now on. -/
def alterGenerated : Parser Unit := do
  unless ← keyword? "ALWAYS" do passOver (keywords? ["BY", "DEFAULT"])
  expectKeyword "AS"
  expectKeyword "IDENTITY"
  sequenceOptionsInParens

/-- A change of one property of a column. -/
def alterColumn (grammar : Grammar) : Parser Unit := do
  passOver ident
  let changed ← firstOf [
    after? ["SET", "NOT", "NULL"] (pure ()),
    after? ["DROP", "NOT", "NULL"] (pure ()),
    after? ["SET", "DEFAULT"] (passOver grammar.expr),
    after? ["DROP", "DEFAULT"] (pure ()),
    after? ["SET", "DATA", "TYPE"] (passOver dataType),
    after? ["ADD", "GENERATED"] alterGenerated]
  if changed.isNone then refuse

/-! ### Switches -/

/-- Something that is switched off. -/
def alterDisable : Parser Unit := do
  unless ← keywords? ["ROW", "LEVEL", "SECURITY"] do
    passOver (expectOneOf ["RULE", "TRIGGER"])
    passOver ident

/-- Something that is switched on. -/
def alterEnable : Parser Unit := do
  if ← keywords? ["ROW", "LEVEL", "SECURITY"] then return
  else
    passOver (oneOf? ["ALWAYS", "REPLICA"])
    passOver (expectOneOf ["RULE", "TRIGGER"])
    passOver ident

/-! ### Tables -/

/-- A change of a table. -/
def alteration (grammar : Grammar) : Parser Unit := do
  let early ← firstOf [
    after? ["ADD"] (alterAdd grammar),
    after? ["RENAME"] alterRename,
    after? ["DISABLE"] alterDisable,
    after? ["ENABLE"] alterEnable]
  if early.isSome then return
  for word in ["CLEAR", "MATERIALIZE"] do passOver (keywords? [word, "PROJECTION"])
  let found ← firstOf [
    after? ["DROP"] (alterDrop grammar),
    after? ["PARTITION"] (alterPartition grammar),
    after? ["CHANGE"] (keyword? "COLUMN" *> ident *> alterModify grammar),
    after? ["MODIFY"] (keyword? "COLUMN" *> alterModify grammar),
    after? ["ALTER"] (keyword? "COLUMN" *> alterColumn grammar),
    after? ["SWAP"] (expectKeyword "WITH" *> passOver path),
    after? ["CLUSTER", "BY"] (passOver (exprsInParens grammar)),
    after? ["SUSPEND", "RECLUSTER"] (pure ()),
    after? ["RESUME", "RECLUSTER"] (pure ()),
    after? ["SET", "TBLPROPERTIES"] (passOver (inParens (commaSeparated (option grammar))))]
  if found.isNone then refuse

/-- Changes of a table, behind its keyword. -/
def alterTable (grammar : Grammar) : Parser Statement := do
  passOver (keywords? ["IF", "EXISTS"])
  passOver (keyword? "ONLY")
  let name ← path
  onCluster
  passOver (commaSeparated (alteration grammar))
  if ← either? (keyword? "LOCATION") (keywords? ["SET", "LOCATION"]) then passOver ident
  return .alterTable name

/-! ### Views, indexes and policies -/

/-- A new query for a view, behind its keyword. -/
def alterView (grammar : Grammar) : Parser Statement := do
  passOver path
  passOver identList?
  options grammar "WITH"
  expectKeyword "AS"
  passOver grammar.query
  return .other

/-- A new name for an index, behind its keyword. -/
def alterIndex : Parser Statement := do
  passOver path
  expectKeyword "RENAME"
  expectKeyword "TO"
  passOver path
  return .other

/-- A new name for a policy, or other rows that it admits, behind its keyword. -/
def alterPolicy (grammar : Grammar) : Parser Statement := do
  policyName
  if ← keyword? "RENAME" then
    expectKeyword "TO"
    passOver ident
  else policyRows grammar
  return .other

/-- A statement behind `ALTER`. -/
def alter (grammar : Grammar) : Parser Statement := do
  match ← expectOneOf ["TABLE", "VIEW", "INDEX", "POLICY"] with
  | "TABLE" => alterTable grammar
  | "VIEW" => alterView grammar
  | "INDEX" => alterIndex
  | _ => alterPolicy grammar

/-! ### Removed things -/

/-- A type of an argument, behind its mode and its name, where they are written. -/
def argumentType (grammar : Grammar) : Parser Unit := do
  passOver (oneOf? ["IN", "OUT", "INOUT"])
  if (← dataType).custom then passOver dataType
  if ← either? (keyword? "DEFAULT") (symbol? "=") then passOver grammar.expr

/-- A function by its name and the types of its arguments, where they are written. -/
def signature (grammar : Grammar) : Parser Unit := do
  passOver path
  if ← symbolAt 0 "(" then
    passOver (inParens (commaSeparatedUpto ")" (argumentType grammar)))

/-- What becomes of all that depends on a thing that is removed. -/
def dependents : Parser Unit :=
  passOver (oneOf? ["CASCADE", "RESTRICT"])

/-- Removed functions or procedures, behind their keyword. -/
def dropFunctions (grammar : Grammar) : Parser Statement := do
  passOver (keywords? ["IF", "EXISTS"])
  passOver (commaSeparated (signature grammar))
  dependents
  return .other

/-- A removed policy, behind its keyword. -/
def dropPolicy : Parser Statement := do
  passOver (keywords? ["IF", "EXISTS"])
  policyName
  dependents
  return .other

/-- A removed secret, behind its keyword. -/
def dropSecret : Parser Statement := do
  passOver (keywords? ["IF", "EXISTS"])
  passOver ident
  passOver (after? ["FROM"] anyIdent)
  return .other

/-- Removed things of a kind, behind its keyword. -/
def dropNamed (kind : String) : Parser Statement := do
  passOver (keywords? ["IF", "EXISTS"])
  let names ← commaSeparated path
  let cascade ← keyword? "CASCADE"
  let restrict ← keyword? "RESTRICT"
  let purge ← keyword? "PURGE"
  if cascade && restrict then refuse
  else if kind == "ROLE" && (cascade || restrict || purge) then refuse
  else return if kind == "TABLE" then .dropTable names else .other

/-- A statement behind `DROP`. -/
def drop (grammar : Grammar) : Parser Statement := do
  passOver (keyword? "TEMPORARY")
  match ← expectOneOf
    ["TABLE", "VIEW", "INDEX", "ROLE", "SCHEMA", "DATABASE", "SEQUENCE", "STAGE", "TYPE",
     "FUNCTION", "PROCEDURE", "POLICY", "SECRET"] with
  | "FUNCTION" | "PROCEDURE" => dropFunctions grammar
  | "POLICY" => dropPolicy
  | "SECRET" => dropSecret
  | kind => dropNamed kind

/-- A statement behind `TRUNCATE`. -/
def truncate (grammar : Grammar) : Parser Statement := do
  passOver (keyword? "TABLE")
  passOver (keyword? "ONLY")
  let tables ← commaSeparated path
  passOver (after? ["PARTITION"] (exprsInParens grammar))
  onCluster
  return .truncate tables

end ScatterGather.Sql.Parser
