/-
**Reading statements about a session.**

Statements about variables, transactions, locks and what there is. None names a table that decides
where it goes, so only their form is checked.

* `Parser.setStatement`, `Parser.showStatement`, `Parser.begin`, …: a statement behind its first
  keyword.
-/
import ScatterGather.Sql.Parser.Query

namespace ScatterGather.Sql.Parser

/-! ### Transactions -/

/-- How far a transaction sees the work of others. -/
def isolationLevel : Parser Unit := do
  let known ← firstOf [
    after? ["READ", "UNCOMMITTED"] (pure ()), after? ["READ", "COMMITTED"] (pure ()),
    after? ["REPEATABLE", "READ"] (pure ()), after? ["SERIALIZABLE"] (pure ())]
  if known.isNone then refuse

/-- A property of a transaction, if one comes next. -/
def transactionMode? : Parser (Option Unit) :=
  firstOf [
    after? ["ISOLATION", "LEVEL"] isolationLevel,
    after? ["READ", "ONLY"] (pure ()), after? ["READ", "WRITE"] (pure ())]

/-- Properties of a transaction. Commas between them may be left out. -/
def transactionModes : Parser Unit := do
  let modes ← many do
    match ← transactionMode? with
    | some () => return some (← symbol? ",")
    | none => return none
  if modes.getLast? = some true then refuse

/-- Whether a new transaction follows the one that ends. -/
def chain : Parser Unit := do
  passOver (oneOf? ["TRANSACTION", "WORK"])
  passOver <| after? ["AND"] do
    passOver (keyword? "NO")
    expectKeyword "CHAIN"

/-- A statement behind `BEGIN`. -/
def begin : Parser Statement := do
  passOver (oneOf? ["TRANSACTION", "WORK"])
  transactionModes
  return .other

/-- A statement behind `START`. -/
def start : Parser Statement := do
  expectKeyword "TRANSACTION"
  transactionModes
  return .other

/-- A statement behind `COMMIT` or `END`. -/
def commit : Parser Statement := do
  chain
  return .other

/-- A statement behind `ROLLBACK`. -/
def rollback : Parser Statement := do
  chain
  passOver (after? ["TO"] (keyword? "SAVEPOINT" *> ident))
  return .other

/-- A statement behind `SAVEPOINT`. -/
def savepoint : Parser Statement := do
  passOver ident
  return .other

/-- A statement behind `RELEASE`. -/
def release : Parser Statement := do
  passOver (keyword? "SAVEPOINT")
  savepoint

/-! ### Variables -/

/-- A role to take on, behind its keyword. -/
def role : Parser Unit := do
  expectKeyword "ROLE"
  unless ← keyword? "NONE" do passOver ident

/-- The character set of a session. -/
def names : Parser Unit := do
  unless ← keyword? "DEFAULT" do
    passOver stringOrWord
    passOver (after? ["COLLATE"] stringOrWord)

/-- A value for a variable. -/
def variableValue (grammar : Grammar) : Parser Unit := do
  if ["SELECT", "WITH"].contains (← keywordAt 0) then passOver grammar.query
  else passOver grammar.expr

/-- The properties of the transactions to come, or of the next one. -/
def nextTransaction : Parser Unit := do
  if ← keyword? "SNAPSHOT" then passOver literal else transactionModes

/-- The rest of a setting behind the name of what is set. -/
def setting (grammar : Grammar) (name : String) (plain : Bool) : Parser Unit := do
  if Text.sameIgnoringCase name "NAMES" then names
  else if ← either? (symbol? "=") (keyword? "TO") then
    passOver (commaSeparated (variableValue grammar))
  else if Text.sameIgnoringCase name "TIMEZONE" then passOver grammar.expr
  else if name = "CHARACTERISTICS" then
    expectKeyword "AS"
    expectKeyword "TRANSACTION"
    transactionModes
  else if name = "TRANSACTION" && plain then nextTransaction
  else refuse

/-- A statement behind `SET`. -/
def setStatement (grammar : Grammar) : Parser Statement := do
  let scope ← oneOf? ["SESSION", "LOCAL", "HIVEVAR"]
  let taken ← if scope == some "HIVEVAR" then expectSymbol ":" *> pure none else attempt? role
  match taken with
  | some () => return .other
  | none =>
    let name ← if ← keywords? ["TIME", "ZONE"] then pure "TIMEZONE" else pathText <$> path
    setting grammar name scope.isNone
    return .other

/-! ### Lists of what there is -/

/-- What a list is cut down to, if it is. -/
def filter (grammar : Grammar) : Parser Unit := do
  if ← keyword? "LIKE" then passOver stringOrWord
  else if ← keyword? "ILIKE" then passOver stringOrWord
  else if ← keyword? "WHERE" then passOver grammar.expr
  else passOver (attempt? stringOrWord)

/-- What has the things that a list shows. -/
def owner : Parser Unit := do
  match ← oneOf? ["ACCOUNT", "DATABASE", "SCHEMA", "TABLE", "VIEW"] with
  | some kind =>
    let starts := (← keywordAt 0) == "STARTS" && (← keywordAt 1) == "WITH"
    let unnamed := starts || (← keywordAt 0) == "LIMIT"
    unless unnamed && (kind == "DATABASE" || kind == "SCHEMA") do passOver (attempt? path)
  | none =>
    passOver path
    match ← oneOf? ["FROM", "IN"] with
    | some _ => passOver ident
    | none => return

/-- Of what a list shows the parts, and what it is cut down to. -/
def listing (grammar : Grammar) : Parser Unit := do
  match ← oneOf? ["FROM", "IN"] with
  | some _ => owner
  | none => pure ()
  filter grammar
  passOver (after? ["STARTS", "WITH"] literal)
  passOver <| after? ["LIMIT"] do
    unless ← keyword? "ALL" do passOver grammar.expr
  passOver (after? ["FROM"] literal)

/-- Takes all tokens up to an equals sign. -/
def uptoEquals : Parser Unit :=
  modify fun tokens => tokens.dropWhile (· != .symbol "=")

/-- A statement behind `SHOW`. -/
def showStatement (grammar : Grammar) : Parser Statement := do
  passOver (keyword? "TERSE")
  let extended ← keyword? "EXTENDED"
  let full ← keyword? "FULL"
  passOver (keyword? "SESSION")
  passOver (keyword? "GLOBAL")
  passOver (keyword? "EXTERNAL")
  match ← oneOf? ["COLUMNS", "FIELDS", "TABLES", "VIEWS"] with
  | some _ => listing grammar
  | none =>
    if ← keywords? ["MATERIALIZED", "VIEWS"] then listing grammar
    else if ← keyword? "FUNCTIONS" then filter grammar
    else if extended || full then refuse
    else if ← keyword? "CREATE" then
      passOver (expectOneOf ["TABLE", "TRIGGER", "FUNCTION", "PROCEDURE", "EVENT", "VIEW"])
      passOver path
    else
      match ← oneOf? ["COLLATION", "VARIABLES", "STATUS", "DATABASES", "SCHEMAS"] with
      | some "DATABASES" | some "SCHEMAS" => listing grammar
      | some _ => filter grammar
      | none => uptoEquals
  return .other

/-- A statement behind `USE`. -/
def useStatement : Parser Statement := do
  passOver path
  return .other

/-! ### Locks, calls and plans -/

/-- A table to lock. -/
def lockedTable : Parser Unit := do
  passOver ident
  passOver (alias? ["READ", "WRITE", "LOW_PRIORITY"])
  if ← keyword? "READ" then passOver (keyword? "LOCAL")
  else
    passOver (keyword? "LOW_PRIORITY")
    expectKeyword "WRITE"

/-- A statement behind `LOCK TABLES`. -/
def lockTables : Parser Statement := do
  passOver (commaSeparated lockedTable)
  return .other

/-- A statement behind `CALL`. -/
def callStatement (grammar : Grammar) : Parser Statement := do
  let name ← path
  if ← symbolAt 0 "(" then passOver (call grammar (pathText name))
  return .other

/-- A statement behind `KILL`. -/
def kill : Parser Statement := do
  passOver (oneOf? ["CONNECTION", "QUERY"])
  passOver whole
  return .other

/-- A statement behind `EXPLAIN`: another statement, which may not itself be one of these, or
the name of a table. -/
def explain (grammar : Grammar) : Parser Statement := do
  unless ← keywords? ["QUERY", "PLAN"] do
    passOver (keyword? "ANALYZE")
    passOver (keyword? "VERBOSE")
    passOver (after? ["FORMAT"] (expectOneOf ["TEXT", "GRAPHVIZ", "JSON"]))
  match ← attempt? grammar.statement with
  | some .explain => refuse
  | some _ => return .explain
  | none =>
    passOver (oneOf? ["EXTENDED", "FORMATTED"])
    passOver path
    return .explain

end ScatterGather.Sql.Parser
