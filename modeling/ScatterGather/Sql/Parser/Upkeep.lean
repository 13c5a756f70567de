/-
**Reading statements for upkeep.**

Statements that clear, check, count or keep what a server holds. None names a table that decides
where it goes, so only their form is checked.

* `Parser.flush`, `Parser.analyze`, `Parser.cache`, …: a statement behind its first keyword.
-/
import ScatterGather.Sql.Parser.Column

namespace ScatterGather.Sql.Parser

/-! ### Flushing -/

/-- Tables to flush and the words between and behind them, and the first token that is no word. -/
def flushedTables : Nat → Parser Unit
  | 0 => return
  | rounds + 1 => do
    match ← peek with
    | some (.word _ keyword) =>
      if Keyword.isPlain keyword then passOver (commaSeparated path)
      else
        skip 1
        if keyword == "WITH" then passOver (keywords? ["READ", "LOCK"])
        else if keyword == "FOR" then passOver (keyword? "EXPORT")
      flushedTables rounds
    | _ => skip 1

/-- What a flush empties besides tables, by its words. -/
def flushed : List (List String) :=
  [["BINARY", "LOGS"], ["ENGINE", "LOGS"], ["ERROR", "LOGS"], ["GENERAL", "LOGS"], ["HOSTS"],
   ["PRIVILEGES"], ["OPTIMIZER_COSTS"], ["SLOW", "LOGS"], ["STATUS"], ["USER_RESOURCES"], ["LOGS"]]

/-- A statement behind `FLUSH`. -/
def flush : Parser Statement := do
  passOver (oneOf? ["NO_WRITE_TO_BINLOG", "LOCAL"])
  let relay := after? ["RELAY", "LOGS"] (passOver (after? ["FOR", "CHANNEL"] path))
  let tables := after? ["TABLES"] do flushedTables ((← get).length + 1)
  let others := flushed.map fun words => after? words (pure ())
  match ← firstOf (relay :: tables :: others) with
  | some () => return .other
  | none => refuse

/-! ### Checking and counting -/

/-- Something to count in a table, if one comes next. -/
def counted? (grammar : Grammar) : Parser (Option Unit) :=
  firstOf [
    after? ["PARTITION"] (passOver (exprsInParens grammar)),
    after? ["NOSCAN"] (pure ()),
    after? ["FOR"] (expectKeyword "COLUMNS" *> passOver (attempt? (commaSeparated ident))),
    after? ["CACHE"] (expectKeyword "METADATA"),
    after? ["COMPUTE"] (expectKeyword "STATISTICS")]

/-- A statement behind `ANALYZE`. -/
def analyze (grammar : Grammar) : Parser Statement := do
  expectKeyword "TABLE"
  passOver path
  passOver (many (counted? grammar))
  return .other

/-- A statement behind `MSCK`. -/
def repair : Parser Statement := do
  passOver (keyword? "REPAIR")
  expectKeyword "TABLE"
  passOver path
  passOver <| attempt? do
    passOver (oneOf? ["ADD", "DROP", "SYNC"])
    expectKeyword "PARTITIONS"
  return .other

/-- A statement behind `ASSERT`. -/
def assert (grammar : Grammar) : Parser Statement := do
  passOver grammar.expr
  passOver (after? ["AS"] grammar.expr)
  return .other

/-! ### Keeping and dropping -/

/-- A statement behind `CACHE`. -/
def cache (grammar : Grammar) : Parser Statement := do
  unless ← keyword? "TABLE" do
    passOver path
    expectKeyword "TABLE"
  passOver path
  options grammar "OPTIONS"
  match ← peek with
  | none => return .other
  | some (.word ..) =>
    passOver (keyword? "AS")
    passOver grammar.query
    return .other
  | some _ => refuse

/-- A statement behind `UNCACHE`. -/
def uncache : Parser Statement := do
  expectKeyword "TABLE"
  passOver (keywords? ["IF", "EXISTS"])
  passOver path
  return .other

/-- A statement behind `DISCARD`. -/
def discard : Parser Statement := do
  passOver (expectOneOf ["ALL", "PLANS", "SEQUENCES", "TEMP", "TEMPORARY"])
  return .other

/-- A statement behind `ATTACH`. -/
def attach (grammar : Grammar) : Parser Statement := do
  passOver (keyword? "DATABASE")
  passOver grammar.expr
  expectKeyword "AS"
  passOver ident
  return .other

/-- A value of a setting: a text, a number, or a mark for a value to be bound later. -/
def settingValue : Parser Unit := do
  match ← peek with
  | some (.string ..) => skip 1
  | _ => passOver numberOrMark

/-- A statement behind `PRAGMA`. -/
def pragma : Parser Statement := do
  passOver path
  if ← symbolAt 0 "(" then inParens settingValue
  else if ← symbol? "=" then settingValue
  return .other

end ScatterGather.Sql.Parser
