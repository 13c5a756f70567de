/-
**Reading grants.**

Statements that give rights and take them back. None goes to one table's shards, so only their form
is checked.

* `Parser.grant`, `Parser.revoke`: a statement behind its first keyword.
-/
import ScatterGather.Sql.Parser.Query

namespace ScatterGather.Sql.Parser

/-! ### Rights -/

/-- A right, some of them on columns alone. -/
def right : Parser Unit := do
  let kind ← expectOneOf
    ["CONNECT", "CREATE", "DELETE", "EXECUTE", "INSERT", "REFERENCES", "SELECT", "TEMPORARY",
     "TRIGGER", "TRUNCATE", "UPDATE", "USAGE"]
  if ["INSERT", "REFERENCES", "SELECT", "UPDATE"].contains kind then passOver identList?

/-- What the rights are on. -/
def objects : Parser Unit := do
  let all ← either? (keywords? ["ALL", "TABLES", "IN", "SCHEMA"])
    (keywords? ["ALL", "SEQUENCES", "IN", "SCHEMA"])
  unless all do passOver (oneOf? ["SEQUENCE", "SCHEMA", "TABLE"])
  passOver (commaSeparated path)

/-- All rights or some of them, and what they are on. -/
def rights : Parser Unit := do
  if ← keyword? "ALL" then passOver (keyword? "PRIVILEGES")
  else passOver (commaSeparated right)
  expectKeyword "ON"
  objects

/-- Who gives rights, where it is told. -/
def grantor : Parser Unit :=
  passOver (after? ["GRANTED", "BY"] ident)

/-! ### Statements -/

/-- A statement behind `GRANT`. -/
def grant : Parser Statement := do
  rights
  expectKeyword "TO"
  passOver (commaSeparated ident)
  passOver (keywords? ["WITH", "GRANT", "OPTION"])
  grantor
  return .other

/-- A statement behind `REVOKE`. -/
def revoke : Parser Statement := do
  rights
  expectKeyword "FROM"
  passOver (commaSeparated ident)
  grantor
  let cascade ← keyword? "CASCADE"
  let restrict ← keyword? "RESTRICT"
  if cascade && restrict then refuse else return .other

end ScatterGather.Sql.Parser
