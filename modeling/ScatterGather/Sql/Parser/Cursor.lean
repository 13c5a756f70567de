/-
**Reading statements about cursors and prepared statements.**

None of them names a table that decides where it goes, so only their form is checked.

* `Parser.declareCursor`, `Parser.fetchRows`, `Parser.closeCursor`: the life of a cursor;
* `Parser.prepare`, `Parser.execute`, `Parser.deallocate`: the life of a prepared statement.

Each of them reads a statement behind its first keyword.
-/
import ScatterGather.Sql.Parser.Query

namespace ScatterGather.Sql.Parser

/-! ### Cursors -/

/-- A statement behind `DECLARE`. -/
def declareCursor (grammar : Grammar) : Parser Statement := do
  passOver ident
  passOver (keyword? "BINARY")
  passOver (oneOf? ["INSENSITIVE", "ASENSITIVE"])
  unless ← keyword? "SCROLL" do passOver (keywords? ["NO", "SCROLL"])
  expectKeyword "CURSOR"
  match ← oneOf? ["WITH", "WITHOUT"] with
  | some _ => expectKeyword "HOLD"
  | none => pure ()
  expectKeyword "FOR"
  passOver grammar.query
  return .other

/-- Which rows of a cursor are read. -/
def direction : Parser Unit := do
  match ← oneOf? ["NEXT", "PRIOR", "FIRST", "LAST", "ABSOLUTE", "RELATIVE", "FORWARD", "BACKWARD",
      "ALL"] with
  | some "ABSOLUTE" | some "RELATIVE" | none => passOver numberOrMark
  | some "FORWARD" | some "BACKWARD" => unless ← keyword? "ALL" do passOver numberOrMark
  | some _ => return

/-- A statement behind `FETCH`. -/
def fetchRows : Parser Statement := do
  direction
  passOver (expectOneOf ["FROM", "IN"])
  passOver ident
  passOver (after? ["INTO"] path)
  return .other

/-- A statement behind `CLOSE`. -/
def closeCursor : Parser Statement := do
  unless ← keyword? "ALL" do passOver ident
  return .other

/-! ### Prepared statements -/

/-- A statement behind `PREPARE`. -/
def prepare (grammar : Grammar) : Parser Statement := do
  passOver ident
  if ← symbolAt 0 "(" then passOver (inParens (commaSeparated dataType))
  expectKeyword "AS"
  passOver grammar.statement
  return .other

/-- The values for a prepared statement, in parentheses or not. -/
def parameters (grammar : Grammar) : Parser Unit := do
  if ← symbolAt 0 "(" then passOver (inParens (commaSeparatedUpto ")" grammar.expr))
  else if (← keywordAt 0) == "USING" then return
  else unless (← get).isEmpty do passOver (commaSeparatedUpto ";" grammar.expr)

/-- A statement behind `EXECUTE`. -/
def execute (grammar : Grammar) : Parser Statement := do
  passOver path
  parameters grammar
  passOver (after? ["USING"] (commaSeparated grammar.expr))
  return .other

/-- A statement behind `DEALLOCATE`. -/
def deallocate : Parser Statement := do
  passOver (keyword? "PREPARE")
  passOver ident
  return .other

end ScatterGather.Sql.Parser
