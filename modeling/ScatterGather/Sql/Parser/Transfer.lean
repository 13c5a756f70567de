/-
**Reading statements that copy rows from and to files.**

None of them names a table that decides where it goes, so only their form is checked.

* `Parser.copy`, `Parser.unload`: a statement behind its first keyword. The rows that a copy reads
  from the text itself end with a backslash and a point.
-/
import ScatterGather.Sql.Parser.Column

namespace ScatterGather.Sql.Parser

/-! ### Options -/

/-- A text of one character of ASCII. -/
def singleCharacter : Parser Unit := do
  if (← stringOrWord).utf8ByteSize = 1 then return else refuse

/-- Whether an option is switched on, where it is told. -/
def switch : Parser Unit :=
  passOver (oneOf? ["TRUE", "FALSE"])

/-- An option of a copy. -/
def copyOption : Parser Unit := do
  match ← expectOneOf ["FORMAT", "FREEZE", "DELIMITER", "NULL", "HEADER", "QUOTE", "ESCAPE",
      "FORCE_QUOTE", "FORCE_NOT_NULL", "FORCE_NULL", "ENCODING"] with
  | "FORMAT" => passOver ident
  | "FREEZE" | "HEADER" => switch
  | "DELIMITER" | "QUOTE" | "ESCAPE" => singleCharacter
  | "NULL" | "ENCODING" => passOver stringOrWord
  | _ => passOver identList

/-- An option of separated values, in the older form. -/
def separatedOption : Parser Unit := do
  match ← expectOneOf ["HEADER", "QUOTE", "ESCAPE", "FORCE"] with
  | "HEADER" => return
  | "FORCE" =>
    unless ← either? (keywords? ["NOT", "NULL"]) (keyword? "QUOTE") do refuse
    passOver (commaSeparated ident)
  | _ =>
    passOver (keyword? "AS")
    singleCharacter

/-- An option of a copy, in the older form. -/
def olderOption : Parser Unit := do
  match ← expectOneOf ["BINARY", "DELIMITER", "NULL", "CSV"] with
  | "BINARY" => return
  | "DELIMITER" =>
    passOver (keyword? "AS")
    singleCharacter
  | "NULL" =>
    passOver (keyword? "AS")
    passOver stringOrWord
  | _ => passOver (many (attempt? separatedOption))

/-! ### Statements -/

/-- The tokens behind the rows in a text. A token behind a backslash belongs to the rows, unless it
is a point. -/
def afterRows : List Token → List Token
  | .symbol "\\" :: .symbol "." :: rest => rest
  | .symbol "\\" :: _ :: rest => afterRows rest
  | _ :: rest => afterRows rest
  | [] => []

/-- What a copy reads or writes; tells whether it is a query. -/
def copied (grammar : Grammar) : Parser Bool := do
  if ← symbolAt 0 "(" then
    passOver (inParens grammar.query)
    return true
  else
    passOver path
    passOver identList?
    return false

/-- A statement behind `COPY`. -/
def copy (grammar : Grammar) : Parser Statement := do
  let isQuery ← copied grammar
  if (← expectOneOf ["FROM", "TO"]) == "FROM" && isQuery then refuse
  let place ← oneOf? ["STDIN", "STDOUT", "PROGRAM"]
  match place with
  | some "STDIN" | some "STDOUT" => pure ()
  | _ => passOver stringOrWord
  passOver (keyword? "WITH")
  if ← symbolAt 0 "(" then passOver (inParens (commaSeparated copyOption))
  passOver (many (attempt? olderOption))
  if place == some "STDIN" then
    expectSymbol ";"
    modify afterRows
  return .other

/-- A statement behind `UNLOAD`. -/
def unload (grammar : Grammar) : Parser Statement := do
  passOver (inParens grammar.query)
  expectKeyword "TO"
  passOver ident
  options grammar "WITH"
  return .other

end ScatterGather.Sql.Parser
