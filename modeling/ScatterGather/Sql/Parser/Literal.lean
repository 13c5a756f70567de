/-
**Reading literals.**

* `Parser.literal`: a value that is written out, or a mark for one to be bound later;
* `Parser.signedNumber`: a number with its sign;
* `Parser.spanUnit`, `Parser.timeUnit`: units of time.
-/
import ScatterGather.Sql.Escaped
import ScatterGather.Sql.Parser

namespace ScatterGather.Sql.Parser

/-! ### Values -/

/-- The text of a literal behind a letter, as it was written. -/
def markedText (mark quote : Char) (text : String) : String :=
  String.ofList (mark :: quote :: (text.toList ++ [quote]))

/-- A literal that is one token, or a sign and a name for a value to be bound later. -/
def literal : Parser Literal := do
  match ← next with
  | .number digits long => return .number digits long
  | .string quote text => return .string quote text
  | .marked mark quote text => return .other (markedText mark quote text)
  | .escaped text => return .other (Escaped.write text)
  | .placeholder mark => return .other mark
  | .word _ "TRUE" => return .boolean true
  | .word _ "FALSE" => return .boolean false
  | .word _ "NULL" => return .null
  | .symbol mark =>
    if mark = ":" ∨ mark = "@" then
      match ← next with
      | .word ident _ => return .other (mark ++ ident.name)
      | .number digits false => return .other (mark ++ digits)
      | _ => refuse
    else refuse
  | _ => refuse

/-- The text of a literal. -/
def literalText : Parser String :=
  Literal.text <$> literal

/-- A number, or a mark for a value to be bound later. -/
def numberOrMark : Parser String := do
  match ← peek with
  | some (.number ..) | some (.placeholder _) | some (.symbol _) => literalText
  | _ => refuse

/-- A number with its sign, or a mark for a value to be bound later. -/
def signedNumber : Parser String := do
  if ← symbol? "+" then return "+" ++ (← numberOrMark)
  else if ← symbol? "-" then return "-" ++ (← numberOrMark)
  else numberOrMark

/-! ### Units of time -/

/-- A unit of time that a span may be counted in. -/
def spanUnit : Parser String :=
  expectOneOf Keyword.spanUnits

/-- A unit of time that a part of a date may be. -/
def timeUnit : Parser String :=
  expectOneOf Keyword.timeUnits

end ScatterGather.Sql.Parser
