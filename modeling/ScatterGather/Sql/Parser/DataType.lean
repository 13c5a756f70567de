/-
**Data types.**

* `DataType`: a type in its canonical spelling, known or of a name of its own;
* `DataType.builtin?`: how a known type that begins with a given keyword goes on;
* `Parser.dataType`: any type. Types nest in arrays, and the two angle brackets at the end of an
  array of arrays may be one token.
-/
import ScatterGather.Sql.Parser.Literal

namespace ScatterGather.Sql

open ScatterGather.Sql.Parser

/-- A data type in its canonical spelling. -/
structure DataType where
  spelling : String
  /-- Tells whether the type has a name of its own. -/
  custom : Bool := false
  deriving DecidableEq, Repr, Inhabited

namespace DataType

/-! ### Lengths and precisions -/

/-- A length or precision in parentheses, where one is written. -/
def precision? : Parser String := do
  if ← symbol? "(" then
    let digits ← whole
    expectSymbol ")"
    return s!"({digits})"
  else return ""

/-- A precision with an optional scale in parentheses, where they are written. -/
def scaled? : Parser String := do
  if ← symbol? "(" then
    let digits ← whole
    if ← symbol? "," then
      let scale ← whole
      expectSymbol ")"
      return s!"({digits},{scale})"
    else
      expectSymbol ")"
      return s!"({digits})"
  else return ""

/-- A length of characters or bytes in parentheses, where one is written. -/
def length? : Parser String := do
  if ← symbol? "(" then
    if ← keyword? "MAX" then
      expectSymbol ")"
      return "(MAX)"
    else
      let digits ← whole
      let unit := match ← oneOf? ["CHARACTERS", "OCTETS"] with
        | some unit => " " ++ unit
        | none => ""
      expectSymbol ")"
      return s!"({digits}{unit})"
  else return ""

/-! ### Types by their first word -/

/-- A width and the word for numbers without sign, where they are written. -/
def integer (name : String) : Parser String := do
  let width ← precision?
  let unsigned ← keyword? "UNSIGNED"
  return name ++ width ++ (if unsigned then " UNSIGNED" else "")

/-- A precision and a remark on the time zone, where they are written. -/
def timed (name : String) : Parser String := do
  let digits ← precision?
  if ← keyword? "WITH" then
    expectKeyword "TIME"
    expectKeyword "ZONE"
    return name ++ digits ++ " WITH TIME ZONE"
  else if ← keyword? "WITHOUT" then
    expectKeyword "TIME"
    expectKeyword "ZONE"
    return name ++ digits ++ " WITHOUT TIME ZONE"
  else return name ++ digits

/-- A precision and the name of a time zone. -/
def zoned (name : String) : Parser String := inParens do
  let digits ← whole
  if ← symbol? "," then
    let zone ← stringOrWord
    return s!"{name}({digits}, '{zone}')"
  else return s!"{name}({digits})"

/-- Characters of fixed, varying or very large number. -/
def character (name : String) : Parser String := do
  if ← keyword? "VARYING" then return name ++ " VARYING" ++ (← length?)
  else if ← keywords? ["LARGE", "OBJECT"] then
    return name ++ " LARGE OBJECT" ++ (← precision?)
  else return name ++ (← length?)

/-- One of several strings, each of which may have a number. -/
def choice (name : String) : Parser String := do
  let members ← inParens <| commaSeparated do
    let member := Quoted.write singleQuote (← stringOrWord)
    if ← symbol? "=" then return member ++ " = " ++ (← signedNumber) else return member
  return name ++ "(" ++ commaJoined members ++ ")"

/-- Any of several strings. -/
def choices (name : String) : Parser String := do
  let members ← inParens <| commaSeparated do return Quoted.write singleQuote (← singleQuoted)
  return name ++ "(" ++ commaJoined members ++ ")"

/-- The types without anything in parentheses, by their keywords. -/
def bare : List (String × String) :=
  ["BOOLEAN", "BOOL", "REAL", "FLOAT4", "FLOAT8", "FLOAT64", "INT64", "DATE", "UUID", "INTERVAL",
   "JSON", "JSONB", "REGCLASS", "TEXT", "TINYTEXT", "MEDIUMTEXT", "LONGTEXT", "TINYBLOB",
   "MEDIUMBLOB", "LONGBLOB", "BYTEA", "TRIGGER"].map (fun name => (name, name)) ++
  [("FLOAT32", "Float32"), ("INT16", "Int16"), ("INT32", "Int32"), ("INT128", "Int128"),
   ("INT256", "Int256"), ("UINT8", "UInt8"), ("UINT16", "UInt16"), ("UINT32", "UInt32"),
   ("UINT64", "UInt64"), ("UINT128", "UInt128"), ("UINT256", "UInt256"), ("DATE32", "Date32")]

/-- The types with an optional length. -/
def sized : List String :=
  ["FLOAT", "BINARY", "VARBINARY", "BLOB", "BYTES", "CLOB", "DATETIME", "STRING", "TIMESTAMPTZ",
   "TIMETZ"]

/-- The whole number types. -/
def integers : List String :=
  ["TINYINT", "SMALLINT", "MEDIUMINT", "INT", "INTEGER", "BIGINT", "INT2", "INT4", "INT8"]

/-- The types of decimal numbers. -/
def decimals : List String :=
  ["NUMERIC", "DECIMAL", "DEC", "BIGNUMERIC", "BIGDECIMAL"]

/-- The rest of a type that begins with a keyword, if one does and no other type is part of it. -/
def builtin? (keyword : String) : Option (Parser String) :=
  if let some spelling := bare.lookup keyword then some (pure spelling)
  else if sized.contains keyword then some do return keyword ++ (← precision?)
  else if integers.contains keyword then some (integer keyword)
  else if decimals.contains keyword then some do return keyword ++ (← scaled?)
  else match keyword with
  | "CHAR" | "CHARACTER" => some (character keyword)
  | "VARCHAR" | "NVARCHAR" => some do return keyword ++ (← length?)
  | "FIXEDSTRING" => some do
    let size ← inParens whole
    return s!"FixedString({size})"
  | "TIMESTAMP" | "TIME" => some (timed keyword)
  | "DATETIME64" => some (zoned "DateTime64")
  | "BIT" => some do
    let varying ← keyword? "VARYING"
    return (if varying then "BIT VARYING" else "BIT") ++ (← precision?)
  | "DOUBLE" => some do return if ← keyword? "PRECISION" then "DOUBLE PRECISION" else "DOUBLE"
  | "ENUM" | "ENUM8" | "ENUM16" => some (choice keyword)
  | "SET" => some (choices keyword)
  | _ => none

/-! ### Types of their own names -/

/-- What stands in the parentheses of a type that is not known. -/
def modifiers : Parser (List String) := do
  let found ← many do
    match ← peek with
    | some (.word ident _) => skip 1; return some [ident.text]
    | some (.number digits _) => skip 1; return some [digits]
    | some (.string quote text) =>
      if quote = singleQuote then
        skip 1
        return some [text]
      else return none
    | some (.symbol ",") => skip 1; return some []
    | _ => return none
  return found.flatten

/-- A type of its own name. -/
def ownName : Parser DataType := do
  let name ← path
  if ← symbol? "(" then
    let inside ← modifiers
    expectSymbol ")"
    return { custom := true
             spelling := if inside.isEmpty then pathText name
               else pathText name ++ "(" ++ commaJoined inside ++ ")" }
  else return { custom := true, spelling := pathText name }

/-! ### Arrays -/

/-- A closing angle bracket. `closed` tells whether the one before it closes this one, too, being
two brackets in one token; the answer tells the same of this one. -/
def closeAngle (closed : Bool) : Parser Bool := do
  if closed then return false
  else if ← symbol? ">" then return false
  else
    expectSymbol ">>"
    return true

/-- A type, and whether its last token also closes an array around it. -/
def rule (element : Parser (DataType × Bool)) : Parser (DataType × Bool) := do
  let (type, closed) ← do
    match ← peek with
    | some (.word _ "ARRAY") =>
      skip 1
      expectSymbol "<"
      let (inside, closed) ← element
      let closed ← closeAngle closed
      pure (({ spelling := "ARRAY<" ++ inside.spelling ++ ">" } : DataType), closed)
    | some (.word _ keyword) =>
      match builtin? keyword with
      | some rest =>
        skip 1
        pure (({ spelling := ← rest } : DataType), false)
      | none => pure (← ownName, false)
    | _ => refuse
  let dimensions ← many do
    if ← symbol? "[" then
      expectSymbol "]"
      return some "[]"
    else return none
  if dimensions.isEmpty then return (type, closed)
  else return ({ spelling := type.spelling ++ String.join dimensions }, closed)

end DataType

/-- A data type. -/
def Parser.dataType : Parser DataType := do
  match ← nested DataType.rule with
  | (type, false) => return type
  | (_, true) => refuse

/-- A data type in its canonical spelling. -/
def Parser.typeText : Parser String := do
  return (← dataType).spelling

end ScatterGather.Sql
