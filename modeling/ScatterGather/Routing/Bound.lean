/-
**Key values that a condition binds.**

* `keyLiteral?`: the key value of an expression that is a literal, a sign and parentheses included;
* `KeyColumn`: the sharding column as the condition of a statement may name it;
* `boundValues?`: the values to which a condition restricts the sharding column, if it does.
-/
import ScatterGather.Text.Case
import ScatterGather.Number.Binary64
import ScatterGather.Ascending
import ScatterGather.Sharding.KeyValue
import ScatterGather.Sql.Query

namespace ScatterGather

open Sql

/-! ### Literals -/

/-- The greatest size up to which every whole number is a double of its own. -/
def maxExact : Nat := 0x20000000000000

/-- The key value of a numeral. One that spells a whole number is that number, however it is
written, as long as a double holds it exactly; any other one keeps its text. -/
def keyNumber (digits : String) : KeyValue :=
  match Whole.int64? digits.toList with
  | some value => .integer value
  | none =>
    match (Binary64.read? digits.toList).bind Binary64.toWhole? with
    | some value =>
      if value.natAbs ≤ maxExact then .integer (Int64.ofInt value) else .text digits
    | none => .text digits

/-- A key value behind a minus sign. -/
def negated? : KeyValue → Option KeyValue
  | .integer value => some (.integer (-value))
  | .text value => some (.text ("-" ++ value))
  | _ => none

/-- The key value of an expression that is a literal. -/
def keyLiteral? : Expr → Option KeyValue
  | .literal (.number digits _) => some (keyNumber digits)
  | .literal (.string _ text) => some (.text text)
  | .literal (.boolean value) => some (.boolean value)
  | .literal .null => some .null
  | .unary .minus operand => (keyLiteral? operand).bind negated?
  | .nested inner => keyLiteral? inner
  | _ => none

/-! ### The sharding column -/

/-- The sharding column as a condition may name it. -/
structure KeyColumn where
  name : String
  /-- The names by which the relation that has the column is known, in uppercase. -/
  qualifiers : List String
  /-- Whether the relation is the only one, so that the column's name alone means it. -/
  sole : Bool
  deriving DecidableEq, Repr

namespace KeyColumn

/-- The names by which a relation is known. An alias hides the name of its table. -/
def qualifiersOf : Relation → List String
  | .table table =>
    match table.byname with
    | some byname => [Text.upper byname.name.name]
    | none =>
      Text.upper (pathName table.name) ::
        table.name.getLast?.toList.map fun last => Text.upper last.name
  | _ => []

/-- Tells whether the names before a column's name mean the relation that has the key column. -/
def qualifiedBy (key : KeyColumn) (qualifier : List Ident) : Bool :=
  let parts := qualifier.map fun part => Text.upper part.name
  key.qualifiers.any fun known =>
    known == joined "." parts || known == parts.getLast?.getD ""

/-- Tells whether a name is that of the key column. -/
def isNamed (key : KeyColumn) (column : Ident) : Bool :=
  Text.sameIgnoringCase column.name key.name

/-- Tells whether an expression is the key column. -/
def isMeantBy (key : KeyColumn) : Expr → Bool
  | .column [column] => key.sole && key.isNamed column
  | .column path =>
    match path.getLast? with
    | some column => key.isNamed column && key.qualifiedBy path.dropLast
    | none => false
  | .nested inner => key.isMeantBy inner
  | _ => false

end KeyColumn

/-! ### Conditions -/

/-- What both of two conditions together bind. Two sets of values with nothing in common leave the
first one to decide. -/
def boundByBoth : Option (List KeyValue) → Option (List KeyValue) → Option (List KeyValue)
  | some left, some right =>
    let both := Ascending.inter left right
    some (if both.isEmpty then left else both)
  | some left, none => some left
  | none, right => right

/-- What either of two conditions binds: nothing unless both do. -/
def boundByEither (left right : Option (List KeyValue)) : Option (List KeyValue) := do
  return Ascending.union (← left) (← right)

/-- What the equality of two expressions binds. -/
def boundByEquality (key : KeyColumn) (left right : Expr) : Option (List KeyValue) :=
  if key.isMeantBy left then (keyLiteral? right).map ([·])
  else if key.isMeantBy right then (keyLiteral? left).map ([·])
  else none

/-- The values to which a condition restricts the key column; nothing where it may be any. -/
def boundValues? (key : KeyColumn) : Expr → Option (List KeyValue)
  | .nested inner => boundValues? key inner
  | .binary left .eq right => boundByEquality key left right
  | .binary left .and right => boundByBoth (boundValues? key left) (boundValues? key right)
  | .binary left .or right => boundByEither (boundValues? key left) (boundValues? key right)
  | .inList subject candidates false =>
    if key.isMeantBy subject then (candidates.mapM keyLiteral?).map Ascending.ofList else none
  | _ => none

end ScatterGather
