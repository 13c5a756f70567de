/-
**Gathering rows.**

* `Gathering`: the rows of all shards on their way to one result;
* `Gathering.learn`, `Gathering.add`, `Gathering.take`: the columns made known, a row added, and all rows
  taken in the order of the result.
-/
import ScatterGather.Gather.RowOrder

namespace ScatterGather

open Wire

/-- Why columns or a row are refused. -/
inductive GatherError where
  | unknownOrderColumn (name : String)
  | notInitialized
  | row (cause : PacketError)
  deriving DecidableEq, Repr

/-- The text of a refusal. -/
def GatherError.message : GatherError → String
  | unknownOrderColumn name => s!"ORDER BY column {name} is not in the result"
  | notInitialized => "rows offered before the column layout was known"
  | row cause => "malformed row: " ++ cause.message

/-- The rows of all shards on their way to one result. -/
structure Gathering where
  window : Window
  orderBy : List OrderKey
  /-- The columns to sort by, as the last known columns have them. -/
  sortKeys : List SortKey := []
  fieldCount : Option Nat := none
  /-- The rows as they came in. -/
  rows : List Row := []
  deriving DecidableEq, Repr, Inhabited

namespace Gathering

/-- The column of a name. Of two of the same name, the last counts. -/
def lookup? (columns : List (String × Column)) (name : String) : Option Column :=
  (columns.reverse.find? fun column => column.1 == name).map Prod.snd

/-- The column that an order key means. -/
def resolve (columns : List (String × Column)) (key : OrderKey) : Except GatherError SortKey :=
  match lookup? columns key.column with
  | some column => .ok ⟨column, key.ascending⟩
  | none => .error (.unknownOrderColumn key.column)

/-- Makes the columns of the rows known by their uppercase names. -/
def learn (gathering : Gathering) (columns : List (String × Column)) (fieldCount : Nat) :
    Except GatherError Gathering := do
  let sortKeys ← gathering.orderBy.mapM (resolve columns)
  return { gathering with sortKeys, fieldCount := some fieldCount }

/-- Adds a row. -/
def add (gathering : Gathering) (payload : List UInt8) : Except GatherError Gathering :=
  match gathering.fieldCount with
  | none => .error .notInitialized
  | some fieldCount =>
    match Row.read payload fieldCount with
    | .ok row => .ok { gathering with rows := gathering.rows ++ [row] }
    | .error cause => .error (.row cause)

/-- The rows in the order of the result. -/
def merged (gathering : Gathering) : List Row :=
  if gathering.sortKeys.isEmpty then gathering.rows
  else sortRows (compareRows gathering.sortKeys) gathering.rows

/-- The rows in the order of the result, and what is left without them. -/
def take (gathering : Gathering) : List Row × Gathering :=
  (gathering.merged, { gathering with rows := [] })

end Gathering

end ScatterGather
