/-
**Layouts in JSON.**

* `Layout.toJson`: the JSON form of a layout, with all its fields;
* `Layout.ofJson?`, `Layout.read?`: the layout that a JSON value or a text gives. Fields are found by
  name in any order, or by place in an array; unknown ones are passed over, repeated ones refused.
-/
import ScatterGather.Json
import ScatterGather.Layout

namespace ScatterGather

/-! ### Writing -/

/-- A text in JSON. -/
def Json.ofString (text : String) : Json :=
  .text (some text)

/-- Members with the names given. -/
def Json.record (members : List (String × Json)) : Json :=
  .object (members.map fun (name, value) => (some name, value))

/-- Shards in JSON. -/
def ShardId.listToJson (shards : List ShardId) : Json :=
  .array (shards.map fun shard => .integer shard.toNat)

/-- The JSON form of a kind of table. -/
def TableKind.toJson : TableKind → Json
  | normal => .ofString "normal"
  | global => .ofString "global"

/-- The JSON form of how rows are spread. -/
def Spread.toJson : Spread → Json
  | hash => .record [("kind", .ofString "hash")]
  | range bounds =>
    .record [("kind", .ofString "range"),
      ("bounds", .array (bounds.map fun bound => .integer bound.toInt))]

/-- The JSON form of a rule. -/
def RuleLayout.toJson (rule : RuleLayout) : Json :=
  .record [("column", .ofString rule.column), ("function", rule.spread.toJson)]

/-- The JSON form of a rule that may be missing. -/
def RuleLayout.toJson? : Option RuleLayout → Json
  | none => .null
  | some rule => rule.toJson

/-- The JSON form of a table. -/
def TableLayout.toJson (table : TableLayout) : Json :=
  .record [("name", .ofString table.name), ("type", table.kind.toJson),
    ("shards", ShardId.listToJson table.shards), ("rule", RuleLayout.toJson? table.rule)]

/-- The JSON form of a layout. -/
def Layout.toJson (layout : Layout) : Json :=
  .record [("name", .ofString layout.name), ("shards", ShardId.listToJson layout.shards),
    ("tables", .array (layout.tables.map TableLayout.toJson))]

/-! ### Reading -/

namespace Json

/-- A text that has a value. -/
def string? : Json → Option String
  | text value => value
  | _ => none

/-- The items of an array, each read by the same reader. -/
def list? {α : Type} (item? : Json → Option α) : Json → Option (List α)
  | array items => items.mapM item?
  | _ => none

/-- A shard's number. -/
def shard? : Json → Option ShardId
  | integer value => if 0 ≤ value ∧ value < 0x100000000 then some (UInt32.ofNat value.toNat) else none
  | _ => none

/-- A whole number of 64 bits. -/
def int64? : Json → Option Int64
  | integer value =>
    if -0x8000000000000000 ≤ value ∧ value < 0x8000000000000000 then some (Int64.ofInt value) else none
  | _ => none

end Json

/-- The kind of table by its name. -/
def TableKind.ofName? (name : String) : Option TableKind :=
  if name = "normal" then some .normal else if name = "global" then some .global else none

/-- The kind of table: its name, or an object whose only member has that name and no value. -/
def TableKind.ofJson? : Json → Option TableKind
  | .text (some name) => ofName? name
  | .object [(some name, .null)] => ofName? name
  | _ => none

/-- The greatest depth at which the spread of a table's rows is read. -/
def Spread.maxDepth : Nat := 123

/-- How rows are spread. The kind may stand anywhere among the members, but all of them have to be
sound before it is looked at; an array has the kind first. -/
def Spread.ofJson? (json : Json) : Option Spread :=
  if !json.isSound || maxDepth < json.depth then none
  else match json with
  | .object members =>
    match Json.valuesOf "kind" members with
    | [.text (some kind)] =>
      if kind = "hash" then some .hash
      else if kind = "range" then
        match Json.valuesOf "bounds" members with
        | [bounds] => (bounds.list? Json.int64?).map range
        | _ => none
      else none
    | _ => none
  | .array [.text (some kind)] => if kind = "hash" then some .hash else none
  | .array [.text (some kind), bounds] =>
    if kind = "range" then (bounds.list? Json.int64?).map range else none
  | _ => none

/-- A rule. -/
def RuleLayout.ofJson? (json : Json) : Option RuleLayout :=
  match json.fields? ["column", "function"] with
  | some [some column, some function] => do
    return { column := ← column.string?, spread := ← Spread.ofJson? function }
  | _ => none

/-- A value read where it is there, or a default. -/
def Json.orDefault {α : Type} (read : Json → Option α) (fallback : α) : Option Json → Option α
  | none => some fallback
  | some json => read json

/-- A rule, or none where there is no value. -/
def RuleLayout.ofNullable? : Json → Option (Option RuleLayout)
  | .null => some none
  | json => (ofJson? json).map some

/-- A table. Its kind and its rule may be left out. -/
def TableLayout.ofJson? (json : Json) : Option TableLayout :=
  match json.fields? ["name", "type", "shards", "rule"] with
  | some [some name, kind, some shards, rule] => do
    return {
      name := ← name.string?
      kind := ← Json.orDefault TableKind.ofJson? .normal kind
      shards := ← shards.list? Json.shard?
      rule := ← Json.orDefault RuleLayout.ofNullable? none rule }
  | _ => none

namespace Layout

/-- The layout that a JSON value gives. Its tables may be left out. -/
def ofJson? (json : Json) : Option Layout :=
  match json.fields? ["name", "shards", "tables"] with
  | some [some name, some shards, tables] => do
    return {
      name := ← name.string?
      shards := ← shards.list? Json.shard?
      tables := ← Json.orDefault (Json.list? TableLayout.ofJson?) [] tables }
  | _ => none

/-- The layout that a text gives. -/
def read? (text : String) : Option Layout :=
  (Json.read? text).bind ofJson?

end Layout

end ScatterGather
