/-
**Schemas.**

* `Schema`: the tables of a consistent layout, with the rules that place their rows;
* `LayoutError`: why a layout is not consistent;
* `Schema.ofLayout`: the schema of a layout. Tables are checked in the order of their declaration; in
  each one the shards come before the bounds, and the bounds before the name;
* `Schema.table?`: the table that a statement's name means.
-/
import ScatterGather.Text.Case
import ScatterGather.Layout
import ScatterGather.Sql.Quoted

namespace ScatterGather

/-- A rule: the sharding column in uppercase, and where its values are placed. -/
structure Rule where
  column : String
  placement : Placement
  deriving DecidableEq, Repr, Inhabited

/-- A table with its shards in ascending order. -/
structure Table where
  name : String
  kind : TableKind
  shards : List ShardId
  rule : Option Rule
  deriving DecidableEq, Repr, Inhabited

/-- A database with its shards in ascending order and its tables as they were declared. -/
structure Schema where
  name : String
  shards : List ShardId
  tables : List Table
  deriving DecidableEq, Repr, Inhabited

/-- Why a layout is not consistent. -/
inductive LayoutError where
  | noShards (schema : String)
  | tableWithoutShards (table : String)
  | unknownShard (schema table : String) (shard : ShardId)
  | duplicateShard (table : String) (shard : ShardId)
  | duplicateTable (table : String)
  | boundCount (table : String) (bounds shards : Nat)
  | unorderedBounds (table : String)
  deriving DecidableEq, Repr

/-- The text of a fault in a layout. -/
def LayoutError.message : LayoutError → String
  | noShards schema => s!"schema '{schema}' declares no shards"
  | tableWithoutShards table => s!"table '{table}' declares no shards"
  | unknownShard schema table shard =>
    s!"table '{table}' uses shard {shard} which schema '{schema}' does not declare"
  | duplicateShard table shard => s!"table '{table}' lists shard {shard} more than once"
  | duplicateTable table => s!"table '{table}' is declared more than once"
  | boundCount table bounds shards =>
    s!"range rule of table '{table}' has {bounds} bound(s) for {shards} shard(s)"
  | unorderedBounds table => s!"range rule of table '{table}' must have strictly increasing bounds"

/-! ### Tables -/

namespace Table

/-- Tells whether every shard of a table holds all its rows. -/
def isGlobal (table : Table) : Bool :=
  table.kind == .global

/-- The name by which a table is found. -/
def key (table : Table) : String :=
  Text.upper table.name

/-- The sharding column of a table that has a rule. -/
def ruleColumn? (table : Table) : Option String :=
  table.rule.map Rule.column

/-- Adds the shards of a table one by one to those before them. -/
def addShards (schema table : String) (known : List ShardId) :
    List ShardId → List ShardId → Except LayoutError (List ShardId)
  | seen, [] => .ok seen
  | seen, shard :: rest =>
    if !known.contains shard then .error (.unknownShard schema table shard)
    else if seen.contains shard then .error (.duplicateShard table shard)
    else addShards schema table known (Ascending.insert shard seen) rest

/-- Tells whether each bound is less than the next one. -/
def areIncreasing : List Int64 → Bool
  | lower :: upper :: rest => lower < upper && areIncreasing (upper :: rest)
  | _ => true

/-- The placement that a table's rule declares. -/
def placement (table : TableLayout) : Spread → Except LayoutError Placement
  | .hash => .ok (.ofShards table.shards)
  | .range bounds =>
    if bounds.length ≠ table.shards.length then
      .error (.boundCount table.name bounds.length table.shards.length)
    else if !areIncreasing bounds then .error (.unorderedBounds table.name)
    else .ok (.range (bounds.zip table.shards))

/-- The rule of a table. -/
def ruleOfLayout (table : TableLayout) : Except LayoutError (Option Rule) :=
  match table.rule with
  | none => .ok none
  | some rule =>
    (placement table rule.spread).map fun placement =>
      some { column := Text.upper rule.column, placement }

/-- The table that a declaration makes, among the shards of its schema. -/
def ofLayout (schema : String) (known : List ShardId) (table : TableLayout) :
    Except LayoutError Table :=
  if table.shards.isEmpty then .error (.tableWithoutShards table.name)
  else do
    let shards ← addShards schema table.name known [] table.shards
    let rule ← ruleOfLayout table
    return { name := table.name, kind := table.kind, shards, rule }

end Table

/-! ### Schemas -/

namespace Schema

/-- Adds declared tables one by one to those before them. -/
def addTables (schema : String) (known : List ShardId) :
    List Table → List TableLayout → Except LayoutError (List Table)
  | found, [] => .ok found
  | found, declared :: rest => do
    let table ← Table.ofLayout schema known declared
    if found.any fun other => other.key == table.key then
      .error (.duplicateTable declared.name)
    else addTables schema known (found ++ [table]) rest

/-- The schema of a layout. -/
def ofLayout (layout : Layout) : Except LayoutError Schema := do
  let shards := Ascending.ofList layout.shards
  if shards.isEmpty then .error (.noShards layout.name)
  else
    let tables ← addTables layout.name shards [] layout.tables
    return { name := layout.name, shards, tables }

/-- The part of a name behind its last point. -/
def lastPart (name : List Char) : List Char :=
  (name.reverse.takeWhile (· != '.')).reverse

/-- Tells whether a character is a quote that may surround a table's name. -/
def isNameQuote (c : Char) : Bool :=
  c == Sql.identifierQuote || c == Sql.doubleQuote

/-- The name by which the table is found that a statement's name means: its last part, without
quotes around it, in uppercase. -/
def keyOf (name : String) : String :=
  let bare := (lastPart name.toList).dropWhile isNameQuote
  Text.upper (String.ofList (bare.reverse.dropWhile isNameQuote).reverse)

/-- The table that a statement's name means. -/
def table? (schema : Schema) (name : String) : Option Table :=
  schema.tables.find? fun table => table.key == keyOf name

/-- The names of the tables in order. -/
def tableNames (schema : Schema) : List String :=
  Ascending.ofList (schema.tables.map Table.name)

end Schema

end ScatterGather
