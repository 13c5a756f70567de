/-
**Routing.**

* `Route`: a plan, or a statement that any one of some shards may run;
* `route`: where a statement goes. It goes to any shard if it is about no known table, to any copy if
  it reads a global table, to the shards of the keys it binds, or else to all shards of its table.
-/
import ScatterGather.Routing.Facts
import ScatterGather.Routing.Plan
import ScatterGather.Sql.Kind

namespace ScatterGather

open Sql

/-- Where a statement goes. -/
inductive Route where
  /-- To any one of some shards, which are in ascending order. -/
  | anyOf (shards : List ShardId) (sql : String)
  /-- To all shards of a plan. -/
  | all (plan : Plan)
  deriving DecidableEq, Repr

namespace Route

/-- The plan that a route comes to when one of several shards is picked. -/
def pick (choose : List ShardId → ShardId) : Route → Plan
  | anyOf [shard] sql => .single shard sql
  | anyOf shards sql => .single (choose shards) sql
  | all plan => plan

end Route

namespace Routing

/-- The character sets that a client may use, letter case ignored. -/
def charsets : List String :=
  ["utf8", "utf8mb3", "utf8mb4", "latin1", "ascii", "binary"]

/-- The shards of a table on which its rule places values. -/
def placed (table : Table) (values : List KeyValue) : Except RouteError (List ShardId) :=
  match table.rule with
  | none => .error (.noRule table.name)
  | some rule =>
    match rule.placement.placeAll values with
    | .error cause => .error (.placement cause)
    | .ok [] => .error (.nothingPlaced rule.placement.describe table.name)
    | .ok shards =>
      match shards.find? fun shard => !table.shards.contains shard with
      | some stray => .error (.placedOutside rule.placement.describe stray table.name)
      | none => .ok shards

/-- The one shard on which the rule of a table places a row. -/
def placedRow (table : Table) (row : KeyedRow) : Except RouteError (ShardId × Nat) := do
  match ← placed table [row.key] with
  | [shard] => return (shard, row.index)
  | shards => .error (.placedApart row.key.display table.name shards.length)

/-- The places of the rows by shard, the shards in ascending order. -/
def groupRows (rows : List (ShardId × Nat)) : List (ShardId × List Nat) :=
  rows.foldl (fun groups (shard, place) =>
    Ascending.put shard (fun places => places.getD [] ++ [place]) groups) []

/-- The outlets of an insertion: every shard gets the rows that belong to it. -/
def split (table : Table) (facts : Facts) (sql : String) : Except RouteError (List Outlet) := do
  match groupRows (← facts.rows.mapM (placedRow table)) with
  | [(shard, _)] => return [⟨shard, sql⟩]
  | groups => groups.mapM fun (shard, places) =>
    match facts.subset? places with
    | some subset => .ok ⟨shard, subset⟩
    | none => .error .rowsNotSplit

/-- The outlets of a statement about a table. -/
def outlets (table : Table) (facts : Facts) (sql : String) : Except RouteError (List Outlet) := do
  if facts.values.isEmpty then return table.shards.map fun shard => ⟨shard, sql⟩
  else if facts.rows.isEmpty then
    return (← placed table facts.values).map fun shard => ⟨shard, sql⟩
  else split table facts sql

/-- The plan of some outlets: where there are several, the window and the order of the statement
apply to the merged result. -/
def plan (facts : Facts) (outlets : List Outlet) : Plan :=
  if outlets.length < 2 then { outlets }
  else
    match facts.limit, facts.widened? with
    | some limit, some sql =>
      { outlets := outlets.map fun outlet => { outlet with sql }
        window := ⟨limit.offset, some limit.limit⟩
        orderBy := facts.orderBy }
    | _, _ => { outlets, orderBy := facts.orderBy }

/-- Where a statement goes whose facts are known. -/
def ofFacts (schema : Schema) (facts : Facts) (sql : String) (kind : Kind) :
    Except RouteError Route :=
  match facts.table.bind schema.table? with
  | none => .ok (.anyOf schema.shards sql)
  | some table =>
    if table.isGlobal && kind.isRead then .ok (.anyOf table.shards sql)
    else (outlets table facts sql).map fun outlets => .all (plan facts outlets)

end Routing

/-- Where a statement goes that a client sends in a character set, where it is of a given kind. -/
def route (schema : Schema) (sql charset : String) (kind : Kind) : Except RouteError Route := do
  if Routing.charsets.any fun known => Text.sameIgnoringCase known charset then
    Routing.ofFacts schema (← Facts.ofText schema sql) sql kind
  else .error (.unknownCharset charset)

end ScatterGather
