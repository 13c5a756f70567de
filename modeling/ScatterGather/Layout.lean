/-
**Layouts.**

* `Layout`: the shards of a logical database and, for every table, the shards that hold it and the
  rule that spreads its rows, as they are declared;
* `Layout.demo`: a small layout of a given number of shards.
-/
import ScatterGather.Sharding.Placement

namespace ScatterGather

/-- How the rows of a table lie on its shards. -/
inductive TableKind where
  /-- Every row is on one shard. -/
  | normal
  /-- Every shard holds all rows. -/
  | global
  deriving DecidableEq, Repr, Inhabited

/-- How a declared rule spreads rows. -/
inductive Spread where
  | hash
  /-- One upper bound for each shard of the table, in the order of its shards. -/
  | range (bounds : List Int64)
  deriving DecidableEq, Repr, Inhabited

/-- A declared rule: the sharding column, and how its values are spread. -/
structure RuleLayout where
  column : String
  spread : Spread
  deriving DecidableEq, Repr, Inhabited

/-- A declared table. -/
structure TableLayout where
  name : String
  kind : TableKind := .normal
  shards : List ShardId
  rule : Option RuleLayout := none
  deriving DecidableEq, Repr, Inhabited

/-- A declared database. -/
structure Layout where
  name : String
  shards : List ShardId
  tables : List TableLayout := []
  deriving DecidableEq, Repr, Inhabited

namespace Layout

/-- The shards of the demo layout. There is always one. -/
def demoShards (count : UInt32) : List ShardId :=
  (List.range (max count.toNat 1)).map UInt32.ofNat

/-- The upper bound of a shard's thousand. -/
def demoBound (shard : ShardId) : Int64 :=
  Int64.ofNat ((shard.toNat + 1) * 1000)

/-- A layout with one table of each kind: `users` by hash of `id`, `orders` by ranges of a thousand
`order_id`s, and `countries` on every shard. -/
def demo (count : UInt32) : Layout :=
  let shards := demoShards count
  { name := "demo"
    shards
    tables := [
      { name := "users", shards, rule := some ⟨"id", .hash⟩ },
      { name := "orders", shards, rule := some ⟨"order_id", .range (shards.map demoBound)⟩ },
      { name := "countries", kind := .global, shards }] }

end Layout

end ScatterGather
