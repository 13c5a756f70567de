/-
**Placement of key values on shards.**

* `Placement`: by hash over a set of shards, or by ranges of whole numbers;
* `Placement.place`: the shard of one value;
* `Placement.placeAll`: the shards of a set of values, in ascending order, each once; the first
  value that cannot be placed makes it fail;
* `Bounds.position`: where a key belongs among ascending bounds, by halving.
-/
import ScatterGather.Ascending
import ScatterGather.Sharding.KeyValue

namespace ScatterGather

/-- The number of a shard. -/
abbrev ShardId := UInt32

/-- A rule that spreads key values over shards. -/
inductive Placement where
  /-- By hash over shards in ascending order. -/
  | hash (shards : List ShardId)
  /-- By upper bounds, each of which ends the range of its shard and is itself outside of it. -/
  | range (bounds : List (Int64 × ShardId))
  deriving DecidableEq, Repr, Inhabited

/-- Why a value cannot be placed; `placement` describes the rule. -/
inductive PlacementError where
  | notAnInteger (value placement : String)
  | outOfRange (value placement : String)
  deriving DecidableEq, Repr

/-- The text of a failure to place a value. -/
def PlacementError.message : PlacementError → String
  | notAnInteger value placement =>
    s!"value {value} is not an integer, range function on {placement} cannot place it"
  | outOfRange value placement => s!"value {value} is beyond the last bound of {placement}"

namespace Bounds

/-- The number of bounds at most equal to a key, where the bounds ascend: of `size` bounds from
`base` on, the half is kept in which the key belongs. -/
def search (bounds : Array Int64) (key : Int64) (base size : Nat) : Nat :=
  if size ≤ 1 then
    if bounds[base]?.any (· ≤ key) then base + 1 else base
  else
    let half := size / 2
    let start := if bounds[base + half]?.any (· ≤ key) then base + half else base
    search bounds key start (size - half)
termination_by size

/-- Where a key belongs among bounds. -/
def position (bounds : List Int64) (key : Int64) : Nat :=
  search bounds.toArray key 0 bounds.length

end Bounds

namespace Placement

/-- The rule by hash over the shards of a list in any order. -/
def ofShards (shards : List ShardId) : Placement :=
  .hash (Ascending.ofList shards)

/-- A rule as messages show it. -/
def describe : Placement → String
  | hash shards => "hash(shards=[" ++ ", ".intercalate (shards.map toString) ++ "])"
  | range bounds =>
    "range(" ++ ",".intercalate (bounds.map fun (upper, shard) => s!"<{upper}:{shard}") ++ ")"

/-- The shard of a value by hash; nothing where there are no shards. -/
def hashed? (shards : List ShardId) (value : KeyValue) : Option ShardId :=
  shards[(SeaHash.hash value.bytes).toNat % shards.length]?

/-- The shard of a value by its range. -/
def ranged (bounds : List (Int64 × ShardId)) (value : KeyValue) :
    Except PlacementError ShardId :=
  let placement := describe (.range bounds)
  match value.asInteger? with
  | none => .error (.notAnInteger value.display placement)
  | some key =>
    match bounds[Bounds.position (bounds.map Prod.fst) key]? with
    | some (_, shard) => .ok shard
    | none => .error (.outOfRange value.display placement)

/-- The shard of one value; nothing where a rule by hash has no shards. -/
def place (placement : Placement) (value : KeyValue) : Except PlacementError (Option ShardId) :=
  match placement with
  | hash shards => .ok (hashed? shards value)
  | range bounds => (ranged bounds value).map some

/-- The shards of a set of values. -/
def placeAll (placement : Placement) (values : List KeyValue) :
    Except PlacementError (List ShardId) := do
  let placed ← values.mapM placement.place
  return Ascending.ofList (placed.filterMap id)

end Placement

end ScatterGather
