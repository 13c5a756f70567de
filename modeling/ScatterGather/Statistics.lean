/-
**Statistics of statements.**

* `ShardStats`: how many statements a shard has run, and how long they took;
* `Statistics.record`: one more statement of a shard;
* `Statistics.record?`: the same, unless the times of the shard, taken together, get longer than any time that
  can be told;
* `ShardStats.average?`: the mean time of a statement. The number of statements divides modulo 2 ^ 32,
  so there is none where it is a multiple of that other than zero;
* `durationText`: a time in the largest unit of which there is one, with all its decimals.
-/
import ScatterGather.Ascending
import ScatterGather.Sharding.Placement

namespace ScatterGather

/-- What is known of the statements of a shard. Times are in nanoseconds. -/
structure ShardStats where
  shard : ShardId
  /-- The number of statements. It has no bound here, while a counter of 64 bits wraps at 2 ^ 64: that is
  told apart only by so many statements, which no shard can run. -/
  statements : Nat := 0
  total : Nat := 0
  slowest : Nat := 0
  deriving DecidableEq, Repr, Inhabited

/-- A statement that a shard has run, and how long it took. -/
structure Timing where
  shard : ShardId
  elapsed : Nat
  deriving DecidableEq, Repr, Inhabited

/-! ### Times -/

/-- The longest time that can be told: a nanosecond less than 2 ^ 64 seconds. -/
def longestTime : Nat := UInt64.size * 1000000000 - 1

/-- The decimals of a fraction of `10 ^ places`, without the zeros at their end. -/
def decimals (places fraction : Nat) : String :=
  let digits := (toString (Nat.pow 10 places + fraction)).toList.drop 1
  let kept := (digits.reverse.dropWhile (· == '0')).reverse
  if kept.isEmpty then "" else String.ofList ('.' :: kept)

/-- A number of nanoseconds in a unit of `10 ^ places` of them. -/
def inUnit (places : Nat) (unit : String) (nanos : Nat) : String :=
  toString (nanos / Nat.pow 10 places) ++ decimals places (nanos % Nat.pow 10 places) ++ unit

/-- A time in the largest unit of which there is one. -/
def durationText (nanos : Nat) : String :=
  if 1000000000 ≤ nanos then inUnit 9 "s" nanos
  else if 1000000 ≤ nanos then inUnit 6 "ms" nanos
  else if 1000 ≤ nanos then inUnit 3 "µs" nanos
  else inUnit 0 "ns" nanos

/-! ### Shards -/

namespace ShardStats

/-- The statistics after one more statement. -/
def add (stats : ShardStats) (elapsed : Nat) : ShardStats :=
  { stats with
    statements := stats.statements + 1
    total := stats.total + elapsed
    slowest := max stats.slowest elapsed }

/-- The mean time of a statement, rounded down. -/
def average? (stats : ShardStats) : Option Nat :=
  if stats.statements = 0 then some 0
  else
    let divisor := stats.statements % 0x100000000
    if divisor = 0 then none else some (stats.total / divisor)

/-- The statistics of a shard in words. -/
def format? (stats : ShardStats) : Option String :=
  stats.average?.map fun average =>
    s!"Shard {stats.shard}: {stats.statements} statement(s), avg {durationText average}, " ++
      s!"max {durationText stats.slowest}"

end ShardStats

/-- The statistics of all shards, in ascending order. -/
structure Statistics where
  shards : List (ShardId × ShardStats) := []
  deriving DecidableEq, Repr, Inhabited

namespace Statistics

/-- The statistics after one more statement, with no bound for the number of statements and for their times;
the times are bounded by `record?`. -/
def record (statistics : Statistics) (timing : Timing) : Statistics :=
  ⟨Ascending.put timing.shard
    (fun stats => (stats.getD { shard := timing.shard }).add timing.elapsed) statistics.shards⟩

/-- What is known of the statements of a shard. -/
def known (statistics : Statistics) (shard : ShardId) : ShardStats :=
  (statistics.shards.lookup shard).getD { shard }

/-- The statistics after one more statement. There are none if the times of its shard, taken together, are
too long to be told. -/
def record? (statistics : Statistics) (timing : Timing) : Option Statistics :=
  if (statistics.known timing.shard).total + timing.elapsed ≤ longestTime then
    some (statistics.record timing)
  else none

/-- The statistics of the shards that have run statements, in ascending order. -/
def snapshot (statistics : Statistics) : List ShardStats :=
  statistics.shards.map Prod.snd

/-- The statistics of some statements. -/
def ofList (timings : List Timing) : Statistics :=
  timings.foldl record {}

/-- The statistics of some statements, if all times can be told. -/
def ofList? (timings : List Timing) : Option Statistics :=
  timings.foldlM record? {}

end Statistics

end ScatterGather
