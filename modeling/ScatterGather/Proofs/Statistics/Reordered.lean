/-
**Statistics in any order of statements.**

* `Lists`: what a list of statistics tells of some statements, shard by shard and without a table;
* `lists_snapshot`, `Lists.eq_snapshot`, `lists_iff` — **the snapshot** is the one list that does;
* `lists_perm`: what is listed does not tell in which order the statements have run;
* `Fits`: the times of each shard, taken together, can be told;
* `record?_ofList`, `ofList?_eq_some` — one more statement is recorded as long as its shard's times fit, so
  that **all are recorded** exactly if each shard's times do;
* `snapshot_in_any_order` — statements that complete in any order give **the same snapshot**, or none at all.
-/
import Mathlib.Data.List.Basic
import ScatterGather.Proofs.Statistics.Recorded

namespace ScatterGather

namespace ShardStats

/-- The longest of some times stands among them. -/
theorem longest_among {times : List Nat} (some : times ≠ []) :
    times.foldl max 0 ∈ times ∧ ∀ time ∈ times, time ≤ times.foldl max 0 := by
  cases times with
  | nil => exact absurd rfl some
  | cons time rest =>
    rw [List.foldl_cons, Nat.zero_max]
    exact List.max?_eq_some_iff.mp List.max?_cons'

theorem times_perm {timings other : List Timing} (reordered : other.Perm timings) (shard : ShardId) :
    (times shard other).Perm (times shard timings) :=
  (reordered.filter _).map Timing.elapsed

end ShardStats

namespace Statistics

open ShardStats (times ofTimings)

/-! ### What is listed -/

/-- A list of statistics tells of some statements: each shard that ran one stands in it once, in ascending
order, and with it how many statements it ran, their times taken together, and the longest of these. -/
structure Lists (told : List ShardStats) (timings : List Timing) : Prop where
  ascending : (told.map ShardStats.shard).Pairwise (· < ·)
  shards : ∀ shard, shard ∈ told.map ShardStats.shard ↔ shard ∈ timings.map Timing.shard
  statements : ∀ stats ∈ told, stats.statements = (times stats.shard timings).length
  total : ∀ stats ∈ told, stats.total = (times stats.shard timings).sum
  slowest : ∀ stats ∈ told, stats.slowest ∈ times stats.shard timings ∧
    ∀ time ∈ times stats.shard timings, time ≤ stats.slowest

theorem map_shard_snapshot (timings : List Timing) :
    (ofList timings).snapshot.map ShardStats.shard = Ascending.ofList (timings.map Timing.shard) := by
  rw [snapshot_ofList, List.map_map]
  exact List.map_id _

/-- **The snapshot** lists the statements that have run. -/
theorem lists_snapshot (timings : List Timing) : Lists (ofList timings).snapshot timings where
  ascending := by
    rw [map_shard_snapshot]
    exact (Ascending.ofList_ascending _).imp Std.compare_eq_lt.mp
  shards shard := by rw [map_shard_snapshot, Ascending.mem_ofList]
  statements stats inside := congrArg ShardStats.statements (mem_snapshot.mp inside).2
  total stats inside := congrArg ShardStats.total (mem_snapshot.mp inside).2
  slowest stats inside := by
    obtain ⟨ran, same⟩ := mem_snapshot.mp inside
    have longest : stats.slowest = (times stats.shard timings).foldl max 0 :=
      congrArg ShardStats.slowest same
    rw [longest]
    exact ShardStats.longest_among fun none => ShardStats.times_eq_nil.mp none ran

section Listed

variable {told : List ShardStats} {timings other : List Timing}

/-- What is listed of a shard is all that there is to know of it. -/
theorem Lists.eq_ofTimings (lists : Lists told timings) {stats : ShardStats} (inside : stats ∈ told) :
    stats = ofTimings stats.shard timings := by
  obtain ⟨among, greatest⟩ := lists.slowest stats inside
  obtain ⟨longest, above⟩ := ShardStats.longest_among (List.ne_nil_of_mem among)
  have slowest := Nat.le_antisymm (above _ among) (greatest _ longest)
  rw [ShardStats.ofTimings_eq, ← lists.statements stats inside, ← lists.total stats inside, ← slowest]

/-- **No other list** tells of the same statements. -/
theorem Lists.eq_snapshot (lists : Lists told timings) : told = (ofList timings).snapshot := by
  have shards : told.map ShardStats.shard = Ascending.ofList (timings.map Timing.shard) := by
    refine Ascending.eq_of_mem_iff (lists.ascending.imp Std.compare_eq_lt.mpr)
      (Ascending.ofList_ascending _) fun shard => ?_
    rw [lists.shards, Ascending.mem_ofList]
  calc told = told.map id := (List.map_id told).symm
    _ = told.map ((ofTimings · timings) ∘ ShardStats.shard) :=
        List.map_congr_left fun _ inside => lists.eq_ofTimings inside
    _ = (told.map ShardStats.shard).map (ofTimings · timings) := List.map_map.symm
    _ = (ofList timings).snapshot := by rw [shards, snapshot_ofList]

theorem lists_iff : Lists told timings ↔ told = (ofList timings).snapshot :=
  ⟨Lists.eq_snapshot, fun same => same ▸ lists_snapshot timings⟩

/-- The statements that are listed may have run in any order. -/
theorem Lists.congr (lists : Lists told timings) (reordered : other.Perm timings) :
    Lists told other where
  ascending := lists.ascending
  shards shard := (lists.shards shard).trans (reordered.map Timing.shard).mem_iff.symm
  statements stats inside := by
    rw [lists.statements stats inside, (ShardStats.times_perm reordered stats.shard).length_eq]
  total stats inside := by
    rw [lists.total stats inside, (ShardStats.times_perm reordered stats.shard).sum_nat]
  slowest stats inside := by
    have same {time : Nat} := (ShardStats.times_perm reordered stats.shard).mem_iff (a := time)
    obtain ⟨among, greatest⟩ := lists.slowest stats inside
    exact ⟨same.mpr among, fun time found => greatest time (same.mp found)⟩

theorem lists_perm (reordered : other.Perm timings) : Lists told other ↔ Lists told timings :=
  ⟨fun lists => lists.congr reordered.symm, fun lists => lists.congr reordered⟩

end Listed

/-! ### What is recorded -/

/-- The times of each shard's statements, taken together, can be told. -/
def Fits (timings : List Timing) : Prop :=
  ∀ shard, (times shard timings).sum ≤ longestTime

theorem fits_concat {timings : List Timing} {timing : Timing} :
    Fits (timings ++ [timing]) ↔
      Fits timings ∧ (times timing.shard timings).sum + timing.elapsed ≤ longestTime := by
  have own : (times timing.shard (timings ++ [timing])).sum =
      (times timing.shard timings).sum + timing.elapsed := by
    rw [ShardStats.times_concat, if_pos rfl, List.sum_append, List.sum_singleton]
  constructor
  · intro fits
    refine ⟨fun shard => Nat.le_trans ?_ (fits shard), own ▸ fits timing.shard⟩
    rw [ShardStats.times_concat]
    split
    · rw [List.sum_append]
      exact Nat.le_add_right _ _
    · exact Nat.le_refl _
  · rintro ⟨fits, more⟩ shard
    by_cases same : timing.shard = shard
    · subst same
      rw [own]
      exact more
    · rw [ShardStats.times_concat, if_neg same]
      exact fits shard

theorem fits_perm {timings other : List Timing} (reordered : other.Perm timings) :
    Fits other ↔ Fits timings :=
  forall_congr' fun shard => by rw [(ShardStats.times_perm reordered shard).sum_nat]

theorem known_ofList (timings : List Timing) (shard : ShardId) :
    (ofList timings).known shard = ofTimings shard timings := by
  rw [known, shards_ofList]
  by_cases ran : shard ∈ timings.map Timing.shard
  · rw [List.lookup_graph _ (Ascending.mem_ofList.mpr ran), Option.getD_some]
  · rw [ShardStats.ofTimings_of_notMem ran, List.lookup_eq_none_iff.mpr, Option.getD_none]
    rintro entry inside
    obtain ⟨other, among, rfl⟩ := List.mem_map.mp inside
    exact bne_iff_ne.mpr fun same => ran (same ▸ Ascending.mem_ofList.mp among)

/-- **One more statement** is recorded if the times of its shard can still be told. -/
theorem record?_ofList (timings : List Timing) (timing : Timing) :
    (ofList timings).record? timing =
      if (times timing.shard timings).sum + timing.elapsed ≤ longestTime then
        some (ofList (timings ++ [timing]))
      else none := by
  rw [record?, known_ofList, ofList_concat]
  rfl

/-- **All statements are recorded** exactly if the times of each shard can be told. -/
theorem ofList?_eq_some {timings : List Timing} {statistics : Statistics} :
    ofList? timings = some statistics ↔ Fits timings ∧ statistics = ofList timings := by
  induction timings using List.reverseRecOn generalizing statistics with
  | nil =>
    constructor
    · intro same
      exact ⟨fun shard => Nat.zero_le _, (Option.some.inj same).symm⟩
    · rintro ⟨-, rfl⟩
      rfl
  | append_singleton before timing ih =>
    have step : ofList? (before ++ [timing]) = (ofList? before).bind (record? · timing) := by
      simp only [ofList?, List.foldlM_append, List.foldlM_cons, List.foldlM_nil, bind_pure]
      rfl
    rw [step, Option.bind_eq_some_iff, fits_concat]
    constructor
    · rintro ⟨earlier, recorded, more⟩
      obtain ⟨fits, rfl⟩ := ih.mp recorded
      rw [record?_ofList] at more
      split at more
      · next fit => exact ⟨⟨fits, fit⟩, (Option.some.inj more).symm⟩
      · cases more
    · rintro ⟨⟨fits, fit⟩, rfl⟩
      exact ⟨ofList before, ih.mpr ⟨fits, rfl⟩, by rw [record?_ofList, if_pos fit]⟩

/-- **A snapshot can be taken** exactly if all times can be told, and it lists the statements. -/
theorem map_snapshot_eq_some {timings : List Timing} {told : List ShardStats} :
    (ofList? timings).map snapshot = some told ↔ Fits timings ∧ Lists told timings := by
  rw [Option.map_eq_some_iff, lists_iff]
  constructor
  · rintro ⟨statistics, recorded, rfl⟩
    obtain ⟨fits, rfl⟩ := ofList?_eq_some.mp recorded
    exact ⟨fits, rfl⟩
  · rintro ⟨fits, rfl⟩
    exact ⟨ofList timings, ofList?_eq_some.mpr ⟨fits, rfl⟩, rfl⟩

/-- **Statistics in any order.** There is a snapshot of some statements exactly if the times of each shard,
taken together, can be told. It is the one list in which each shard that ran a statement stands once, in
ascending order, with the number of its statements, their times taken together, and the longest of these. In
whatever order the same statements complete, the snapshot is the same. -/
theorem snapshot_in_any_order {timings other : List Timing} (reordered : other.Perm timings) :
    ((∃ told, (ofList? timings).map snapshot = some told) ↔ Fits timings) ∧
      (∀ told, (ofList? timings).map snapshot = some told ↔ Fits timings ∧ Lists told timings) ∧
      (ofList? other).map snapshot = (ofList? timings).map snapshot := by
  refine ⟨⟨?_, fun fits => ?_⟩, fun told => map_snapshot_eq_some, Option.ext fun told => ?_⟩
  · rintro ⟨told, taken⟩
    exact (map_snapshot_eq_some.mp taken).1
  · exact ⟨_, map_snapshot_eq_some.mpr ⟨fits, lists_snapshot timings⟩⟩
  · -- What a snapshot lists does not tell the order, so the order cannot tell snapshots apart.
    rw [map_snapshot_eq_some, map_snapshot_eq_some, fits_perm reordered, lists_perm reordered]

/-- Statements that take two shards as long as can be told are recorded in either order. -/
theorem longest_times_reordered :
    let timings : List Timing := [⟨2, 10⟩, ⟨0, longestTime⟩, ⟨2, longestTime - 10⟩]
    let told : List ShardStats :=
      [⟨0, 1, longestTime, longestTime⟩, ⟨2, 2, longestTime, longestTime - 10⟩]
    timings.reverse.Perm timings ∧ (ofList? timings).map snapshot = some told ∧
      Lists told timings ∧ (ofList? timings.reverse).map snapshot = some told := by
  intro timings told
  have reordered := List.reverse_perm timings
  have taken : (ofList? timings).map snapshot = some told := by decide +kernel
  obtain ⟨-, listed, same⟩ := snapshot_in_any_order reordered
  exact ⟨reordered, taken, ((listed told).mp taken).2, same.trans taken⟩

-- A nanosecond more cannot be told.
example : ofList? [⟨2, 10⟩, ⟨2, longestTime - 9⟩] = none := by decide +kernel

end Statistics

end ScatterGather
