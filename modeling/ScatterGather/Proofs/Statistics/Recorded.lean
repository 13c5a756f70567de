/-
**What is recorded of the statements of shards.**

* `ShardStats.times`: the times of a shard's statements, of all statements that have run;
* `ShardStats.ofTimings`: what there is to know of these statements: how many they are, their times taken
  together, and the longest of these;
* `times_concat`, `ofTimings_concat`: one more statement counts for its own shard alone;
* `Ascending.put_map`, `Ascending.ofList_concat`: a table of the members of a set, and one more member;
* `snapshot_ofList`, `mem_snapshot` — after any statements the snapshot is **what there is to know of each
  shard that ran one**, in ascending order.
-/
import Mathlib.Algebra.GroupWithZero.Nat
import Mathlib.Data.List.Induction
import ScatterGather.Statistics

namespace ScatterGather

/-! ### One shard -/

namespace ShardStats

/-- The times of a shard's statements, in the order in which these have run. -/
def times (shard : ShardId) (timings : List Timing) : List Nat :=
  (timings.filter (·.shard == shard)).map Timing.elapsed

theorem times_eq_nil {shard : ShardId} {timings : List Timing} :
    times shard timings = [] ↔ shard ∉ timings.map Timing.shard := by
  rw [times, List.map_eq_nil_iff, List.filter_eq_nil_iff, List.mem_map]
  simp only [beq_iff_eq, not_exists, not_and]

/-- **One more statement** takes its time on its own shard alone. -/
theorem times_concat (shard : ShardId) (timings : List Timing) (timing : Timing) :
    times shard (timings ++ [timing]) =
      if timing.shard = shard then times shard timings ++ [timing.elapsed]
      else times shard timings := by
  rw [times, List.filter_append]
  by_cases own : timing.shard = shard
  · have counted : [timing].filter (·.shard == shard) = [timing] :=
      List.filter_cons_of_pos (beq_iff_eq.mpr own)
    rw [if_pos own, counted, List.map_append]
    rfl
  · have passed : [timing].filter (·.shard == shard) = [] :=
      List.filter_cons_of_neg fun same => own (eq_of_beq same)
    rw [if_neg own, passed, List.append_nil]
    rfl

/-- What there is to know of a shard's statements, of all statements that have run. -/
def ofTimings (shard : ShardId) (timings : List Timing) : ShardStats :=
  let times := (timings.filter (·.shard == shard)).map Timing.elapsed
  { shard, statements := times.length, total := times.sum, slowest := times.foldl max 0 }

theorem ofTimings_eq (shard : ShardId) (timings : List Timing) :
    ofTimings shard timings = ⟨shard, (times shard timings).length, (times shard timings).sum,
      (times shard timings).foldl max 0⟩ :=
  rfl

/-- A shard that has run no statement. -/
theorem ofTimings_of_notMem {shard : ShardId} {timings : List Timing}
    (unused : shard ∉ timings.map Timing.shard) : ofTimings shard timings = { shard } := by
  rw [ofTimings_eq, times_eq_nil.mpr unused]
  rfl

/-- **One more statement** counts for its own shard alone. -/
theorem ofTimings_concat (shard : ShardId) (timings : List Timing) (timing : Timing) :
    ofTimings shard (timings ++ [timing]) =
      if timing.shard = shard then (ofTimings shard timings).add timing.elapsed
      else ofTimings shard timings := by
  rw [ofTimings_eq, times_concat]
  split
  · rw [List.length_append, List.sum_append, List.sum_singleton, List.foldl_append]
    rfl
  · rfl

end ShardStats

/-! ### Tables of a set's members -/

namespace Ascending

variable {α β : Type} [Ord α] [Std.LawfulEqOrd α] [Std.TransOrd α]

/-- The set of one more member. -/
theorem ofList_concat (members : List α) (x : α) :
    ofList (members ++ [x]) = insert x (ofList members) := by
  refine eq_of_mem_iff (ofList_ascending _) (insert_ascending x (ofList_ascending members)) fun y => ?_
  rw [mem_insert, mem_ofList, mem_ofList, List.mem_append, List.mem_singleton]
  exact Or.comm

/-- **A value put into a table** that gives each member of a set something: the table of the set with the
key added, in which the key has the new value. -/
theorem put_map {key : α} {value : Option β → β} {set : List α} {given changed : α → β}
    (ascending : set.Pairwise fun before after => compare before after = .lt)
    (others : ∀ x ∈ set, x ≠ key → changed x = given x)
    (old : key ∈ set → changed key = value (some (given key)))
    (new : key ∉ set → changed key = value none) :
    put key value (set.map fun x => (x, given x)) = (insert key set).map fun x => (x, changed x) := by
  have apart : ∀ {x y : α}, compare x y = .lt → x ≠ y := by
    rintro x _ less rfl
    rw [Std.ReflOrd.compare_self] at less
    cases less
  induction set with
  | nil => rw [insert, List.map_singleton, List.map_nil, put, new List.not_mem_nil]
  | cons y rest ih =>
    obtain ⟨above, ordered⟩ := List.pairwise_cons.mp ascending
    rw [List.map_cons, put, insert]
    split
    · next less =>
      -- The key comes before all members, so that it is none of them.
      have below : ∀ x ∈ y :: rest, compare key x = .lt :=
        List.forall_mem_cons.mpr ⟨less, fun x inside => Std.TransCmp.lt_trans less (above x inside)⟩
      have same : ∀ x ∈ y :: rest, changed x = given x :=
        fun x inside => others x inside (apart (below x inside)).symm
      rw [List.map_cons, new fun inside => apart (below key inside) rfl,
        ← List.map_cons (f := fun x => (x, given x))]
      exact congrArg _ (List.map_congr_left fun x inside => by rw [same x inside])
    · next equal =>
      obtain rfl := Std.LawfulEqOrd.eq_of_compare equal
      rw [List.map_cons, old List.mem_cons_self]
      refine congrArg _ (List.map_congr_left fun x inside => ?_)
      rw [others x (List.mem_cons_of_mem _ inside) (apart (above x inside)).symm]
    · next greater =>
      have different : y ≠ key := apart (Std.OrientedCmp.gt_iff_lt.mp greater)
      rw [List.map_cons, others y List.mem_cons_self different, ih ordered]
      · exact fun x inside => others x (List.mem_cons_of_mem _ inside)
      · exact fun inside => old (List.mem_cons_of_mem _ inside)
      · exact fun missing => new fun inside =>
          missing ((List.mem_cons.mp inside).resolve_left different.symm)

end Ascending

/-! ### All shards -/

namespace Statistics

theorem ofList_concat (timings : List Timing) (timing : Timing) :
    ofList (timings ++ [timing]) = (ofList timings).record timing :=
  List.foldl_append

/-- **After any statements** the table holds what there is to know of each shard that ran one. -/
theorem shards_ofList (timings : List Timing) :
    (ofList timings).shards = (Ascending.ofList (timings.map Timing.shard)).map fun shard =>
      (shard, ShardStats.ofTimings shard timings) := by
  induction timings using List.reverseRecOn with
  | nil => rfl
  | append_singleton before timing ih =>
    rw [ofList_concat, record, List.map_append, List.map_singleton, Ascending.ofList_concat]
    dsimp only
    rw [ih]
    refine Ascending.put_map (Ascending.ofList_ascending _) ?_ ?_ ?_
    · intro shard _ other
      rw [ShardStats.ofTimings_concat, if_neg other.symm]
    · intro _
      rw [ShardStats.ofTimings_concat, if_pos rfl, Option.getD_some]
    · intro unused
      rw [Ascending.mem_ofList] at unused
      rw [ShardStats.ofTimings_concat, if_pos rfl, ShardStats.ofTimings_of_notMem unused,
        Option.getD_none]

/-- **The snapshot** is what there is to know of each shard that ran a statement, in ascending order. -/
theorem snapshot_ofList (timings : List Timing) :
    (ofList timings).snapshot =
      (Ascending.ofList (timings.map Timing.shard)).map (ShardStats.ofTimings · timings) := by
  rw [snapshot, shards_ofList, List.map_map]
  rfl

theorem mem_snapshot {timings : List Timing} {stats : ShardStats} :
    stats ∈ (ofList timings).snapshot ↔
      stats.shard ∈ timings.map Timing.shard ∧ stats = ShardStats.ofTimings stats.shard timings := by
  rw [snapshot_ofList, List.mem_map]
  simp only [Ascending.mem_ofList]
  constructor
  · rintro ⟨shard, ran, rfl⟩
    exact ⟨ran, rfl⟩
  · rintro ⟨ran, same⟩
    exact ⟨stats.shard, ran, same.symm⟩

/-- The snapshot after one statement has run a number of times. -/
theorem snapshot_replicate {count : Nat} (ran : count ≠ 0) (timing : Timing) :
    (ofList (List.replicate count timing)).snapshot =
      [⟨timing.shard, count, count * timing.elapsed, timing.elapsed⟩] := by
  obtain ⟨more, rfl⟩ := Nat.exists_eq_succ_of_ne_zero ran
  have table : (ofList (List.replicate (more + 1) timing)).shards =
      [(timing.shard, ⟨timing.shard, more + 1, (more + 1) * timing.elapsed, timing.elapsed⟩)] := by
    clear ran
    induction more with
    | zero => simp [ofList, record, Ascending.put, ShardStats.add]
    | succ more ih =>
      rw [List.replicate_succ', ofList_concat, record, ih, Ascending.put, Std.ReflOrd.compare_self]
      simp [ShardStats.add, Nat.succ_mul]
  rw [snapshot, table]
  rfl

end Statistics

end ScatterGather
