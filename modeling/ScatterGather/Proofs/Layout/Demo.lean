/-
**The demo layout.**

However many shards it is made for, the demo layout is accepted, and its orders lie in ranges of a thousand:

* `toNat_demoShards`, `demoShards_increasing`, `toInt_demoBound`: the shards are numbered from zero on, and
  the bounds are the **thousands as they are**, not what is left of them in 64 bits;
* `demo_consistent`: the layout is consistent;
* `inRange_iff_thousand`, `ranged_below`, `ranged_beyond` — a key is placed by **its thousand**, and nowhere
  beyond the last one;
* `Schema.shards_of_demo`, `Schema.exists_table`: the shards of a layout that is accepted, and a declared
  table found by its name;
* `demo_is_valid`: all of it.
-/
import ScatterGather.Proofs.Routing.Found
import ScatterGather.Proofs.Sharding.Ranges

namespace ScatterGather

namespace Layout

variable (count : UInt32)

/-! ### Shards and bounds -/

/-- The number of shards of the demo layout. -/
def demoSize : Nat :=
  max count.toNat 1

theorem demoSize_lt : demoSize count < UInt32.size := by
  have := count.toNat_lt
  unfold demoSize UInt32.size
  omega

/-- **The shards are numbered from zero on.** -/
theorem toNat_demoShards : (demoShards count).map UInt32.toNat = List.range (demoSize count) := by
  have numbers : ∀ number ∈ List.range (demoSize count), (UInt32.ofNat number).toNat = number := by
    intro number inside
    have := demoSize_lt count
    exact UInt32.toNat_ofNat_of_lt' (Nat.lt_trans (List.mem_range.mp inside) this)
  unfold demoShards
  rw [List.map_map]
  exact (List.map_congr_left numbers).trans (List.map_id _)

theorem demoShards_increasing : (demoShards count).Pairwise (· < ·) := by
  have numbers : ((demoShards count).map UInt32.toNat).Pairwise (· < ·) := by
    rw [toNat_demoShards]
    exact List.pairwise_lt_range
  exact List.Pairwise.of_map UInt32.toNat (fun _ _ => UInt32.lt_iff_toNat_lt.mpr) numbers

theorem length_demoShards : (demoShards count).length = demoSize count := by
  simp [demoShards, demoSize]

/-- **No bound overflows.** -/
theorem toInt_demoBound (shard : ShardId) : (demoBound shard).toInt = (shard.toNat + 1) * 1000 := by
  have := shard.toNat_lt
  unfold demoBound
  rw [Int64.toInt_ofNat_of_lt (by omega)]
  omega

theorem demoBounds_increasing : ((demoShards count).map demoBound).Pairwise (· < ·) := by
  refine List.pairwise_map.mpr ((demoShards_increasing count).imp fun {shard other} less => ?_)
  have : shard.toNat < other.toNat := less
  rw [Int64.lt_iff_toInt_lt, toInt_demoBound, toInt_demoBound]
  omega

/-! ### The layout -/

/-- **The demo layout is consistent.** -/
theorem demo_consistent : (demo count).Consistent := by
  have nonempty : demoShards count ≠ [] := by
    apply List.ne_nil_of_length_pos
    rw [length_demoShards, demoSize]
    omega
  have listable : Listable (demoShards count) (demoShards count) :=
    ⟨List.Subset.refl _, (demoShards_increasing count).imp UInt32.ne_of_lt⟩
  refine ⟨nonempty, ⟨?_, ?_⟩⟩
  · simp only [demo, List.forall_mem_cons, List.not_mem_nil, false_implies, implies_true, and_true]
    refine ⟨⟨nonempty, listable, ?_⟩, ⟨nonempty, listable, ?_⟩, ⟨nonempty, listable, ?_⟩⟩
    · rintro column bounds ⟨⟩
    · rintro column bounds ⟨⟩
      exact ⟨List.length_map _, demoBounds_increasing count⟩
    · rintro column bounds ⟨⟩
  · have apart : ["users", "orders", "countries"].Pairwise fun one other =>
        Text.upper one ≠ Text.upper other := by decide +kernel
    exact List.Pairwise.of_map TableLayout.name (fun _ _ => id) apart

/-! ### Ranges -/

/-- The ranges of orders. -/
def demoRanges : List (Int64 × ShardId) :=
  (demoShards count).map fun shard => (demoBound shard, shard)

theorem zip_demoRanges : ((demoShards count).map demoBound).zip (demoShards count) = demoRanges count := by
  have both : ((demoShards count).map demoBound).zip ((demoShards count).map id) = demoRanges count :=
    List.zip_map'
  rwa [List.map_id] at both

theorem bounds_demoRanges : (demoRanges count).map Prod.fst = (demoShards count).map demoBound := by
  simp [demoRanges]

/-- A shard of the demo layout stands where its number says. -/
theorem demoShards_at {place : Nat} {shard : ShardId} (here : (demoShards count)[place]? = some shard) :
    shard.toNat = place := by
  have number := congrArg (Option.map UInt32.toNat) here
  rw [← List.getElem?_map, toNat_demoShards] at number
  have := (List.getElem?_eq_some_iff.mp number).2
  rwa [List.getElem_range, eq_comm] at this

/-- **The range of a shard is its thousand**; that of the first one has no lower end. -/
theorem inRange_iff_thousand {place : Nat} (inside : place < demoSize count) (key : Int64) :
    Bounds.InRange ((demoRanges count).map Prod.fst) key place ↔
      key.toInt < (place + 1) * 1000 ∧ (0 < place → place * 1000 ≤ key.toInt) := by
  have bound : ∀ i < demoSize count, ∃ upper, ((demoRanges count).map Prod.fst)[i]? = some upper ∧
      upper.toInt = (i + 1) * 1000 := by
    intro i before
    rw [← length_demoShards] at before
    have here := List.getElem?_eq_getElem before
    refine ⟨demoBound (demoShards count)[i], ?_, ?_⟩
    · rw [bounds_demoRanges, List.getElem?_map, here]
      rfl
    · rw [toInt_demoBound, demoShards_at count here]
  obtain ⟨upper, isUpper, limit⟩ := bound place inside
  constructor
  · rintro ⟨⟨_, isBound, less⟩, above⟩
    obtain rfl := Option.some.inj (isUpper.symm.trans isBound)
    refine ⟨limit ▸ Int64.lt_iff_toInt_lt.mp less, fun later => ?_⟩
    obtain ⟨lower, isLower, start⟩ := bound (place - 1) (by omega)
    have atLeast := Int64.le_iff_toInt_le.mp (above (place - 1) (by omega) lower isLower)
    omega
  · rintro ⟨less, atLeast⟩
    refine ⟨⟨upper, isUpper, Int64.lt_iff_toInt_lt.mpr (limit ▸ less)⟩, ?_⟩
    rintro before rfl lower isLower
    obtain ⟨_, isBound, start⟩ := bound before (by omega)
    obtain rfl := Option.some.inj (isBound.symm.trans isLower)
    have := atLeast (by omega)
    rw [Int64.le_iff_toInt_le]
    omega

/-- **An order is placed on the shard of its thousand.** -/
theorem ranged_below {key : Int64} (below : key.toInt < 1000 * demoSize count) :
    ∃ shard, Placement.ranged (demoRanges count) (.integer key) = .ok shard ∧
      shard.toNat = (key.toInt / 1000).toNat := by
  have inside : (key.toInt / 1000).toNat < (demoShards count).length := by
    rw [length_demoShards]
    have : 0 < demoSize count := Nat.le_max_right _ _
    omega
  have here := List.getElem?_eq_getElem inside
  refine ⟨_, (Placement.ranged_eq_ok ?_).mpr ⟨key, rfl, (key.toInt / 1000).toNat, ?_, ?_⟩,
    demoShards_at count here⟩
  · rw [bounds_demoRanges]
    exact demoBounds_increasing count
  · rw [length_demoShards] at inside
    refine (inRange_iff_thousand count inside key).mpr ?_
    omega
  · rw [demoRanges, List.getElem?_map, here]
    rfl

/-- An order beyond the last thousand is refused. -/
theorem ranged_beyond {key : Int64} (beyond : 1000 * demoSize count ≤ key.toInt) :
    Placement.ranged (demoRanges count) (.integer key) =
      .error (.outOfRange (toString key) (Placement.describe (.range (demoRanges count)))) := by
  have increasing : ((demoRanges count).map Prod.fst).Pairwise (· < ·) := by
    rw [bounds_demoRanges]
    exact demoBounds_increasing count
  cases given : Placement.ranged (demoRanges count) (.integer key) with
  | ok shard =>
    obtain ⟨_, ⟨⟩, place, inRange, found⟩ := (Placement.ranged_eq_ok increasing).mp given
    have inside : place < demoSize count := by
      obtain ⟨upper, isUpper, -⟩ := inRange.below
      have := (List.getElem?_eq_some_iff.mp isUpper).1
      rwa [bounds_demoRanges, List.length_map, length_demoShards] at this
    have := (inRange_iff_thousand count inside key).mp inRange
    omega
  | error cause =>
    rcases Placement.ranged_eq_error increasing given with ⟨none, -⟩ | ⟨_, -, -, rfl⟩
    · cases none
    · rfl

end Layout

/-- One value is placed on one shard by ranges, or refused. -/
theorem Placement.placeAll_singleton (bounds : List (Int64 × ShardId)) (value : KeyValue) :
    (Placement.range bounds).placeAll [value] = (Placement.ranged bounds value).map ([·]) := by
  unfold Placement.placeAll
  rw [List.mapM_cons, List.mapM_nil, Placement.place]
  cases Placement.ranged bounds value <;> rfl

/-! ### The schema -/

section Schema

variable {count : UInt32} {schema : Schema}

/-- Shards that ascend and are those of the demo layout are its shards in order. -/
theorem Layout.eq_demoShards {shards : List ShardId} (ascending : shards.Pairwise (· < ·))
    (same : ∀ shard, shard ∈ shards ↔ shard ∈ demoShards count) : shards = demoShards count :=
  Ascending.eq_of_mem_iff (ascending.imp Std.compare_eq_lt.mpr)
    ((demoShards_increasing count).imp Std.compare_eq_lt.mpr) same

/-- **The tables of the demo layout have all its shards.** -/
theorem Schema.shards_of_demo (accepted : Schema.ofLayout (Layout.demo count) = .ok schema) :
    schema.tables.map Table.shards = List.replicate 3 (Layout.demoShards count) := by
  have made := (Schema.isOf_of_ofLayout accepted).tables
  generalize schema.tables = tables at made ⊢
  obtain _ | ⟨users, _ | ⟨orders, _ | ⟨countries, ⟨⟩⟩⟩⟩ := made
  rw [List.map_cons, List.map_cons, List.map_cons, List.map_nil,
    Layout.eq_demoShards users.ascending users.shards,
    Layout.eq_demoShards orders.ascending orders.shards,
    Layout.eq_demoShards countries.ascending countries.shards]
  rfl

/-- A declared table whose name is bare is found by it. -/
theorem Schema.exists_table {layout : Layout} {declared : TableLayout}
    (accepted : Schema.ofLayout layout = .ok schema) (listed : declared ∈ layout.tables)
    (bare : Schema.keyOf declared.name = Text.upper declared.name) :
    ∃ table, schema.table? declared.name = some table ∧ table.IsOf declared := by
  obtain ⟨table, inside, isOf⟩ :=
    exists_of_mem_members (Schema.isOf_of_ofLayout accepted).tables listed
  refine ⟨table, (Schema.table?_eq_some_iff accepted).mpr ⟨inside, ?_⟩, isOf⟩
  rw [Table.key, isOf.name, bare]

end Schema

/-- **The demo layout is valid.** For any number of shards it is accepted, with the shards from zero on, of
which there is at least one, in all of its tables. Its bounds are whole thousands of 64 bits. An order is on
the shard of its thousand: those before the first thousand are on the first shard, and those beyond the last
are refused. -/
theorem demo_is_valid (count : UInt32) :
    let size := max count.toNat 1
    ∃ (schema : Schema) (orders : Table) (rule : Rule),
      Schema.ofLayout (Layout.demo count) = .ok schema ∧
      schema.shards.map UInt32.toNat = List.range size ∧
      schema.tables.map Table.shards = List.replicate 3 schema.shards ∧
      (∀ shard, (Layout.demoBound shard).toInt = (shard.toNat + 1) * 1000) ∧
      schema.table? "orders" = some orders ∧ orders.rule = some rule ∧ rule.column = "ORDER_ID" ∧
      rule.placement = .range (schema.shards.map fun shard => (Layout.demoBound shard, shard)) ∧
      ∀ key : Int64, (rule.placement.placeAll [.integer key]).map (List.map UInt32.toNat) =
        if key.toInt < 1000 then .ok [0]
        else if key.toInt < 1000 * size then .ok [(key.toInt / 1000).toNat]
        else .error (.outOfRange (toString key) rule.placement.describe) := by
  intro size
  obtain ⟨schema, accepted⟩ := Schema.exists_ofLayout_iff.mpr (Layout.demo_consistent count)
  have isOf := Schema.isOf_of_ofLayout accepted
  have shards : schema.shards = Layout.demoShards count :=
    Layout.eq_demoShards isOf.ascending isOf.shards
  have bare : Schema.keyOf "orders" = Text.upper "orders" := by decide +kernel
  have column : Text.upper "order_id" = "ORDER_ID" := by decide +kernel
  obtain ⟨orders, found, isOrders⟩ :=
    Schema.exists_table accepted (List.mem_cons_of_mem _ List.mem_cons_self) bare
  have rule : orders.rule = some ⟨"ORDER_ID", .range (Layout.demoRanges count)⟩ := by
    rw [isOrders.rule, ← column, ← Layout.zip_demoRanges]
    rfl
  refine ⟨schema, orders, _, accepted, ?_, ?_, Layout.toInt_demoBound, found, rule, rfl, ?_, fun key => ?_⟩
  · rw [shards, Layout.toNat_demoShards]
    rfl
  · rw [shards, Schema.shards_of_demo accepted]
  · rw [shards]
    rfl
  · rw [Placement.placeAll_singleton]
    have one : 1 ≤ size := Nat.le_max_right _ _
    by_cases below : key.toInt < 1000 * size
    · obtain ⟨shard, given, number⟩ := Layout.ranged_below count below
      have placed : ((Placement.ranged (Layout.demoRanges count) (.integer key)).map ([·])).map
          (List.map UInt32.toNat) = .ok [(key.toInt / 1000).toNat] := by
        rw [given, ← number]
        rfl
      rw [placed, if_pos below]
      split
      · next first => rw [show (key.toInt / 1000).toNat = 0 by omega]
      · rfl
    · rw [Layout.ranged_beyond count (Int.not_lt.mp below), if_neg below, if_neg (by omega)]
      rfl

end ScatterGather
