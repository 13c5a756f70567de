/-
**Where a rule places values.**

* `KeyValue.same_iff`: key values that the order does not tell apart are equal, so sets of them have the
  members they were made of;
* `Placement.shards`, `mem_shards_of_place`: the shards that a rule may use at all, and uses, whatever
  its values are hashed by (`Placement.placeBy`);
* `mem_placeEach` — a set of values is placed on the shards of **its members, each by itself**;
* `exists_placeEach_iff`, `placeEach_eq_error`: which is done if all of them can be placed, and fails as
  the first of them that cannot;
* `placeEach_eq_ok`: both at once;
* `mem_placeAll`, `exists_placeAll_iff`, `placeAll_eq_error`: so it is with a rule;
* `Table.Covers`, `Schema.covers_ofLayout`: in a schema that was accepted, the rule of a table uses **no
  shard but those of its table**;
* `Table.Sound`, `Schema.sound_ofLayout`: and a table has **at least one shard**, its shards ascend, and
  they are shards of the schema.
-/
import ScatterGather.Proofs.Layout.Accepted

namespace ScatterGather

/-! ### Key values in order -/

namespace KeyValue

/-- Key values are told apart by their kind, or as what they hold. -/
theorem same_iff (left right : KeyValue) : compare left right = .eq ↔ left = right := by
  have whole : ∀ a b : Int64, (compare a b).then .eq = .eq ↔ integer a = integer b := fun a b => by
    rw [Ordering.then_eq, Std.LawfulEqOrd.compare_eq_iff_eq, integer.injEq]
  have spelled : ∀ a b : String, (compare a b).then .eq = .eq ↔ text a = text b := fun a b => by
    rw [Ordering.then_eq, Std.LawfulEqOrd.compare_eq_iff_eq, text.injEq]
  have decided : ∀ a b : Bool, (compare a b).then .eq = .eq ↔ boolean a = boolean b := fun a b => by
    rw [Ordering.then_eq, Std.LawfulEqOrd.compare_eq_iff_eq, boolean.injEq]
  cases left with
  | null => cases right <;> simp only [compare, instOrdKeyValue.ord, reduceCtorEq]
  | integer a =>
    cases right with
    | integer b => exact whole a b
    | _ => simp only [compare, instOrdKeyValue.ord, reduceCtorEq]
  | text a =>
    cases right with
    | text b => exact spelled a b
    | _ => simp only [compare, instOrdKeyValue.ord, reduceCtorEq]
  | boolean a =>
    cases right with
    | boolean b => exact decided a b
    | _ => simp only [compare, instOrdKeyValue.ord, reduceCtorEq]

instance : Std.LawfulEqOrd KeyValue where
  compare_self {value} := (same_iff value value).mpr rfl
  eq_of_compare {left right} same := (same_iff left right).mp same

end KeyValue

/-! ### Values on shards -/

namespace Placement

/-- The shards that a rule may use. -/
def shards : Placement → List ShardId
  | hash shards => shards
  | range bounds => bounds.map Prod.snd

/-- The shard of one value, where another function takes the place of the hash function. -/
def placeBy (digest : List UInt8 → UInt64) (placement : Placement) (value : KeyValue) :
    Except PlacementError (Option ShardId) :=
  match placement with
  | hash shards => .ok shards[(digest value.bytes).toNat % shards.length]?
  | range bounds => (ranged bounds value).map some

theorem placeBy_hash (placement : Placement) : placement.placeBy SeaHash.hash = placement.place := by
  funext value
  cases placement <;> rfl

theorem mem_shards_of_placeBy {digest : List UInt8 → UInt64} {placement : Placement} {value : KeyValue}
    {shard : ShardId} (placed : placement.placeBy digest value = .ok (some shard)) :
    shard ∈ placement.shards := by
  cases placement with
  | hash shards => exact List.mem_of_getElem? (Except.ok.inj placed)
  | range bounds =>
    obtain ⟨found, ranged, same⟩ := map_eq_ok.mp placed
    obtain rfl := Option.some.inj same
    unfold Placement.ranged at ranged
    cases key : value.asInteger? with
    | none =>
      rw [key] at ranged
      cases ranged
    | some whole =>
      simp only [key] at ranged
      cases at? : bounds[Bounds.position (bounds.map Prod.fst) whole]? with
      | none =>
        rw [at?] at ranged
        cases ranged
      | some bound =>
        rw [at?] at ranged
        obtain rfl : bound.2 = found := Except.ok.inj ranged
        exact List.mem_map_of_mem (List.mem_of_getElem? at?)

theorem mem_shards_of_place {placement : Placement} {value : KeyValue} {shard : ShardId}
    (placed : placement.place value = .ok (some shard)) : shard ∈ placement.shards :=
  mem_shards_of_placeBy ((congrFun (placeBy_hash placement) value).trans placed)

/-- The shards of a set of values, each of which is placed in some way. -/
def placeEach (place : KeyValue → Except PlacementError (Option ShardId)) (values : List KeyValue) :
    Except PlacementError (List ShardId) := do
  let placed ← values.mapM place
  return Ascending.ofList (placed.filterMap id)

section Each

variable {place : KeyValue → Except PlacementError (Option ShardId)} {values : List KeyValue}
  {placed : List ShardId}

/-- **A set of values is placed where its members are.** -/
theorem mem_placeEach (whole : placeEach place values = .ok placed) {shard : ShardId} :
    shard ∈ placed ↔ ∃ value ∈ values, place value = .ok (some shard) := by
  obtain ⟨places, each, same⟩ := bind_eq_ok.mp whole
  obtain rfl : Ascending.ofList (places.filterMap id) = placed := Except.ok.inj same
  have each := mapM_eq_ok.mp each
  rw [Ascending.mem_ofList, List.mem_filterMap]
  constructor
  · rintro ⟨place, inside, rfl⟩
    exact exists_of_mem_results each inside
  · rintro ⟨value, inside, isPlace⟩
    obtain ⟨found, isFound, given⟩ := exists_of_mem_members each inside
    exact ⟨found, isFound, (Except.ok.inj (isPlace.symm.trans given)).symm⟩

/-- A set of values is placed if each of them is. -/
theorem exists_placeEach_iff : (∃ placed, placeEach place values = .ok placed) ↔
    ∀ value ∈ values, ∃ found, place value = .ok found := by
  rw [← exists_mapM_eq_ok]
  constructor
  · rintro ⟨placed, whole⟩
    obtain ⟨places, each, -⟩ := bind_eq_ok.mp whole
    exact ⟨places, each⟩
  · rintro ⟨places, each⟩
    exact ⟨_, bind_eq_ok.mpr ⟨places, each, rfl⟩⟩

/-- A set of values is refused as the first of them that is not placed. -/
theorem placeEach_eq_error {cause : PlacementError} (refused : placeEach place values = .error cause) :
    ∃ before value after, values = before ++ value :: after ∧
      (∀ earlier ∈ before, ∃ found, place earlier = .ok found) ∧ place value = .error cause := by
  refine mapM_eq_error ?_
  unfold placeEach at refused
  cases each : values.mapM place with
  | ok places =>
    rw [each] at refused
    cases refused
  | error other =>
    rw [each] at refused
    exact congrArg Except.error (Except.error.inj refused)

/-- The shards of a set of values ascend. -/
theorem placeEach_ascending (whole : placeEach place values = .ok placed) :
    placed.Pairwise fun before after => compare before after = .lt := by
  obtain ⟨places, -, same⟩ := bind_eq_ok.mp whole
  obtain rfl : Ascending.ofList (places.filterMap id) = placed := Except.ok.inj same
  exact Ascending.ofList_ascending _

/-- **What it is to place a set of values**: all of them are placed, and the shards where they are are
listed in ascending order. -/
theorem placeEach_eq_ok : placeEach place values = .ok placed ↔
    (∀ value ∈ values, ∃ found, place value = .ok found) ∧
      (placed.Pairwise fun before after => compare before after = .lt) ∧
        ∀ shard, shard ∈ placed ↔ ∃ value ∈ values, place value = .ok (some shard) := by
  constructor
  · intro whole
    exact ⟨exists_placeEach_iff.mp ⟨placed, whole⟩, placeEach_ascending whole,
      fun _ => mem_placeEach whole⟩
  · rintro ⟨all, ascending, members⟩
    obtain ⟨others, whole⟩ := exists_placeEach_iff.mpr all
    rw [whole, Ascending.eq_of_mem_iff ascending (placeEach_ascending whole) fun shard => by
      rw [members, mem_placeEach whole]]

end Each

section All

variable {placement : Placement} {values : List KeyValue} {placed : List ShardId}

theorem mem_placeAll (whole : placement.placeAll values = .ok placed) {shard : ShardId} :
    shard ∈ placed ↔ ∃ value ∈ values, placement.place value = .ok (some shard) :=
  mem_placeEach whole

theorem exists_placeAll_iff : (∃ placed, placement.placeAll values = .ok placed) ↔
    ∀ value ∈ values, ∃ place, placement.place value = .ok place :=
  exists_placeEach_iff

theorem placeAll_eq_error {cause : PlacementError} (refused : placement.placeAll values = .error cause) :
    ∃ before value after, values = before ++ value :: after ∧
      (∀ earlier ∈ before, ∃ place, placement.place earlier = .ok place) ∧
        placement.place value = .error cause :=
  placeEach_eq_error refused

theorem placeAll_ascending (whole : placement.placeAll values = .ok placed) :
    placed.Pairwise (· < ·) :=
  (placeEach_ascending whole).imp Std.compare_eq_lt.mp

end All

end Placement

/-! ### Tables of an accepted layout -/

namespace Table

/-- The rule of a table uses no shard but those of the table. -/
def Covers (table : Table) : Prop :=
  ∀ rule, table.rule = some rule → rule.placement.shards ⊆ table.shards

/-- A rule over the shards of a table uses no others, in whatever order they were listed. -/
theorem shards_over {shards listed : List ShardId} (within : listed ⊆ shards) (spread : Spread) :
    (spread.over shards listed).shards ⊆ shards := by
  cases spread with
  | hash => exact List.Subset.refl _
  | range bounds =>
    intro shard inside
    obtain ⟨bound, isBound, rfl⟩ := List.mem_map.mp inside
    exact within (List.of_mem_zip isBound).2

/-- The rule of a table that is what was declared uses no shards but those of the table. -/
theorem IsOf.covers {declared : TableLayout} {table : Table} (isOf : table.IsOf declared) :
    table.Covers := by
  intro rule isRule
  rw [isOf.rule] at isRule
  obtain ⟨spread, -, rfl⟩ := Option.map_eq_some_iff.mp isRule
  exact shards_over (fun shard => (isOf.shards shard).mpr) _

/-- The shards of a table: at least one, in ascending order, and all among some known ones. -/
structure Sound (known : List ShardId) (table : Table) : Prop where
  nonempty : table.shards ≠ []
  ascending : table.shards.Pairwise (· < ·)
  within : table.shards ⊆ known

/-- The shards of a table are sound if it is what was declared, and that is consistent. -/
theorem IsOf.sound {declared : TableLayout} {table : Table} (isOf : table.IsOf declared)
    {known : List ShardId} (consistent : declared.Consistent known) : table.Sound known := by
  refine ⟨?_, isOf.ascending, fun shard inside => ?_⟩
  · obtain ⟨shard, rest, listed⟩ := List.exists_cons_of_ne_nil consistent.nonempty
    exact List.ne_nil_of_mem ((isOf.shards shard).mpr (listed ▸ List.mem_cons_self))
  · exact consistent.listable.known ((isOf.shards shard).mp inside)

end Table

namespace Schema

/-- Every table of a schema that was accepted is what was declared, and that is consistent. -/
theorem exists_declared {layout : Layout} {schema : Schema}
    (accepted : ofLayout layout = .ok schema) {table : Table} (inside : table ∈ schema.tables) :
    ∃ declared ∈ layout.tables, table.IsOf declared ∧ declared.Consistent schema.shards := by
  have isOf := isOf_of_ofLayout accepted
  obtain ⟨declared, isDeclared, own⟩ := exists_of_mem_results isOf.tables inside
  have consistent := exists_ofLayout_iff.mp ⟨schema, accepted⟩
  exact ⟨declared, isDeclared, own,
    (consistent.tables.each declared isDeclared).mono fun shard => (isOf.shards shard).mpr⟩

/-- **In a schema that was accepted the rule of a table uses no shard but those of the table.** -/
theorem covers_ofLayout {layout : Layout} {schema : Schema}
    (accepted : ofLayout layout = .ok schema) {table : Table} (inside : table ∈ schema.tables) :
    table.Covers := by
  obtain ⟨declared, -, isOf, -⟩ := exists_declared accepted inside
  exact isOf.covers

/-- **In a schema that was accepted the shards of a table are sound.** -/
theorem sound_ofLayout {layout : Layout} {schema : Schema}
    (accepted : ofLayout layout = .ok schema) {table : Table} (inside : table ∈ schema.tables) :
    table.Sound schema.shards := by
  obtain ⟨declared, -, isOf, consistent⟩ := exists_declared accepted inside
  exact isOf.sound consistent

/-- A schema that was accepted has a shard. -/
theorem shards_ne_nil {layout : Layout} {schema : Schema} (accepted : ofLayout layout = .ok schema) :
    schema.shards ≠ [] := by
  have consistent := exists_ofLayout_iff.mp ⟨schema, accepted⟩
  obtain ⟨shard, rest, listed⟩ := List.exists_cons_of_ne_nil consistent.nonempty
  have member : shard ∈ layout.shards := listed ▸ List.mem_cons_self
  exact List.ne_nil_of_mem (((isOf_of_ofLayout accepted).shards shard).mpr member)

theorem mem_of_table? {schema : Schema} {name : String} {table : Table}
    (found : schema.table? name = some table) : table ∈ schema.tables :=
  List.mem_of_find?_eq_some found

/-- Names with the same last part, letter case aside, mean the same table. -/
theorem table?_congr (schema : Schema) {name other : String} (same : keyOf name = keyOf other) :
    schema.table? name = schema.table? other := by
  rw [table?, table?, same]

end Schema

end ScatterGather
