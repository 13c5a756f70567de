/-
**Sets of values, by their members.**

Conditions that are joined, rows that are inserted together and replies that are counted all lean on it
that a set of values is placed as its members are, whatever a rule by hash hashes them with:

* `placeAllBy`: the shards of a set, where another function takes the place of the hash function;
* `placeEach_union`: the union of two sets is placed on **the union of their shards**, or not at all;
* `Table.IsOf.placeBy_some`: a value that is placed is on **one shard of its table**;
* `Table.PlacesSets`, `Schema.placesSets_ofLayout`: how a rule places sets, as every one does in a
  schema that was accepted;
* `Schema.Rules`, `Schema.Rules.placement_eq`: rules by hash are the same **where the same shards are
  declared**, in whatever order;
* `sets_placed_by_members`: all of that of every rule of a schema that was accepted.
-/
import ScatterGather.Proofs.Sharding.Placed

namespace ScatterGather

/-! ### Unions -/

namespace Placement

/-- The shards of a set of values, where another function takes the place of the hash function. -/
def placeAllBy (digest : List UInt8 → UInt64) (placement : Placement) :
    List KeyValue → Except PlacementError (List ShardId) :=
  placeEach (placement.placeBy digest)

theorem placeAllBy_hash (placement : Placement) :
    placement.placeAllBy SeaHash.hash = placement.placeAll := by
  rw [placeAllBy, placeBy_hash]
  rfl

section Each

variable {place : KeyValue → Except PlacementError (Option ShardId)} {left right : List KeyValue}
  {placed : List ShardId}

/-- **A union is placed on the union of the shards**, if both sets are placed. -/
theorem placeEach_union : placeEach place (Ascending.union left right) = .ok placed ↔
    ∃ one other, placeEach place left = .ok one ∧ placeEach place right = .ok other ∧
      placed = Ascending.union one other := by
  -- What is on a shard comes from one set or from the other.
  have members : ∀ {one other : List ShardId}, placeEach place left = .ok one →
      placeEach place right = .ok other → ∀ shard, shard ∈ Ascending.union one other ↔
        ∃ value ∈ Ascending.union left right, place value = .ok (some shard) := by
    intro one other isOne isOther shard
    simp only [Ascending.mem_union, mem_placeEach isOne, mem_placeEach isOther, or_and_right,
      exists_or]
  constructor
  · intro whole
    obtain ⟨all, ascending, same⟩ := placeEach_eq_ok.mp whole
    obtain ⟨one, isOne⟩ : ∃ one, placeEach place left = .ok one :=
      exists_placeEach_iff.mpr fun value inside => all value (Ascending.mem_union.mpr (Or.inr inside))
    obtain ⟨other, isOther⟩ : ∃ other, placeEach place right = .ok other :=
      exists_placeEach_iff.mpr fun value inside => all value (Ascending.mem_union.mpr (Or.inl inside))
    refine ⟨one, other, isOne, isOther, ?_⟩
    refine Ascending.eq_of_mem_iff ascending
      (Ascending.union_ascending other (placeEach_ascending isOne)) fun shard => ?_
    rw [same, members isOne isOther]
  · rintro ⟨one, other, isOne, isOther, rfl⟩
    refine placeEach_eq_ok.mpr ⟨fun value inside => ?_,
      Ascending.union_ascending other (placeEach_ascending isOne), members isOne isOther⟩
    rcases Ascending.mem_union.mp inside with inside | inside
    · exact exists_placeEach_iff.mp ⟨other, isOther⟩ value inside
    · exact exists_placeEach_iff.mp ⟨one, isOne⟩ value inside

/-- A single value is placed on its shard alone. -/
theorem placeEach_singleton {value : KeyValue} {shard : ShardId}
    (found : place value = .ok (some shard)) : placeEach place [value] = .ok [shard] := by
  refine placeEach_eq_ok.mpr ⟨fun other inside => ?_, List.pairwise_singleton _ _, fun other => ?_⟩
  · exact ⟨some shard, List.mem_singleton.mp inside ▸ found⟩
  · simp [found, eq_comm]

end Each

end Placement

/-! ### Shards of values -/

/-- A table is declared with a rule by hash. -/
def TableLayout.Hashes (declared : TableLayout) : Prop :=
  ∃ column, declared.rule = some ⟨column, .hash⟩

namespace Table

section Declared

variable {declared : TableLayout} {table : Table} {rule : Rule}

/-- The rule of a table that is what was declared. -/
theorem IsOf.exists_spread (isOf : table.IsOf declared) (ruled : table.rule = some rule) :
    ∃ column spread, declared.rule = some ⟨column, spread⟩ ∧
      rule.placement = spread.over table.shards declared.shards := by
  rw [isOf.rule] at ruled
  obtain ⟨⟨column, spread⟩, isRule, rfl⟩ := Option.map_eq_some_iff.mp ruled
  exact ⟨column, spread, isRule, rfl⟩

/-- **A value that is placed is on a shard of the table**, as the table has shards. -/
theorem IsOf.placeBy_some (isOf : table.IsOf declared) (ruled : table.rule = some rule)
    (nonempty : table.shards ≠ []) {digest : List UInt8 → UInt64} {value : KeyValue}
    {found : Option ShardId} (placed : rule.placement.placeBy digest value = .ok found) :
    ∃ shard ∈ table.shards, found = some shard := by
  obtain ⟨shard, rfl⟩ : ∃ shard, found = some shard := by
    obtain ⟨-, spread, -, same⟩ := isOf.exists_spread ruled
    rw [same] at placed
    cases spread with
    | hash =>
      have below := Nat.mod_lt (digest value.bytes).toNat (List.length_pos_iff.mpr nonempty)
      exact ⟨_, (Except.ok.inj placed).symm.trans (List.getElem?_eq_getElem below)⟩
    | range bounds =>
      obtain ⟨shard, -, same⟩ := map_eq_ok.mp placed
      exact ⟨shard, same.symm⟩
  exact ⟨shard, isOf.covers rule ruled (Placement.mem_shards_of_placeBy placed), rfl⟩

/-- A rule by hash divides by the number of the shards of its table. -/
theorem IsOf.eq_shards_of_hash (isOf : table.IsOf declared) (ruled : table.rule = some rule)
    {shards : List ShardId} (hashed : rule.placement = .hash shards) : shards = table.shards := by
  obtain ⟨-, spread, -, same⟩ := isOf.exists_spread ruled
  rw [hashed] at same
  cases spread with
  | hash => exact Placement.hash.inj same
  | range bounds => cases same

/-- A declared rule by hash is that over the shards of its table. -/
theorem IsOf.placement_hash (isOf : table.IsOf declared) (ruled : table.rule = some rule)
    (hashes : declared.Hashes) : rule.placement = .hash table.shards := by
  obtain ⟨column, hashes⟩ := hashes
  obtain ⟨own, spread, isRule, same⟩ := isOf.exists_spread ruled
  obtain ⟨-, rfl⟩ := RuleLayout.mk.inj (Option.some.inj (isRule.symm.trans hashes))
  exact same

/-- **In which order shards are declared does not matter** to the shards of a table. -/
theorem IsOf.shards_eq (isOf : table.IsOf declared) {other : TableLayout} {another : Table}
    (also : another.IsOf other) (same : ∀ shard, shard ∈ other.shards ↔ shard ∈ declared.shards) :
    another.shards = table.shards := by
  refine Ascending.eq_of_mem_iff (also.ascending.imp Std.compare_eq_lt.mpr)
    (isOf.ascending.imp Std.compare_eq_lt.mpr) fun shard => ?_
  rw [also.shards, same, isOf.shards]

end Declared

/-- How a rule places sets of values on the shards of a table, whatever it hashes them with. -/
structure PlacesSets (table : Table) (placement : Placement) (digest : List UInt8 → UInt64) : Prop where
  union : ∀ left right placed,
    placement.placeAllBy digest (Ascending.union left right) = .ok placed ↔
      ∃ one other, placement.placeAllBy digest left = .ok one ∧
        placement.placeAllBy digest right = .ok other ∧ placed = Ascending.union one other
  within : ∀ values placed, placement.placeAllBy digest values = .ok placed → placed ⊆ table.shards
  ascending : ∀ values placed, placement.placeAllBy digest values = .ok placed → placed.Pairwise (· < ·)
  filled : ∀ values placed, placement.placeAllBy digest values = .ok placed → values ≠ [] → placed ≠ []
  alone : ∀ value placed, placement.placeAllBy digest [value] = .ok placed → ∃ shard, placed = [shard]

theorem IsOf.placesSets {declared : TableLayout} {table : Table} {rule : Rule}
    (isOf : table.IsOf declared) (ruled : table.rule = some rule) (nonempty : table.shards ≠ [])
    (digest : List UInt8 → UInt64) : table.PlacesSets rule.placement digest where
  union := fun _ _ _ => Placement.placeEach_union
  within := fun values placed whole shard inside => by
    obtain ⟨value, -, found⟩ := (Placement.mem_placeEach whole).mp inside
    exact isOf.covers rule ruled (Placement.mem_shards_of_placeBy found)
  ascending := fun values placed whole => (Placement.placeEach_ascending whole).imp Std.compare_eq_lt.mp
  filled := fun values placed whole given => by
    obtain ⟨value, rest, rfl⟩ := List.exists_cons_of_ne_nil given
    obtain ⟨found, isFound⟩ := Placement.exists_placeEach_iff.mp ⟨placed, whole⟩ value List.mem_cons_self
    obtain ⟨shard, -, rfl⟩ := isOf.placeBy_some ruled nonempty isFound
    exact List.ne_nil_of_mem ((Placement.mem_placeEach whole).mpr ⟨value, List.mem_cons_self, isFound⟩)
  alone := fun value placed whole => by
    obtain ⟨found, isFound⟩ := Placement.exists_placeEach_iff.mp ⟨placed, whole⟩ value List.mem_cons_self
    obtain ⟨shard, -, rfl⟩ := isOf.placeBy_some ruled nonempty isFound
    exact ⟨shard, Except.ok.inj (whole.symm.trans (Placement.placeEach_singleton isFound))⟩

end Table

namespace Schema

/-- **A schema that was accepted places sets**, by every rule of its tables. -/
theorem placesSets_ofLayout {layout : Layout} {schema : Schema} (accepted : ofLayout layout = .ok schema)
    {table : Table} (inside : table ∈ schema.tables) {rule : Rule} (ruled : table.rule = some rule)
    (digest : List UInt8 → UInt64) : table.PlacesSets rule.placement digest := by
  obtain ⟨declared, -, isOf, -⟩ := exists_declared accepted inside
  exact isOf.placesSets ruled (sound_ofLayout accepted inside).nonempty digest

/-- The rule of a table in a schema that was accepted, and the declaration of the table. -/
structure Rules (layout : Layout) (declared : TableLayout) (schema : Schema) (table : Table)
    (rule : Rule) : Prop where
  accepted : ofLayout layout = .ok schema
  listed : declared ∈ layout.tables
  inside : table ∈ schema.tables
  named : table.name = declared.name
  ruled : table.rule = some rule

namespace Rules

variable {layout : Layout} {declared : TableLayout} {schema : Schema} {table : Table} {rule : Rule}

theorem isOf (rules : Rules layout declared schema table rule) : table.IsOf declared :=
  isOf_of_name rules.accepted rules.listed rules.inside rules.named

/-- **Rules by hash are the same** where the same set of shards is declared, in whatever order. -/
theorem placement_eq (rules : Rules layout declared schema table rule) (hashes : declared.Hashes)
    {layout' : Layout} {declared' : TableLayout} {schema' : Schema} {table' : Table} {rule' : Rule}
    (others : Rules layout' declared' schema' table' rule') (also : declared'.Hashes)
    (same : ∀ shard, shard ∈ declared'.shards ↔ shard ∈ declared.shards) :
    rule'.placement = rule.placement := by
  rw [rules.isOf.placement_hash rules.ruled hashes, others.isOf.placement_hash others.ruled also,
    rules.isOf.shards_eq others.isOf same]

end Rules

end Schema

/-- **A set of values is placed by its members.** Let a table of a schema that was accepted have a rule,
and let any function take the place of the hash function; with its own the rule is what it was. The
union of two sets of values is placed if and only if both are, and then on the union of their shards.
Sets that are placed are on shards of the table, in ascending order, on some if they have a member, and
on exactly one if they have no other. And by hash every set is placed, on the same shards as by any
other rule by hash, of a table that declares the same set of shards in whatever order. -/
theorem sets_placed_by_members {layout : Layout} {declared : TableLayout} {schema : Schema} {table : Table}
    {rule : Rule} (rules : Schema.Rules layout declared schema table rule)
    (digest : List UInt8 → UInt64) :
    rule.placement.placeAllBy SeaHash.hash = rule.placement.placeAll ∧
      table.PlacesSets rule.placement digest ∧
        (declared.Hashes → ∀ values,
          (∃ placed, rule.placement.placeAllBy digest values = .ok placed) ∧
            ∀ layout' declared' schema' table' rule',
              Schema.Rules layout' declared' schema' table' rule' → declared'.Hashes →
                (∀ shard, shard ∈ declared'.shards ↔ shard ∈ declared.shards) →
                  rule'.placement.placeAllBy digest values =
                    rule.placement.placeAllBy digest values) := by
  refine ⟨Placement.placeAllBy_hash _,
    Schema.placesSets_ofLayout rules.accepted rules.inside rules.ruled digest, fun hashes values => ⟨?_, ?_⟩⟩
  · rw [rules.isOf.placement_hash rules.ruled hashes]
    exact Placement.exists_placeEach_iff.mpr fun value _ => ⟨_, rfl⟩
  · intro layout' declared' schema' table' rule' others also same
    rw [rules.placement_eq hashes others also same]

/-- Two tables list the same shards by hash, each in its own order. -/
theorem same_shards_same_placement :
    let layout : Layout :=
      { name := "shop"
        shards := [0, 1, 2, 3]
        tables := [
          { name := "users", shards := [3, 0, 2], rule := some ⟨"id", .hash⟩ },
          { name := "carts", shards := [2, 3, 0], rule := some ⟨"owner", .hash⟩ }] }
    let digest := fun bytes : List UInt8 => bytes.length.toUInt64
    ∃ (users carts : TableLayout) (schema : Schema) (one other : Table) (rule rule' : Rule),
      Schema.Rules layout users schema one rule ∧ users.Hashes ∧
        Schema.Rules layout carts schema other rule' ∧ carts.Hashes ∧
          one.PlacesSets rule.placement digest ∧
            ∀ values, ∃ placed, rule.placement.placeAllBy digest values = .ok placed ∧
              rule'.placement.placeAllBy digest values = .ok placed := by
  intro layout digest
  let users : TableLayout := { name := "users", shards := [3, 0, 2], rule := some ⟨"id", .hash⟩ }
  let carts : TableLayout := { name := "carts", shards := [2, 3, 0], rule := some ⟨"owner", .hash⟩ }
  let schema := (Schema.ofLayout layout).toOption.getD default
  let one : Table := ⟨"users", .normal, [0, 2, 3], some ⟨"ID", .hash [0, 2, 3]⟩⟩
  let other : Table := ⟨"carts", .normal, [0, 2, 3], some ⟨"OWNER", .hash [0, 2, 3]⟩⟩
  have accepted : Schema.ofLayout layout = .ok schema := eq_ok_of_isOk (by decide +kernel) default
  obtain ⟨isOne, isOther⟩ : one ∈ schema.tables ∧ other ∈ schema.tables := by decide +kernel
  have rules : Schema.Rules layout users schema one ⟨"ID", .hash [0, 2, 3]⟩ :=
    ⟨accepted, List.mem_cons_self, isOne, rfl, rfl⟩
  have others : Schema.Rules layout carts schema other ⟨"OWNER", .hash [0, 2, 3]⟩ :=
    ⟨accepted, List.mem_cons_of_mem _ List.mem_cons_self, isOther, rfl, rfl⟩
  have hashes : users.Hashes := ⟨"id", rfl⟩
  have also : carts.Hashes := ⟨"owner", rfl⟩
  have same : ∀ shard, shard ∈ carts.shards ↔ shard ∈ users.shards := by
    intro shard
    simp only [carts, users, List.mem_cons, List.not_mem_nil, or_false]
    tauto
  obtain ⟨-, sets, placed⟩ := sets_placed_by_members rules digest
  refine ⟨users, carts, schema, one, other, _, _, rules, hashes, others, also, sets, fun values => ?_⟩
  obtain ⟨⟨shards, whole⟩, alike⟩ := placed hashes values
  exact ⟨shards, whole, (alike _ _ _ _ _ others also same).trans whole⟩

end ScatterGather
