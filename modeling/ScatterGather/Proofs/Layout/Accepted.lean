/-
**Which layouts are accepted.**

The tables of a layout are looked at one after the other, each beside those before it:

* `Layout.TablesConsistent`, `Layout.Consistent`: tables that may stand beside each other, and a layout
  that makes a schema;
* `Layout.Fault`: **what is wrong first** with a layout, whose tables up to that one are consistent;
* `Schema.IsOf`: a schema that is what was declared;
* `made_addTables`, `exists_addTables_iff`, `addTables_fault`: the check of the tables fails at a fault,
  and only there;
* `layouts_accepted` — a layout is accepted **exactly if it is consistent**, as what it declares, and
  refused for its first fault.
-/
import Mathlib.Data.List.Nodup
import ScatterGather.Proofs.Layout.Declared

namespace ScatterGather

/-! ### Consistent layouts -/

namespace Layout

/-- Tables beside each other: each is consistent, and no two are found by the same name. -/
structure TablesConsistent (known : List ShardId) (tables : List TableLayout) : Prop where
  each : ∀ declared ∈ tables, declared.Consistent known
  apart : tables.Pairwise fun one other => Text.upper one.name ≠ Text.upper other.name

/-- A layout that makes a schema. -/
structure Consistent (layout : Layout) : Prop where
  nonempty : layout.shards ≠ []
  tables : TablesConsistent layout.shards layout.tables

/-- **What is wrong first with a layout**: all tables before the one that it is wrong with are
consistent, and its name is looked at last. -/
inductive Fault (layout : Layout) : LayoutError → Prop
  | noShards (none : layout.shards = []) : Fault layout (.noShards layout.name)
  | table {before after : List TableLayout} {declared : TableLayout} {cause : LayoutError}
      (nonempty : layout.shards ≠ []) (split : layout.tables = before ++ declared :: after)
      (consistent : TablesConsistent layout.shards before)
      (fault : declared.Fault layout.name layout.shards cause) : Fault layout cause
  | name {before after : List TableLayout} {declared earlier : TableLayout}
      (nonempty : layout.shards ≠ []) (split : layout.tables = before ++ declared :: after)
      (consistent : TablesConsistent layout.shards before)
      (fine : declared.Consistent layout.shards) (isEarlier : earlier ∈ before)
      (same : Text.upper earlier.name = Text.upper declared.name) :
      Fault layout (.duplicateTable declared.name)

end Layout

/-- **A schema is what was declared**, its tables in the order of their declarations. -/
structure Schema.IsOf (layout : Layout) (schema : Schema) : Prop where
  name : schema.name = layout.name
  shards : ∀ shard, shard ∈ schema.shards ↔ shard ∈ layout.shards
  ascending : schema.shards.Pairwise (· < ·)
  tables : List.Forall₂ Table.IsOf layout.tables schema.tables

/-! ### Tables beside each other -/

namespace Layout

variable {known : List ShardId}

theorem tablesConsistent_nil (known : List ShardId) : TablesConsistent known [] :=
  ⟨fun _ inside => absurd inside List.not_mem_nil, List.Pairwise.nil⟩

/-- One more table may stand beside others if it is consistent and has another name than each. -/
theorem tablesConsistent_concat {before : List TableLayout} {declared : TableLayout} :
    TablesConsistent known (before ++ [declared]) ↔ TablesConsistent known before ∧
      declared.Consistent known ∧
        ∀ earlier ∈ before, Text.upper earlier.name ≠ Text.upper declared.name := by
  constructor
  · rintro ⟨each, apart⟩
    obtain ⟨apart, -, differ⟩ := List.pairwise_append.mp apart
    exact ⟨⟨fun one inside => each one (List.mem_append_left _ inside), apart⟩,
      each declared (List.mem_append_right _ List.mem_cons_self),
      fun earlier inside => differ earlier inside declared List.mem_cons_self⟩
  · rintro ⟨⟨each, apart⟩, last, differ⟩
    refine ⟨fun one inside => ?_, ?_⟩
    · rcases List.mem_append.mp inside with earlier | isLast
      · exact each one earlier
      · exact List.mem_singleton.mp isLast ▸ last
    · refine List.pairwise_append.mpr ⟨apart, List.pairwise_singleton _ _, ?_⟩
      intro earlier inside one isLast
      exact List.mem_singleton.mp isLast ▸ differ earlier inside

theorem TablesConsistent.of_append {before after : List TableLayout}
    (consistent : TablesConsistent known (before ++ after)) : TablesConsistent known before :=
  ⟨fun one inside => consistent.each one (List.mem_append_left _ inside),
    (List.pairwise_append.mp consistent.apart).1⟩

end Layout

theorem Layout.TablesConsistent.mono {known other : List ShardId} {tables : List TableLayout}
    (within : known ⊆ other) (consistent : TablesConsistent known tables) :
    TablesConsistent other tables :=
  ⟨fun declared inside => (consistent.each declared inside).mono within, consistent.apart⟩

namespace Schema

section Tables

variable {schema : String} {known : List ShardId} {found : List Table}
  {before listed : List TableLayout}

theorem addTables_cons (declared : TableLayout) :
    addTables schema known found (declared :: listed) =
      Table.ofLayout schema known declared >>= fun table =>
        if ∃ other ∈ found, other.key = table.key then .error (.duplicateTable declared.name)
        else addTables schema known (found ++ [table]) listed := by
  simp [addTables]

theorem addTables_append (others : List TableLayout) :
    addTables schema known found (listed ++ others) =
      addTables schema known found listed >>= fun tables => addTables schema known tables others := by
  induction listed generalizing found with
  | nil => rfl
  | cons declared rest ih =>
    rw [List.cons_append, addTables_cons, addTables_cons]
    cases Table.ofLayout schema known declared with
    | error cause => rfl
    | ok table =>
      rw [ok_bind, ok_bind]
      split
      · rfl
      · exact ih

/-- The tables so far have the names that were declared so far. -/
theorem key_iff (made : List.Forall₂ Table.IsOf before found) {declared : TableLayout} {table : Table}
    (isOf : table.IsOf declared) : (∃ other ∈ found, other.key = table.key) ↔
      ∃ earlier ∈ before, Text.upper earlier.name = Text.upper declared.name := by
  simp only [Table.key, isOf.name]
  constructor
  · rintro ⟨other, inside, same⟩
    obtain ⟨earlier, isEarlier, isOther⟩ := exists_of_mem_results made inside
    exact ⟨earlier, isEarlier, isOther.name ▸ same⟩
  · rintro ⟨earlier, inside, same⟩
    obtain ⟨other, isOther, isEarlier⟩ := exists_of_mem_members made inside
    exact ⟨other, isOther, isEarlier.name.symm ▸ same⟩

theorem made_concat (made : List.Forall₂ Table.IsOf before found) {declared : TableLayout}
    {table : Table} (isOf : table.IsOf declared) :
    List.Forall₂ Table.IsOf (before ++ [declared]) (found ++ [table]) :=
  List.rel_append made (.cons isOf .nil)

/-- **Tables that are added are what was declared**, one by one. -/
theorem made_addTables (made : List.Forall₂ Table.IsOf before found) {tables : List Table}
    (added : addTables schema known found listed = .ok tables) :
    List.Forall₂ Table.IsOf (before ++ listed) tables := by
  induction listed generalizing found before with
  | nil =>
    obtain rfl : found = tables := Except.ok.inj added
    rwa [List.append_nil]
  | cons declared rest ih =>
    rw [addTables_cons] at added
    obtain ⟨table, own, added⟩ := bind_eq_ok.mp added
    split at added
    · cases added
    · rw [List.append_cons]
      exact ih (made_concat made (Table.ofLayout_eq_ok own).2) added

/-- **Tables are added exactly if they may all stand beside each other.** -/
theorem exists_addTables_iff (made : List.Forall₂ Table.IsOf before found)
    (consistent : Layout.TablesConsistent known before) :
    (∃ tables, addTables schema known found listed = .ok tables) ↔
      Layout.TablesConsistent known (before ++ listed) := by
  induction listed generalizing found before with
  | nil =>
    rw [List.append_nil]
    exact ⟨fun _ => consistent, fun _ => ⟨found, rfl⟩⟩
  | cons declared rest ih =>
    rw [addTables_cons, List.append_cons]
    cases own : Table.ofLayout schema known declared with
    | error cause =>
      refine ⟨nofun, fun whole => ?_⟩
      obtain ⟨table, given⟩ : ∃ table, Table.ofLayout schema known declared = .ok table :=
        Table.exists_ofLayout_iff.mpr (Layout.tablesConsistent_concat.mp whole.of_append).2.1
      rw [own] at given
      cases given
    | ok table =>
      obtain ⟨fine, isOf⟩ := Table.ofLayout_eq_ok own
      rw [ok_bind]
      split
      · next clash =>
        obtain ⟨earlier, inside, same⟩ := (key_iff made isOf).mp clash
        exact ⟨nofun, fun whole => absurd same
          ((Layout.tablesConsistent_concat.mp whole.of_append).2.2 earlier inside)⟩
      · next apart =>
        refine ih (made_concat made isOf) (Layout.tablesConsistent_concat.mpr ⟨consistent, fine, ?_⟩)
        exact fun earlier inside same => apart ((key_iff made isOf).mpr ⟨earlier, inside, same⟩)

/-- **Tables are refused at the first** that is faulty, or whose name is there. -/
theorem addTables_fault {cause : LayoutError} (made : List.Forall₂ Table.IsOf before found)
    (consistent : Layout.TablesConsistent known before)
    (refused : addTables schema known found listed = .error cause) :
    ∃ earlier declared later, before ++ listed = earlier ++ declared :: later ∧
      Layout.TablesConsistent known earlier ∧ (declared.Fault schema known cause ∨
        declared.Consistent known ∧ cause = .duplicateTable declared.name ∧
          ∃ other ∈ earlier, Text.upper other.name = Text.upper declared.name) := by
  induction listed generalizing found before with
  | nil => cases refused
  | cons declared rest ih =>
    rw [addTables_cons] at refused
    cases own : Table.ofLayout schema known declared with
    | error other =>
      rw [own] at refused
      obtain rfl : other = cause := Except.error.inj refused
      exact ⟨before, declared, rest, rfl, consistent, Or.inl (Table.ofLayout_eq_error.mp own)⟩
    | ok table =>
      rw [own, ok_bind] at refused
      obtain ⟨fine, isOf⟩ := Table.ofLayout_eq_ok own
      split at refused
      · next clash =>
        exact ⟨before, declared, rest, rfl, consistent,
          Or.inr ⟨fine, (Except.error.inj refused).symm, (key_iff made isOf).mp clash⟩⟩
      · next apart =>
        rw [List.append_cons]
        refine ih (made_concat made isOf)
          (Layout.tablesConsistent_concat.mpr ⟨consistent, fine, ?_⟩) refused
        exact fun earlier inside same => apart ((key_iff made isOf).mpr ⟨earlier, inside, same⟩)

end Tables

/-! ### Layouts -/

section Layouts

variable {layout : Layout}

/-- The shards of a schema are the set of those that its layout lists. -/
theorem mem_known (shard : ShardId) : shard ∈ Ascending.ofList layout.shards ↔ shard ∈ layout.shards :=
  Ascending.mem_ofList

/-- The schema of a layout without shards is refused for that, whatever its tables are. -/
theorem ofLayout_of_none (none : layout.shards = []) : ofLayout layout = .error (.noShards layout.name) := by
  unfold ofLayout
  rw [none]
  rfl

/-- The schema of a layout that lists shards has them, and the tables that can be added. -/
theorem ofLayout_of_nonempty (nonempty : layout.shards ≠ []) : ofLayout layout =
    (addTables layout.name (Ascending.ofList layout.shards) [] layout.tables).map fun tables =>
      ⟨layout.name, Ascending.ofList layout.shards, tables⟩ := by
  obtain ⟨shard, rest, listed⟩ := List.exists_cons_of_ne_nil nonempty
  have member : shard ∈ Ascending.ofList layout.shards :=
    (mem_known shard).mpr (listed ▸ List.mem_cons_self)
  unfold ofLayout
  dsimp only
  rw [if_neg (by rw [List.isEmpty_iff]; exact List.ne_nil_of_mem member)]
  rfl

/-- **A schema that is made is what was declared.** -/
theorem isOf_of_ofLayout {schema : Schema} (accepted : ofLayout layout = .ok schema) :
    schema.IsOf layout := by
  by_cases nonempty : layout.shards = []
  · rw [ofLayout_of_none nonempty] at accepted
    cases accepted
  · rw [ofLayout_of_nonempty nonempty] at accepted
    obtain ⟨tables, added, rfl⟩ := map_eq_ok.mp accepted
    exact ⟨rfl, mem_known, (Ascending.ofList_ascending _).imp Std.compare_eq_lt.mp,
      made_addTables .nil added⟩

/-- A layout is accepted exactly if it is consistent. -/
theorem exists_ofLayout_iff : (∃ schema, ofLayout layout = .ok schema) ↔ layout.Consistent := by
  by_cases nonempty : layout.shards = []
  · rw [ofLayout_of_none nonempty]
    exact ⟨nofun, fun consistent => absurd nonempty consistent.nonempty⟩
  · rw [ofLayout_of_nonempty nonempty]
    have tables : (∃ tables, addTables layout.name (Ascending.ofList layout.shards) [] layout.tables =
        .ok tables) ↔ Layout.TablesConsistent (Ascending.ofList layout.shards) layout.tables :=
      exists_addTables_iff .nil (Layout.tablesConsistent_nil _)
    constructor
    · rintro ⟨schema, accepted⟩
      obtain ⟨made, added, -⟩ := map_eq_ok.mp accepted
      exact ⟨nonempty, (tables.mp ⟨made, added⟩).mono fun shard => (mem_known shard).mp⟩
    · rintro ⟨-, consistent⟩
      obtain ⟨made, added⟩ := tables.mpr (consistent.mono fun shard => (mem_known shard).mpr)
      exact ⟨_, map_eq_ok.mpr ⟨made, added, rfl⟩⟩

/-- A layout that is refused has a fault. -/
theorem fault_of_ofLayout {cause : LayoutError} (refused : ofLayout layout = .error cause) :
    layout.Fault cause := by
  by_cases nonempty : layout.shards = []
  · rw [ofLayout_of_none nonempty] at refused
    obtain rfl := Except.error.inj refused
    exact .noShards nonempty
  · rw [ofLayout_of_nonempty nonempty, map_eq_error] at refused
    obtain ⟨before, declared, after, split, consistent, fault⟩ :=
      addTables_fault .nil (Layout.tablesConsistent_nil _) refused
    have consistent := consistent.mono fun shard => (mem_known shard).mp
    rcases fault with fault | ⟨fine, rfl, earlier, isEarlier, same⟩
    · exact .table nonempty split consistent (fault.congr mem_known)
    · exact .name nonempty split consistent (fine.mono fun shard => (mem_known shard).mp) isEarlier same

/-- The tables before some table are added, whatever they come to, and that one is next. -/
theorem ofLayout_of_split {before after : List TableLayout} {declared : TableLayout}
    (nonempty : layout.shards ≠ []) (split : layout.tables = before ++ declared :: after)
    (consistent : Layout.TablesConsistent layout.shards before) :
    ∃ found, List.Forall₂ Table.IsOf before found ∧ ofLayout layout =
      (addTables layout.name (Ascending.ofList layout.shards) found (declared :: after)).map
        fun tables => ⟨layout.name, Ascending.ofList layout.shards, tables⟩ := by
  have known := consistent.mono fun shard => (mem_known shard).mpr
  obtain ⟨found, added⟩ : ∃ found, addTables layout.name (Ascending.ofList layout.shards) [] before =
      .ok found :=
    (exists_addTables_iff .nil (Layout.tablesConsistent_nil _)).mpr known
  refine ⟨found, made_addTables .nil added, ?_⟩
  rw [ofLayout_of_nonempty nonempty, split, addTables_append, added]
  rfl

/-- **A layout is refused exactly for its first fault.** -/
theorem ofLayout_eq_error {cause : LayoutError} :
    ofLayout layout = .error cause ↔ layout.Fault cause := by
  refine ⟨fault_of_ofLayout, fun fault => ?_⟩
  cases fault with
  | noShards none => exact ofLayout_of_none none
  | table nonempty split consistent fault =>
    obtain ⟨found, -, whole⟩ := ofLayout_of_split nonempty split consistent
    have fault := Table.ofLayout_eq_error.mpr (fault.congr fun shard => (mem_known shard).symm)
    rw [whole, addTables_cons, fault]
    rfl
  | name nonempty split consistent fine isEarlier same =>
    obtain ⟨found, made, whole⟩ := ofLayout_of_split nonempty split consistent
    obtain ⟨table, own⟩ : ∃ table, Table.ofLayout layout.name (Ascending.ofList layout.shards) _ =
        .ok table :=
      Table.exists_ofLayout_iff.mpr (fine.mono fun shard => (mem_known shard).mpr)
    rw [whole, addTables_cons, own, ok_bind,
      if_pos ((key_iff made (Table.ofLayout_eq_ok own).2).mpr ⟨_, isEarlier, same⟩)]
    rfl

end Layouts

/-! ### Names of tables -/

section Names

variable {layout : Layout} {schema : Schema}

/-- **No two tables of a schema have the same name** in uppercase. -/
theorem nodup_keys (accepted : ofLayout layout = .ok schema) :
    (schema.tables.map Table.key).Nodup := by
  have made := (isOf_of_ofLayout accepted).tables
  have apart := (exists_ofLayout_iff.mp ⟨schema, accepted⟩).tables.apart
  have keys : schema.tables.map Table.key =
      layout.tables.map fun declared => Text.upper declared.name := by
    rw [eq_comm, ← List.forall₂_eq_eq_eq, List.forall₂_map_left_iff, List.forall₂_map_right_iff]
    exact made.imp fun declared table isOf => by rw [Table.key, isOf.name]
  rw [keys, List.Nodup, List.pairwise_map]
  exact apart

/-- Tables of a schema are the same if their names are, letter case aside. -/
theorem eq_of_key (accepted : ofLayout layout = .ok schema) {one other : Table}
    (inside : one ∈ schema.tables) (alsoInside : other ∈ schema.tables) (same : one.key = other.key) :
    one = other :=
  List.inj_on_of_nodup_map (nodup_keys accepted) inside alsoInside same

/-- **A table is what was declared under its name.** -/
theorem isOf_of_name (accepted : ofLayout layout = .ok schema) {declared : TableLayout}
    (listed : declared ∈ layout.tables) {table : Table} (inside : table ∈ schema.tables)
    (named : table.name = declared.name) : table.IsOf declared := by
  obtain ⟨own, isOwn, isOf⟩ := exists_of_mem_members (isOf_of_ofLayout accepted).tables listed
  have same : own.key = table.key := congrArg Text.upper (isOf.name.trans named.symm)
  exact eq_of_key accepted isOwn inside same ▸ isOf

end Names

end Schema

/-- **Layouts are accepted exactly if they are consistent.** A layout makes a schema if and only if it
lists a shard, every table lists at least one shard, only shards of the layout and none twice, every
rule by ranges has as many bounds as the table has shards and each less than those behind it, and no two
tables have the same name in uppercase. The schema is then what was declared: its shards and those of
its tables ascend and are the ones listed, and bounds belong to shards in the order of their lists. And
a layout is refused exactly for what is wrong with it first: that it lists no shard, or the first table
which is faulty beside those before it, by its shards, then by its bounds and then by its name. -/
theorem layouts_accepted (layout : Layout) :
    ((∃ schema, Schema.ofLayout layout = .ok schema) ↔ layout.Consistent) ∧
      (∀ schema, Schema.ofLayout layout = .ok schema → schema.IsOf layout) ∧
        ∀ cause, Schema.ofLayout layout = .error cause ↔ layout.Fault cause :=
  ⟨Schema.exists_ofLayout_iff, fun _ => Schema.isOf_of_ofLayout, fun _ => Schema.ofLayout_eq_error⟩

/-- Of two faulty tables the first is told of, and of its faults that of its shards. -/
example : Schema.ofLayout
    { name := "shop"
      shards := [0, 1]
      tables := [
        { name := "users", shards := [1, 1], rule := some ⟨"id", .range [5]⟩ },
        { name := "USERS", shards := [] }] } = .error (.duplicateShard "users" 1) := by
  decide +kernel

end ScatterGather
