/-
**No row is missed.**

A statement on a single table goes to the shards on which the rule of the table places the keys that its
condition binds. Wherever the condition holds of a row, the shard of the row is one of them:

* `Filter`, `Statement.filter?`: a single table and a condition on its rows, as a query, a change or a
  deletion has them;
* `ofStatement_of_filter?` — what a router knows of such a statement: its table, and the keys that the
  condition binds if it looks at it at all;
* `mem_outlets`: a shard is among the outlets if **no key is bound or one of its own** is;
* `ofFacts_cases`: where a statement can go at all;
* `row_not_missed` — the shard of every row that the condition holds of gets the statement.
-/
import ScatterGather.Proofs.Routing.Truth
import ScatterGather.Routing.Route

namespace ScatterGather

/-! ### Statements on a single table -/

namespace Sql

/-- A single table and a condition on its rows. -/
structure Filter where
  table : NamedTable
  condition : Expr
  /-- Whether a column's name alone means one of the table. -/
  sole : Bool
  deriving Repr, Inhabited

/-- The key column of a table as a condition on its rows may name it. -/
def Filter.keyColumn (filter : Filter) (column : String) : KeyColumn :=
  { name := column
    qualifiers := KeyColumn.qualifiersOf (.table filter.table)
    sole := filter.sole }

/-- The single table of some sources, and the condition on it. -/
def filterOf? (sources : List Source) (condition : Option Expr) (sole : Bool) : Option Filter :=
  match sources, condition with
  | [⟨.table table, []⟩], some condition => some ⟨table, condition, sole⟩
  | _, _ => none

/-- The selection of a body, parentheses aside. -/
def Body.selection? : Body → Option Select
  | .select selection => some selection
  | .nested _ body _ => body.selection?
  | _ => none

/-- The single table of a query, a change or a deletion, and the condition on its rows. A deletion may
list the table apart, by any name that means it. -/
def Statement.filter? : Statement → Option Filter
  | .query whole =>
    whole.body.selection?.bind fun selection =>
      filterOf? selection.sources selection.condition true
  | .update change => filterOf? [change.target] change.condition true
  | .delete deletion =>
    (filterOf? deletion.sources deletion.condition
        (deletion.tables.isEmpty && deletion.usingSources.isNone)).filter fun filter =>
      deletion.tables.all fun name =>
        Schema.keyOf (pathName name) == Schema.keyOf (pathName filter.table.name)
  | _ => none

theorem filterOf?_eq_some {sources : List Source} {condition : Option Expr} {sole : Bool}
    {filter : Filter} (alone : filterOf? sources condition sole = some filter) :
    sources = [⟨.table filter.table, []⟩] ∧ condition = some filter.condition ∧
      sole = filter.sole := by
  unfold filterOf? at alone
  split at alone
  · obtain rfl := Option.some.inj alone
    exact ⟨rfl, rfl, rfl⟩
  · cases alone

end Sql

open Sql

namespace Facts

theorem bodyTable?_of_selection? {body : Body} {selection : Select} {table : NamedTable}
    (selects : body.selection? = some selection)
    (sources : selection.sources = [⟨.table table, []⟩]) :
    bodyTable? body = some (pathName table.name) := by
  induction body with
  | select plain =>
    obtain rfl : plain = selection := Option.some.inj selects
    rw [bodyTable?, sources]
    rfl
  | nested preamble body tail ih => exact ih selects
  | combined left operator right => cases selects
  | values explicitRow rows => cases selects
  | table name => cases selects
  | write spelling => cases selects

/-- What is bound by a condition on a single table. -/
theorem sourceValues_of_filter {filter : Filter} {column : String} {others : Bool}
    (sole : (!others) = filter.sole) :
    sourceValues column [⟨.table filter.table, []⟩] others (some filter.condition) =
      (boundValues? (filter.keyColumn column) filter.condition).getD [] := by
  have same : (!(others || !([] : List Source).isEmpty) && ([] : List String).isEmpty) =
      filter.sole := by
    rw [← sole]
    cases others <;> rfl
  rw [sourceValues, conditionValues, same]
  rfl

theorem column?_of_table? {schema : Schema} {statement : Statement} {table : Table} {rule : Rule}
    (about : (table? statement).bind schema.table? = some table) (ruled : table.rule = some rule) :
    column? schema statement = some rule.column := by
  have column : column? schema statement =
      ((table? statement).bind schema.table?).bind Table.ruleColumn? :=
    (Option.bind_assoc _ _ _).symm
  rw [column, about, Option.bind_some, Table.ruleColumn?, ruled]
  rfl

/-- A statement on a single table is about the table. -/
theorem table?_of_filter? {schema : Schema} {statement : Statement} {filter : Filter}
    {table : Table} (alone : statement.filter? = some filter)
    (found : schema.table? (pathName filter.table.name) = some table) :
    (table? statement).bind schema.table? = some table := by
  cases statement with
  | query query =>
    obtain ⟨selection, selects, alone⟩ := Option.bind_eq_some_iff.mp alone
    rw [table?, bodyTable?_of_selection? selects (filterOf?_eq_some alone).1]
    exact found
  | update update =>
    have target : update.target = ⟨.table filter.table, []⟩ :=
      List.singleton_inj.mp (filterOf?_eq_some alone).1
    rw [table?, target]
    exact found
  | delete delete =>
    obtain ⟨alone, listed⟩ := Option.filter_eq_some_iff.mp alone
    rw [table?]
    cases tables : delete.tables with
    | nil =>
      rw [(filterOf?_eq_some alone).1]
      exact found
    | cons name rest =>
      rw [tables, List.all_cons, Bool.and_eq_true, beq_iff_eq] at listed
      exact (Schema.table?_congr schema listed.1).trans found
  | _ => cases alone

/-- What a query on a single table binds, if it is not in parentheses. -/
theorem queryValues_of_filter {filter : Filter} {column : String} {query : Query}
    {selection : Select} (selects : query.body.selection? = some selection)
    (alone : filterOf? selection.sources selection.condition true = some filter) :
    queryValues (some column) query = [] ∨ queryValues (some column) query =
      (boundValues? (filter.keyColumn column) filter.condition).getD [] := by
  obtain ⟨sources, condition, sole⟩ := filterOf?_eq_some alone
  unfold queryValues
  cases body : query.body with
  | select plain =>
    rw [body] at selects
    obtain rfl : plain = selection := Option.some.inj selects
    refine Or.inr ?_
    show sourceValues column plain.sources false plain.condition = _
    rw [sources, condition]
    exact sourceValues_of_filter sole
  | nested preamble body tail => exact Or.inl rfl
  | combined left operator right => exact Or.inl rfl
  | values explicitRow rows => exact Or.inl rfl
  | table name => exact Or.inl rfl
  | write spelling => exact Or.inl rfl

/-- **What a router knows of a statement on a single table**: the table, and the keys that the condition
binds, if any. It does not look at the condition of a query in parentheses. -/
theorem ofStatement_of_filter? {schema : Schema} {statement : Statement} {filter : Filter}
    {table : Table} {rule : Rule} (alone : statement.filter? = some filter)
    (found : schema.table? (pathName filter.table.name) = some table)
    (ruled : table.rule = some rule) {facts : Facts}
    (known : ofStatement schema statement = .ok facts) :
    facts.table.bind schema.table? = some table ∧ facts.rows = [] ∧
      (facts.values = [] ∨ facts.values =
        (boundValues? (filter.keyColumn rule.column) filter.condition).getD []) := by
  have about := table?_of_filter? alone found
  have column := column?_of_table? about ruled
  cases statement with
  | query query =>
    obtain ⟨selection, selects, alone⟩ := Option.bind_eq_some_iff.mp alone
    obtain rfl := Except.ok.inj known
    refine ⟨about, rfl, ?_⟩
    show queryValues (column? schema (.query query)) query = [] ∨ queryValues _ query = _
    rw [column]
    exact queryValues_of_filter selects alone
  | update update =>
    obtain ⟨sources, condition, sole⟩ := filterOf?_eq_some alone
    simp only [ofStatement, column, sources, condition] at known
    obtain rfl := Except.ok.inj known
    exact ⟨about, rfl, Or.inr (sourceValues_of_filter sole)⟩
  | delete delete =>
    obtain ⟨alone, -⟩ := Option.filter_eq_some_iff.mp alone
    obtain ⟨sources, condition, sole⟩ := filterOf?_eq_some alone
    simp only [ofStatement, column] at known
    obtain rfl := Except.ok.inj known
    refine ⟨about, rfl, Or.inr ?_⟩
    show deleteValues rule.column delete = _
    rw [deleteValues, sources, condition, sourceValues_of_filter]
    rw [← sole]
    cases delete.tables.isEmpty <;> cases delete.usingSources <;> rfl
  | _ => cases alone

end Facts

/-! ### The shards of a statement -/

namespace Routing

/-- Values that are placed are placed by the rule of their table, on at least one shard and on no other
than those of the table. -/
theorem placed_eq_ok {table : Table} {values : List KeyValue} {shards : List ShardId}
    (whole : placed table values = .ok shards) : ∃ rule, table.rule = some rule ∧
      rule.placement.placeAll values = .ok shards ∧ shards ≠ [] ∧ shards ⊆ table.shards := by
  unfold placed at whole
  cases ruled : table.rule with
  | none =>
    rw [ruled] at whole
    cases whole
  | some rule =>
    refine ⟨rule, rfl, ?_⟩
    cases all : rule.placement.placeAll values with
    | error cause =>
      simp only [ruled, all] at whole
      cases whole
    | ok found =>
      cases found with
      | nil =>
        simp only [ruled, all] at whole
        cases whole
      | cons first rest =>
        simp only [ruled, all] at whole
        split at whole
        · cases whole
        · next inside =>
          obtain rfl := Except.ok.inj whole
          refine ⟨rfl, List.cons_ne_nil _ _, fun shard isPlaced => ?_⟩
          have known := List.find?_eq_none.mp inside shard isPlaced
          rw [Bool.not_eq_true', Bool.not_eq_false] at known
          exact List.contains_iff_mem.mp known

theorem placeAll_of_placed {table : Table} {rule : Rule} {values : List KeyValue}
    {shards : List ShardId} (ruled : table.rule = some rule)
    (whole : placed table values = .ok shards) : rule.placement.placeAll values = .ok shards := by
  obtain ⟨own, isOwn, all, -⟩ := placed_eq_ok whole
  obtain rfl : own = rule := Option.some.inj (isOwn.symm.trans ruled)
  exact all

theorem map_shard (shards : List ShardId) (sql : String) :
    (shards.map fun shard => (⟨shard, sql⟩ : Outlet)).map Outlet.shard = shards := by
  rw [List.map_map]
  exact List.map_id shards

/-- **A shard is among the outlets** if no key is bound, or one that is placed on it. -/
theorem mem_outlets {table : Table} {rule : Rule} {facts : Facts} {sql : String}
    {outlets : List Outlet} {value : KeyValue} {shard : ShardId} (covers : table.Covers)
    (ruled : table.rule = some rule) (noRows : facts.rows = [])
    (bound : facts.values = [] ∨ value ∈ facts.values)
    (made : Routing.outlets table facts sql = .ok outlets)
    (owns : rule.placement.place value = .ok (some shard)) :
    shard ∈ outlets.map Outlet.shard := by
  unfold Routing.outlets at made
  by_cases none : facts.values = []
  · rw [none] at made
    obtain rfl := Except.ok.inj made
    rw [map_shard]
    exact covers rule ruled (Placement.mem_shards_of_place owns)
  · have isBound := bound.resolve_left none
    rw [if_neg (by rwa [List.isEmpty_iff]), noRows] at made
    obtain ⟨shards, whole, given⟩ := bind_eq_ok.mp made
    obtain rfl := Except.ok.inj given
    rw [map_shard]
    exact (Placement.mem_placeAll (placeAll_of_placed ruled whole)).mpr ⟨value, isBound, owns⟩

/-- A plan is on the shards of its outlets, whatever they are sent. -/
theorem plan_shards (facts : Facts) (outlets : List Outlet) :
    (plan facts outlets).outlets.map Outlet.shard = outlets.map Outlet.shard := by
  unfold plan
  split
  · rfl
  · split
    · rw [List.map_map]
      rfl
    · rfl

theorem plan_length (facts : Facts) (outlets : List Outlet) :
    (plan facts outlets).outlets.length = outlets.length := by
  have shards := congrArg List.length (plan_shards facts outlets)
  rwa [List.length_map, List.length_map] at shards

/-- A statement that is routed is routed by its facts. -/
theorem exists_of_route {schema : Schema} {sql charset : String} {kind : Kind} {result : Route}
    (routed : route schema sql charset kind = .ok result) :
    ∃ facts, Facts.ofText schema sql = .ok facts ∧ ofFacts schema facts sql kind = .ok result := by
  unfold route at routed
  split at routed
  · exact bind_eq_ok.mp routed
  · cases routed

/-- A statement goes to all its outlets unless any copy of its table would do. -/
theorem ofFacts_of_table {schema : Schema} {facts : Facts} {sql : String} {kind : Kind} {table : Table}
    (about : facts.table.bind schema.table? = some table)
    (spread : (table.isGlobal && kind.isRead) = false) :
    ofFacts schema facts sql kind =
      (outlets table facts sql).map fun outlets => .all (plan facts outlets) := by
  simp only [ofFacts, about, spread, Bool.false_eq_true, if_false]

/-- **Where a statement can go**: to any shard of the schema without a table that it knows, to any copy of
a table where one will do, and else to all its outlets. -/
theorem ofFacts_cases (schema : Schema) (facts : Facts) (sql : String) (kind : Kind) :
    (facts.table.bind schema.table? = none ∧
        ofFacts schema facts sql kind = .ok (.anyOf schema.shards sql)) ∨
      ∃ table ∈ schema.tables, facts.table.bind schema.table? = some table ∧
        ((table.isGlobal && kind.isRead) = true ∧
            ofFacts schema facts sql kind = .ok (.anyOf table.shards sql) ∨
          (table.isGlobal && kind.isRead) = false ∧
            ofFacts schema facts sql kind =
              (outlets table facts sql).map fun outlets => .all (plan facts outlets)) := by
  cases about : facts.table.bind schema.table? with
  | none => exact Or.inl ⟨rfl, by rw [ofFacts, about]⟩
  | some table =>
    obtain ⟨name, -, found⟩ := Option.bind_eq_some_iff.mp about
    refine Or.inr ⟨table, Schema.mem_of_table? found, rfl, ?_⟩
    cases spread : table.isGlobal && kind.isRead with
    | true => exact Or.inl ⟨rfl, by simp only [ofFacts, about, spread, if_true]⟩
    | false => exact Or.inr ⟨rfl, ofFacts_of_table about spread⟩

/-- A plan is made of the outlets of a statement about a table. -/
theorem exists_of_route_all {schema : Schema} {sql charset : String} {kind : Kind} {plan : Plan}
    (routed : route schema sql charset kind = .ok (.all plan)) :
    ∃ facts outlets, Facts.ofText schema sql = .ok facts ∧ plan = Routing.plan facts outlets := by
  obtain ⟨facts, known, given⟩ := exists_of_route routed
  obtain ⟨-, whole⟩ | ⟨table, -, -, ⟨-, whole⟩ | ⟨-, whole⟩⟩ := ofFacts_cases schema facts sql kind
  · rw [whole] at given
    cases given
  · rw [whole] at given
    cases given
  · rw [whole] at given
    obtain ⟨outlets, -, same⟩ := map_eq_ok.mp given
    exact ⟨facts, outlets, known, (Route.all.inj same).symm⟩

end Routing

/-- **No row is missed.** In a schema that was accepted let a statement be on a single table, which is
spread by a rule, and let its condition hold of a row of the table. If the condition binds keys, that of
the row is one of them; and wherever the statement is routed, the shard of the row gets it. -/
theorem row_not_missed {layout : Layout} {schema : Schema}
    (accepted : Schema.ofLayout layout = .ok schema) {sql : String} {statement : Statement}
    (parsed : Statement.parse sql = .ok statement) {filter : Filter}
    (alone : statement.filter? = some filter) {table : Table}
    (found : schema.table? (pathName filter.table.name) = some table)
    (spread : table.isGlobal = false) {rule : Rule} (ruled : table.rule = some rule)
    {value : KeyValue} {free : List Turn → Truth}
    (holds : truth (filter.keyColumn rule.column) value filter.condition free = .holds) :
    (∀ bound, boundValues? (filter.keyColumn rule.column) filter.condition = some bound →
        value ∈ bound) ∧
      ∀ (charset : String) (kind : Kind) (choose : List ShardId → ShardId) (result : Route)
        (own : List ShardId), route schema sql charset kind = .ok result →
          rule.placement.placeAll [value] = .ok own →
            own ⊆ (result.pick choose).outlets.map Outlet.shard := by
  refine ⟨fun _ => mem_of_boundValues? holds, ?_⟩
  intro charset kind choose result own routed placed shard isOwn
  obtain ⟨only, isOnly, owns⟩ := (Placement.mem_placeAll placed).mp isOwn
  obtain rfl : only = value := List.mem_singleton.mp isOnly
  unfold route at routed
  split at routed
  · obtain ⟨facts, known, routed⟩ := bind_eq_ok.mp routed
    unfold Facts.ofText at known
    rw [parsed] at known
    obtain ⟨about, noRows, values⟩ := Facts.ofStatement_of_filter? alone found ruled known
    have bound : facts.values = [] ∨ only ∈ facts.values := by
      cases binds : boundValues? (filter.keyColumn rule.column) filter.condition with
      | none =>
        rw [binds] at values
        exact Or.inl (values.elim id id)
      | some bound =>
        rw [binds] at values
        refine values.imp_right fun values => ?_
        rw [values]
        exact mem_of_boundValues? holds binds
    unfold Routing.ofFacts at routed
    rw [about] at routed
    simp only [spread, Bool.false_and, Bool.false_eq_true, if_false] at routed
    obtain ⟨outlets, made, same⟩ := map_eq_ok.mp routed
    obtain rfl := same
    show shard ∈ (Routing.plan facts outlets).outlets.map Outlet.shard
    rw [Routing.plan_shards]
    have covers := Schema.covers_ofLayout accepted (Schema.mem_of_table? found)
    exact Routing.mem_outlets covers ruled noRows bound made owns
  · cases routed

/-- User 7 of the demo layout is on shard 3, and a query on its key that holds of it goes there. -/
theorem user_not_missed :
    let sql := "SELECT * FROM users WHERE id IN (7, 8) AND age = 30"
    ∃ (schema : Schema) (result : Route), Schema.ofLayout (Layout.demo 4) = .ok schema ∧
      route schema sql "utf8mb4" .select = .ok result ∧
        [3] ⊆ (result.pick fun _ => 0).outlets.map Outlet.shard := by
  intro sql
  let schema := (Schema.ofLayout (Layout.demo 4)).toOption.getD default
  let statement := (Statement.parse sql).toOption.getD default
  let filter := statement.filter?.getD default
  let users := (schema.table? "users").getD default
  let rule := users.rule.getD default
  -- All that is asked of the statement is evaluated at once, so that it is read a single time.
  obtain ⟨isParsed, isAlone, found, holds, isRouted⟩ : (Statement.parse sql).isOk = true ∧
      statement.filter?.isSome = true ∧
        schema.table? (pathName filter.table.name) = some users ∧
          truth (filter.keyColumn rule.column) (.integer 7) filter.condition (fun _ => .holds) =
            .holds ∧
          (route schema sql "utf8mb4" .select).isOk = true := by
    decide +kernel
  have accepted : Schema.ofLayout (Layout.demo 4) = .ok schema :=
    eq_ok_of_isOk (by decide +kernel) default
  have spread : users.isGlobal = false := by decide +kernel
  have ruled : users.rule = some rule := by decide +kernel
  have placed : rule.placement.placeAll [.integer 7] = .ok [3] := by decide +kernel
  have parsed : Statement.parse sql = .ok statement := eq_ok_of_isOk isParsed default
  have alone : statement.filter? = some filter :=
    (Option.getD_of_ne_none (Option.isSome_iff_ne_none.mp isAlone) default).symm
  have routed := eq_ok_of_isOk isRouted (.anyOf [] sql)
  have missed := row_not_missed accepted parsed alone found spread ruled holds
  exact ⟨schema, _, accepted, routed, missed.2 _ _ _ _ _ routed placed⟩

end ScatterGather
