/-
**Copies of a table.**

Every shard of a global table holds all of its rows, so that a change of them has to reach every one. A
rule has no place on such a table, but a layout may declare one, and then the keys that a statement binds
narrow where it goes, as they do for any other table:

* `Statement.isWrite`, `Statement.Unbound`: a statement that writes to a table, and one that binds **no
  key by which it would be narrowed**;
* `ofStatement_unbound`: all that is known of such a statement is its table;
* `write_reaches_every_copy` — it is sent **to every copy, as the client sent it**;
* `copies_missed_by_key`: a change that binds a key misses three copies out of four.
-/
import ScatterGather.Proofs.Routing.Scope

namespace ScatterGather

open Sql

namespace Sql.Statement

/-- Tells whether a statement inserts, replaces, changes or deletes rows of a table. -/
def isWrite : Statement → Bool
  | .insert _ | .update _ | .delete _ => true
  | _ => false

/-- A statement about a table that has no rule, or one that inserts nothing and binds no key. -/
def Unbound (schema : Schema) (statement : Statement) : Prop :=
  Facts.column? schema statement = none ∨
    statement.insert? = none ∧ statement.boundKeys schema = []

end Sql.Statement

/-! ### What is known of them -/

namespace Facts

/-- **Nothing is known of a statement that binds no key** but the table that it writes to. -/
theorem ofStatement_unbound {schema : Schema} {statement : Statement}
    (write : statement.isWrite = true) (unbound : statement.Unbound schema) :
    ofStatement schema statement = .ok { statement, table := table? statement } := by
  -- A statement whose table has no rule is not looked into; of the others no insertion is unbound.
  by_cases noColumn : column? schema statement = none
  · cases statement with
    | insert insert => simp only [ofStatement, noColumn]
    | update update => simp only [ofStatement, noColumn]
    | delete delete => simp only [ofStatement, noColumn]
    | _ => cases write
  · obtain ⟨noInsert, noKeys⟩ := unbound.resolve_left noColumn
    obtain ⟨column, isColumn⟩ := Option.ne_none_iff_exists'.mp noColumn
    rw [Statement.boundKeys, isColumn] at noKeys
    cases statement with
    | insert insert => cases noInsert
    | update update =>
      have values : sourceValues column [update.target] false update.condition = [] :=
        (sourceValues_eq _ _ _ _).trans noKeys
      simp only [ofStatement, isColumn, values]
    | delete delete =>
      have values : deleteValues column delete = [] := (sourceValues_eq _ _ _ _).trans noKeys
      simp only [ofStatement, isColumn, values]
    | _ => cases write

end Facts

/-- A statement of which nothing else is known goes to all shards of its table, as it is, unless any
copy would do. -/
theorem Routing.ofFacts_everywhere {schema : Schema} {statement : Statement} {table : Table}
    (about : (Facts.table? statement).bind schema.table? = some table) {kind : Kind}
    (spread : (table.isGlobal && kind.isRead) = false) (sql : String) :
    ofFacts schema { statement, table := Facts.table? statement } sql kind =
      .ok (.all { outlets := table.shards.map fun shard => ⟨shard, sql⟩ }) := by
  rw [ofFacts_of_table about spread]
  simp [outlets, plan, pure, Except.pure, Except.map]

theorem Routing.ofFacts_unbound {schema : Schema} {statement : Statement} {table : Table}
    (about : (Facts.table? statement).bind schema.table? = some table) {kind : Kind}
    (writes : kind.isRead = false) (sql : String) :
    ofFacts schema { statement, table := Facts.table? statement } sql kind =
      .ok (.all { outlets := table.shards.map fun shard => ⟨shard, sql⟩ }) :=
  ofFacts_everywhere about (by rw [writes, Bool.and_false]) sql

/-! ### All copies -/

/-- **A write reaches every copy of a table.** In a schema that was accepted let a text insert, replace,
change or delete rows of a table, be it global or not, which has no rule, or of which no key is bound. In
every character set that is known, it is sent to all shards of the table, of which there is at least one,
each once, in ascending order and with the text of the client; and in any other it goes nowhere. -/
theorem write_reaches_every_copy {layout : Layout} {schema : Schema}
    (accepted : Schema.ofLayout layout = .ok schema) {sql : String} {statement : Statement}
    (parsed : Statement.parse sql = .ok statement) (write : statement.isWrite = true) {table : Table}
    (about : (Facts.table? statement).bind schema.table? = some table)
    (unbound : statement.Unbound schema) {kind : Kind} (writes : kind.isRead = false)
    (charset : String) :
    table.shards ≠ [] ∧ table.shards.Pairwise (· < ·) ∧
      route schema sql charset kind =
        if Routing.charsets.any fun known => Text.sameIgnoringCase known charset then
          .ok (.all { outlets := table.shards.map fun shard => ⟨shard, sql⟩ })
        else .error (.unknownCharset charset) := by
  obtain ⟨name, -, found⟩ := Option.bind_eq_some_iff.mp about
  have sound := Schema.sound_ofLayout accepted (Schema.mem_of_table? found)
  refine ⟨sound.nonempty, sound.ascending, ?_⟩
  unfold route
  split
  · rw [Facts.ofText_of_parse schema parsed, Facts.ofStatement_unbound write unbound]
    exact Routing.ofFacts_unbound about writes sql
  · rfl

/-- A country of the demo layout is renamed on all shards. -/
theorem country_renamed_everywhere :
    let sql := "UPDATE countries SET name = 'France' WHERE code = 'fr'"
    ∃ (schema : Schema) (statement : Statement) (table : Table),
      Schema.ofLayout (Layout.demo 4) = .ok schema ∧ Statement.parse sql = .ok statement ∧
        statement.isWrite = true ∧ (Facts.table? statement).bind schema.table? = some table ∧
          table.isGlobal = true ∧ statement.Unbound schema ∧ (Kind.classify sql).isRead = false ∧
            table.shards = [0, 1, 2, 3] ∧
              route schema sql "utf8mb4" (Kind.classify sql) =
                .ok (.all { outlets := table.shards.map fun shard => ⟨shard, sql⟩ }) := by
  intro sql
  let schema := (Schema.ofLayout (Layout.demo 4)).toOption.getD default
  let statement := (Statement.parse sql).toOption.getD default
  let table := (schema.table? "countries").getD default
  have accepted : Schema.ofLayout (Layout.demo 4) = .ok schema :=
    eq_ok_of_isOk (by decide +kernel) default
  have parsed : Statement.parse sql = .ok statement := eq_ok_of_isOk (by decide +kernel) default
  obtain ⟨write, about, copied, noColumn, writes, four⟩ : statement.isWrite = true ∧
      (Facts.table? statement).bind schema.table? = some table ∧ table.isGlobal = true ∧
        Facts.column? schema statement = none ∧ (Kind.classify sql).isRead = false ∧
          table.shards = [0, 1, 2, 3] := by
    decide +kernel
  have unbound : statement.Unbound schema := Or.inl noColumn
  obtain ⟨-, -, routed⟩ :=
    write_reaches_every_copy accepted parsed write about unbound writes "utf8mb4"
  exact ⟨schema, statement, table, accepted, parsed, write, about, copied, unbound, writes, four,
    routed.trans (if_pos (by decide +kernel))⟩

/-- A layout with a global table for which it declares a rule. -/
def Layout.ruledCopies : Layout :=
  { name := "shop"
    shards := [0, 1, 2, 3]
    tables := [
      { name := "countries", kind := .global, shards := [0, 1, 2, 3], rule := some ⟨"code", .hash⟩ }] }

/-- **A key narrows a change of copies**: only one of four copies of a table is changed, as its layout
declares a rule for it. -/
theorem copies_missed_by_key :
    let sql := "UPDATE countries SET name = 'France' WHERE code = 'fr'"
    ∃ (schema : Schema) (statement : Statement) (table : Table),
      Schema.ofLayout Layout.ruledCopies = .ok schema ∧ Statement.parse sql = .ok statement ∧
        statement.isWrite = true ∧ (Facts.table? statement).bind schema.table? = some table ∧
          table.isGlobal = true ∧ table.shards = [0, 1, 2, 3] ∧
            route schema sql "utf8mb4" (Kind.classify sql) = .ok (.all (.single 0 sql)) := by
  intro sql
  let schema := (Schema.ofLayout Layout.ruledCopies).toOption.getD default
  let statement := (Statement.parse sql).toOption.getD default
  let table := (schema.table? "countries").getD default
  have accepted : Schema.ofLayout Layout.ruledCopies = .ok schema :=
    eq_ok_of_isOk (by decide +kernel) default
  have parsed : Statement.parse sql = .ok statement := eq_ok_of_isOk (by decide +kernel) default
  obtain ⟨write, about, copied, four, isRouted, one⟩ : statement.isWrite = true ∧
      (Facts.table? statement).bind schema.table? = some table ∧ table.isGlobal = true ∧
        table.shards = [0, 1, 2, 3] ∧
          (route schema sql "utf8mb4" (Kind.classify sql)).isOk = true ∧
            (route schema sql "utf8mb4" (Kind.classify sql)).toOption.getD (.anyOf [] sql) =
              .all (.single 0 sql) := by
    decide +kernel
  exact ⟨schema, statement, table, accepted, parsed, write, about, copied, four,
    (eq_ok_of_isOk isRouted (.anyOf [] sql)).trans (congrArg Except.ok one)⟩

end ScatterGather
