/-
**Definitions of tables.**

What creates, changes, drops or empties tables has to reach all shards that hold them. A statement is
routed by one table, which for a definition is the first that it names:

* `Statement.defined`: the tables that a statement creates, indexes, changes, drops or empties;
* `ofStatement_definition`, `table?_definition`: nothing is known of such a statement but **its first
  table**;
* `route_definition`: it is sent to all shards of this table;
* `definition_reaches_tables` — which are **all shards of all tables that it names**, where the first lies
  on all shards of the others;
* `truncation_unscoped`: of what empties tables not even the first is known, so that it goes **to any one
  shard**;
* `users_left_filled`: three shards out of four keep their users.
-/
import ScatterGather.Proofs.Routing.Copies
import ScatterGather.Proofs.Sql.Same

namespace ScatterGather

open Sql

namespace Sql.Statement

/-- The tables that a statement creates, indexes, changes, drops or empties. -/
def defined : Statement → List (List Ident)
  | .createTable name | .createIndex name | .alterTable name => [name]
  | .dropTable names => names
  | .truncate tables => tables
  | _ => []

/-- Tells whether a statement empties tables. -/
def empties : Statement → Bool
  | .truncate _ => true
  | _ => false

end Sql.Statement

/-! ### What is known of them -/

namespace Facts

variable {statement : Statement}

/-- **Nothing is known of a definition** but its table. -/
theorem ofStatement_definition (schema : Schema) (defines : statement.defined ≠ []) :
    ofStatement schema statement = .ok { statement, table := table? statement } := by
  cases statement with
  | createTable name => rfl
  | createIndex table => rfl
  | alterTable name => rfl
  | dropTable names => rfl
  | truncate tables => rfl
  | _ => exact absurd rfl defines

/-- The table of a definition is the first that it names. -/
theorem table?_definition (defines : statement.defined ≠ []) (keeps : statement.empties = false) :
    table? statement = statement.defined.head?.map pathName := by
  cases statement with
  | createTable name => rfl
  | createIndex table => rfl
  | alterTable name => rfl
  | dropTable names => rfl
  | truncate tables => cases keeps
  | _ => exact absurd rfl defines

end Facts

/-! ### Where they go -/

/-- **A definition follows the first table that it names**: it is sent to all shards of that table, as it
is, and to no others. -/
theorem route_definition {schema : Schema} {sql : String} {statement : Statement}
    (parsed : Statement.parse sql = .ok statement) (keeps : statement.empties = false) {table : Table}
    (first : (statement.defined.head?.map pathName).bind schema.table? = some table)
    {kind : Kind} (spread : (table.isGlobal && kind.isRead) = false) (charset : String) :
    route schema sql charset kind =
      if Routing.charsets.any fun known => Text.sameIgnoringCase known charset then
        .ok (.all { outlets := table.shards.map fun shard => ⟨shard, sql⟩ })
      else .error (.unknownCharset charset) := by
  have defines : statement.defined ≠ [] := by
    intro none
    rw [none] at first
    cases first
  have about : (Facts.table? statement).bind schema.table? = some table := by
    rwa [Facts.table?_definition defines keeps]
  unfold route
  split
  · rw [Facts.ofText_of_parse schema parsed, Facts.ofStatement_definition schema defines]
    exact Routing.ofFacts_everywhere about spread sql
  · rfl

/-- **A definition reaches the tables that it names.** In a schema that was accepted let a text create,
index, change or drop tables, the first of which is known and lies on all shards of the others. In every
character set that is known it is routed; and wherever it is routed, every shard of every known table that
it names gets it, as the client sent it, and no shard gets it twice. -/
theorem definition_reaches_tables {layout : Layout} {schema : Schema}
    (accepted : Schema.ofLayout layout = .ok schema) {sql : String} {statement : Statement}
    (parsed : Statement.parse sql = .ok statement) (keeps : statement.empties = false) {table : Table}
    (first : (statement.defined.head?.map pathName).bind schema.table? = some table)
    (holds : ∀ name ∈ statement.defined, ∀ other, schema.table? (pathName name) = some other →
      other.shards ⊆ table.shards)
    {kind : Kind} (spread : (table.isGlobal && kind.isRead) = false) (charset : String) :
    ((∃ result, route schema sql charset kind = .ok result) ↔
        Routing.charsets.any (fun known => Text.sameIgnoringCase known charset) = true) ∧
      ∀ result choose, route schema sql charset kind = .ok result →
        ((result.pick choose).outlets.map Outlet.shard).Pairwise (· < ·) ∧
          ∀ name ∈ statement.defined, ∀ other, schema.table? (pathName name) = some other →
            ∀ shard ∈ other.shards, ⟨shard, sql⟩ ∈ (result.pick choose).outlets := by
  have routed := route_definition parsed keeps first spread charset
  obtain ⟨name, -, found⟩ := Option.bind_eq_some_iff.mp first
  have sound := Schema.sound_ofLayout accepted (Schema.mem_of_table? found)
  rw [routed]
  split
  · next known =>
    refine ⟨⟨fun _ => known, fun _ => ⟨_, rfl⟩⟩, ?_⟩
    intro result choose given
    obtain rfl := Except.ok.inj given
    refine ⟨(Routing.map_shard table.shards sql).symm ▸ sound.ascending, ?_⟩
    exact fun named isNamed other isOther shard inside =>
      List.mem_map_of_mem (holds named isNamed other isOther inside)
  · next unknown =>
    refine ⟨⟨?_, fun known => absurd known unknown⟩, nofun⟩
    rintro ⟨_, refused⟩
    cases refused

/-- The users and the countries of the demo layout are dropped on all shards at once. -/
theorem users_and_countries_dropped :
    let sql := "DROP TABLE users, countries"
    ∃ (schema : Schema) (statement : Statement) (table : Table) (result : Route),
      Schema.ofLayout (Layout.demo 4) = .ok schema ∧ Statement.parse sql = .ok statement ∧
        statement.empties = false ∧
          (statement.defined.head?.map pathName).bind schema.table? = some table ∧
            (∀ name ∈ statement.defined, ∀ other, schema.table? (pathName name) = some other →
              other.shards ⊆ table.shards) ∧
              (table.isGlobal && (Kind.classify sql).isRead) = false ∧
                route schema sql "utf8mb4" (Kind.classify sql) = .ok result ∧
                  ∀ name ∈ statement.defined, ∀ other, schema.table? (pathName name) = some other →
                    ∀ shard ∈ other.shards, ⟨shard, sql⟩ ∈ (result.pick (·.headD 0)).outlets := by
  intro sql
  let schema := (Schema.ofLayout (Layout.demo 4)).toOption.getD default
  let statement := Statement.dropTable [[⟨"users", none⟩], [⟨"countries", none⟩]]
  let table := (schema.table? "users").getD default
  have accepted : Schema.ofLayout (Layout.demo 4) = .ok schema :=
    eq_ok_of_isOk (by decide +kernel) default
  have parsed : Statement.parse sql = .ok statement := eq_ok_of_toOption (by decide +kernel)
  obtain ⟨first, same, spread⟩ :
      (statement.defined.head?.map pathName).bind schema.table? = some table ∧
        (∀ name ∈ statement.defined,
          (schema.table? (pathName name)).map Table.shards = some table.shards) ∧
          (table.isGlobal && (Kind.classify sql).isRead) = false := by
    decide +kernel
  have holds : ∀ name ∈ statement.defined, ∀ other, schema.table? (pathName name) = some other →
      other.shards ⊆ table.shards := by
    intro name isNamed other isOther
    have shards := same name isNamed
    rw [isOther] at shards
    exact fun shard inside => Option.some.inj shards ▸ inside
  obtain ⟨routed, reached⟩ :=
    definition_reaches_tables accepted parsed rfl first holds spread "utf8mb4"
  obtain ⟨result, given⟩ := routed.mpr (by decide +kernel)
  exact ⟨schema, statement, table, result, accepted, parsed, rfl, first, holds, spread, given,
    (reached result _ given).2⟩

/-- **What empties tables goes to any one shard** of the schema, whatever tables it names. -/
theorem truncation_unscoped (schema : Schema) {sql : String} {statement : Statement}
    (parsed : Statement.parse sql = .ok statement) (empties : statement.empties = true)
    (charset : String) (kind : Kind) :
    route schema sql charset kind =
      if Routing.charsets.any fun known => Text.sameIgnoringCase known charset then
        .ok (.anyOf schema.shards sql)
      else .error (.unknownCharset charset) := by
  unfold route
  split
  · rw [Facts.ofText_of_parse schema parsed]
    cases statement with
    | truncate tables => rfl
    | _ => cases empties
  · rfl

/-- **Users are left behind**: of the four shards that hold them only one is told to empty them,
whichever is picked. -/
theorem users_left_filled :
    let sql := "TRUNCATE TABLE users"
    ∃ (schema : Schema) (statement : Statement) (table : Table) (result : Route),
      Schema.ofLayout (Layout.demo 4) = .ok schema ∧ Statement.parse sql = .ok statement ∧
        statement.defined = [[⟨"users", none⟩]] ∧ schema.table? "users" = some table ∧
          table.shards = [0, 1, 2, 3] ∧
            route schema sql "utf8mb4" (Kind.classify sql) = .ok result ∧
              ∀ choose, (result.pick choose).outlets = [⟨choose [0, 1, 2, 3], sql⟩] := by
  intro sql
  let schema := (Schema.ofLayout (Layout.demo 4)).toOption.getD default
  let statement := Statement.truncate [[⟨"users", none⟩]]
  let table := (schema.table? "users").getD default
  have accepted : Schema.ofLayout (Layout.demo 4) = .ok schema :=
    eq_ok_of_isOk (by decide +kernel) default
  have parsed : Statement.parse sql = .ok statement := eq_ok_of_toOption (by decide +kernel)
  obtain ⟨found, shards⟩ : schema.table? "users" = some table ∧ table.shards = [0, 1, 2, 3] := by
    decide +kernel
  have routed : route schema sql "utf8mb4" (Kind.classify sql) = .ok (.anyOf [0, 1, 2, 3] sql) :=
    eq_ok_of_toOption (by decide +kernel)
  exact ⟨schema, statement, table, _, accepted, parsed, rfl, found, shards, routed, fun _ => rfl⟩

end ScatterGather
