/-
**What decides where a statement goes.**

Of a query, a change or a deletion nothing matters to routing but the table it is about and the keys that
its condition binds, and these are read in its scope: the first relation, and whether it is the only one.
Statements are compared by that alone, whatever else they say:

* `Scope`, `Statement.scope?`: the condition of a statement, and the relation that it may narrow;
* `boundKeys`, `ofStatement_values`: what is bound in the scope is **all that is known to be bound**;
* `withCondition`: the same statement with another condition, which changes **its scope and no more**;
* `Goal`, `Route.goal`: where a route leads, whatever is sent there;
* `route_goal` — the goal of a statement **comes from its table, its keys and its kind**.
-/
import ScatterGather.Proofs.Routing.Split

namespace ScatterGather

open Sql

/-! ### Scopes -/

namespace Sql

/-- The first relation of a statement, whether it is the only one, and the condition. -/
structure Scope where
  relation : Relation
  sole : Bool
  condition : Expr
  deriving Repr, Inhabited

namespace Scope

/-- The key column of the first relation as the condition may name it. -/
def keyColumn (scope : Scope) (column : String) : KeyColumn :=
  { name := column
    qualifiers := KeyColumn.qualifiersOf scope.relation
    sole := scope.sole }

/-- The keys that are bound in a scope. -/
def keys (scope : Scope) (column : String) : List KeyValue :=
  (boundValues? (scope.keyColumn column) scope.condition).getD []

/-- The scope of a condition over some sources. `others` tells of relations besides them. -/
def ofSources? (sources : List Source) (others : Bool) (condition : Option Expr) : Option Scope :=
  match sources, condition with
  | target :: rest, some condition =>
    some ⟨target.relation, !(others || !rest.isEmpty) && target.joins.isEmpty, condition⟩
  | _, _ => none

/-- What the scope of a condition over some sources is made of. -/
theorem ofSources?_eq_some {sources : List Source} {others : Bool} {condition : Option Expr}
    {scope : Scope} (found : ofSources? sources others condition = some scope) :
    ∃ joins rest, sources = ⟨scope.relation, joins⟩ :: rest ∧ condition = some scope.condition ∧
      scope.sole = (!(others || !rest.isEmpty) && joins.isEmpty) := by
  unfold ofSources? at found
  split at found
  · next target rest condition =>
    obtain rfl := Option.some.inj found
    exact ⟨target.joins, rest, rfl, rfl, rfl⟩
  · cases found

theorem ofSources?_sole {sources : List Source} {others : Bool} {condition : Option Expr}
    {scope : Scope} (found : ofSources? sources others condition = some scope)
    (sole : scope.sole = true) : others = false ∧ sources = [⟨scope.relation, []⟩] := by
  obtain ⟨joins, rest, rfl, -, isSole⟩ := ofSources?_eq_some found
  rw [sole] at isSole
  simp_all

end Scope

/-- The scope in which a statement is narrowed. A query made of other queries has none. -/
def Statement.scope? : Statement → Option Scope
  | .query ⟨_, .select selection, _⟩ => Scope.ofSources? selection.sources false selection.condition
  | .update change => Scope.ofSources? [change.target] false change.condition
  | .delete deletion =>
    Scope.ofSources? deletion.sources (!deletion.tables.isEmpty || deletion.usingSources.isSome)
      deletion.condition
  | _ => none

/-- The keys that a statement binds, if its table has a rule. -/
def Statement.boundKeys (schema : Schema) (statement : Statement) : List KeyValue :=
  ((Facts.column? schema statement).bind fun column =>
    statement.scope?.map fun scope => scope.keys column).getD []

/-! ### Conditions replaced -/

/-- The condition on the rows that a body selects, parentheses aside. -/
def Body.condition? : Body → Option Expr
  | .select selection => selection.condition
  | .nested _ body _ => body.condition?
  | _ => none

/-- The body with another condition on the rows that it selects. -/
def Body.withCondition (condition : Expr) : Body → Body
  | .select selection => .select { selection with condition := some condition }
  | .nested preamble body tail => .nested preamble (body.withCondition condition) tail
  | body => body

/-- The condition on the rows that a statement selects, changes or deletes. -/
def Statement.condition? : Statement → Option Expr
  | .query whole => whole.body.condition?
  | .update change => change.condition
  | .delete deletion => deletion.condition
  | _ => none

/-- The statement with another condition on its rows. -/
def Statement.withCondition (condition : Expr) : Statement → Statement
  | .query whole => .query { whole with body := whole.body.withCondition condition }
  | .update change => .update { change with condition := some condition }
  | .delete deletion => .delete { deletion with condition := some condition }
  | statement => statement

namespace Statement

theorem insert?_of_condition? {statement : Statement} {condition : Expr}
    (has : statement.condition? = some condition) : statement.insert? = none := by
  cases statement with
  | insert whole => cases has
  | _ => rfl

theorem insert?_withCondition (statement : Statement) (condition : Expr) :
    (statement.withCondition condition).insert? = statement.insert? := by
  cases statement <;> rfl

theorem table?_withCondition (condition : Expr) (statement : Statement) :
    Facts.table? (statement.withCondition condition) = Facts.table? statement := by
  have body : ∀ body : Body,
      Facts.bodyTable? (body.withCondition condition) = Facts.bodyTable? body := by
    intro body
    induction body with
    | nested preamble body tail ih => exact ih
    | _ => rfl
  cases statement with
  | query whole => exact body whole.body
  | _ => rfl

theorem column?_withCondition (schema : Schema) (condition : Expr) (statement : Statement) :
    Facts.column? schema (statement.withCondition condition) = Facts.column? schema statement := by
  rw [Facts.column?, Facts.column?, table?_withCondition]

/-- **The scope with another condition** is that of the statement with it. -/
theorem scope?_withCondition {statement : Statement} {condition : Expr}
    (has : statement.condition? = some condition) (other : Expr) :
    (statement.withCondition other).scope? =
      statement.scope?.map fun scope => { scope with condition := other } := by
  have ofSources : ∀ (sources : List Source) (others : Bool),
      Scope.ofSources? sources others (some other) =
        (Scope.ofSources? sources others (some condition)).map
          fun scope => { scope with condition := other } := by
    intro sources others
    cases sources <;> rfl
  cases statement with
  | query whole =>
    obtain ⟨preamble, body, tail⟩ := whole
    cases body with
    | select selection =>
      have found : selection.condition = some condition := has
      show Scope.ofSources? selection.sources false (some other) =
        (Scope.ofSources? selection.sources false selection.condition).map _
      rw [found, ofSources]
    | _ => rfl
  | update change =>
    have found : change.condition = some condition := has
    show Scope.ofSources? [change.target] false (some other) =
      (Scope.ofSources? [change.target] false change.condition).map _
    rw [found, ofSources]
  | delete deletion =>
    have found : deletion.condition = some condition := has
    show Scope.ofSources? deletion.sources _ (some other) =
      (Scope.ofSources? deletion.sources _ deletion.condition).map _
    rw [found, ofSources]
  | _ => rfl

theorem condition?_of_scope? {statement : Statement} {scope : Scope}
    (found : statement.scope? = some scope) : statement.condition? = some scope.condition := by
  have ofSources : ∀ {sources : List Source} {others : Bool} {condition : Option Expr},
      Scope.ofSources? sources others condition = some scope → condition = some scope.condition := by
    intro sources others condition found
    obtain ⟨joins, rest, -, has, -⟩ := Scope.ofSources?_eq_some found
    exact has
  cases statement with
  | query whole =>
    obtain ⟨preamble, body, tail⟩ := whole
    cases body with
    | select selection => exact ofSources found
    | _ => cases found
  | update change => exact ofSources found
  | delete deletion => exact ofSources found
  | _ => cases found

end Statement

end Sql

/-! ### Facts -/

namespace Facts

theorem sourceValues_eq (column : String) (sources : List Source) (others : Bool)
    (condition : Option Expr) : sourceValues column sources others condition =
      ((Scope.ofSources? sources others condition).map fun scope => scope.keys column).getD [] := by
  cases sources with
  | nil => rfl
  | cons target rest => cases condition <;> rfl

theorem ofText_of_parse (schema : Schema) {sql : String} {statement : Statement}
    (parsed : Statement.parse sql = .ok statement) :
    ofText schema sql = ofStatement schema statement := by
  rw [ofText, parsed]

/-- **What is known of a statement** that inserts nothing: its table, and the keys that it binds. -/
theorem ofStatement_values (schema : Schema) {statement : Statement}
    (noInsert : statement.insert? = none) : ∃ facts, ofStatement schema statement = .ok facts ∧
      facts.table = table? statement ∧ facts.rows = [] ∧
        facts.values = statement.boundKeys schema := by
  cases statement with
  | query query =>
    refine ⟨_, rfl, rfl, rfl, ?_⟩
    obtain ⟨preamble, body, tail⟩ := query
    show queryValues (column? schema (.query ⟨preamble, body, tail⟩)) ⟨preamble, body, tail⟩ = _
    unfold Statement.boundKeys
    cases column? schema (.query ⟨preamble, body, tail⟩) with
    | none => cases body <;> rfl
    | some column =>
      cases body with
      | select selection => exact sourceValues_eq _ _ _ _
      | _ => rfl
  | insert insert => cases noInsert
  | update update =>
    unfold ofStatement Statement.boundKeys
    cases column? schema (.update update) with
    | none => exact ⟨_, rfl, rfl, rfl, rfl⟩
    | some column => exact ⟨_, rfl, rfl, rfl, sourceValues_eq _ _ _ _⟩
  | delete delete =>
    unfold ofStatement Statement.boundKeys
    cases column? schema (.delete delete) with
    | none => exact ⟨_, rfl, rfl, rfl, rfl⟩
    | some column => exact ⟨_, rfl, rfl, rfl, sourceValues_eq _ _ _ _⟩
  | _ =>
    refine ⟨_, rfl, rfl, rfl, ?_⟩
    unfold Statement.boundKeys
    cases column? schema _ <;> rfl

end Facts

/-! ### Goals -/

/-- Where a route leads, whatever is sent there. -/
inductive Goal where
  | anyOf (shards : List ShardId)
  | all (shards : List ShardId)
  deriving DecidableEq, Repr

/-- The shards of a route. -/
def Route.goal : Route → Goal
  | .anyOf shards _ => .anyOf shards
  | .all plan => .all (plan.outlets.map Outlet.shard)

namespace Routing

/-- The goal of a statement about a table, with the keys that it binds. -/
def goalOf (schema : Schema) (table : Option Table) (keys : List KeyValue) (kind : Kind) :
    Except RouteError Goal :=
  match table with
  | none => .ok (.anyOf schema.shards)
  | some table =>
    if table.isGlobal && kind.isRead then .ok (.anyOf table.shards)
    else if keys.isEmpty then .ok (.all table.shards)
    else (placed table keys).map .all

theorem ofFacts_goal {schema : Schema} {facts : Facts} (noRows : facts.rows = []) (sql : String)
    (kind : Kind) : (ofFacts schema facts sql kind).map Route.goal =
      goalOf schema (facts.table.bind schema.table?) facts.values kind := by
  unfold ofFacts goalOf
  cases facts.table.bind schema.table? with
  | none => rfl
  | some table =>
    by_cases anyCopy : (table.isGlobal && kind.isRead) = true
    · simp only [anyCopy, if_true]
      rfl
    · simp only [anyCopy, Bool.false_eq_true, if_false, outlets, noRows]
      by_cases none : facts.values.isEmpty = true
      · simp only [none, if_true, pure, Except.pure, Except.map, Route.goal, plan_shards, map_shard]
      · simp only [none, Bool.false_eq_true, if_false, List.isEmpty_nil, if_true]
        cases placed table facts.values with
        | error cause => rfl
        | ok shards =>
          simp only [bind, Except.bind, pure, Except.pure, Except.map, Route.goal, plan_shards,
            map_shard]

/-- **The goal of a statement** that inserts nothing comes from its table, its keys and its kind. -/
theorem route_goal {schema : Schema} {sql : String} {statement : Statement}
    (parsed : Statement.parse sql = .ok statement) (noInsert : statement.insert? = none)
    (charset : String) (kind : Kind) : (route schema sql charset kind).map Route.goal =
      if charsets.any fun known => Text.sameIgnoringCase known charset then
        goalOf schema ((Facts.table? statement).bind schema.table?) (statement.boundKeys schema) kind
      else .error (.unknownCharset charset) := by
  obtain ⟨facts, known, table, noRows, values⟩ := Facts.ofStatement_values schema noInsert
  unfold route
  split
  · rw [Facts.ofText_of_parse schema parsed, known, ← table, ← values]
    exact ofFacts_goal noRows sql kind
  · rfl

end Routing

end ScatterGather
