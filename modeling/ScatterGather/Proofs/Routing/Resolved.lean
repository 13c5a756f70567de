/-
**Keys of a statement's own table.**

A statement may have several relations with columns of the same name. What narrows it are tests of the
table that it is reported to be about, which is the first of its relations:

* `Statement.relations`, `Statement.MeansOwn`: the relations of a statement, and the names that mean a
  column of **the first one**;
* `Statement.Reported`: the table that is reported is the first relation;
* `Statement.IsClear`: what the names in a statement have to keep for this, as a deletion may list another
  table than its first relation, and a name may give another schema than that of the table;
* `AgreeBut`: conditions that differ only where they test **none of its columns**;
* `own_keys_bound` — keys are bound by tests of the table's own column only, and **whatever else is tested
  narrows nothing**;
* `listed_table_misread`: a deletion that is narrowed by the key of another table.
-/
import ScatterGather.Proofs.Routing.Naming
import ScatterGather.Proofs.Sql.Same

namespace ScatterGather

open Sql

/-! ### Relations of a statement -/

namespace Sql

/-- The name of the table that a source is. -/
def Source.tableName? (source : Source) : Option (List Ident) :=
  match source.relation with
  | .table table => some table.name
  | _ => none

namespace Statement

/-- The relations of a statement, which a deletion may write behind `USING`. -/
def relations : Statement → List Source
  | .query ⟨_, .select selection, _⟩ => selection.sources
  | .update change => [change.target]
  | .delete deletion => deletion.usingSources.getD deletion.sources
  | _ => []

/-- The views that a selection joins to its relations. -/
def views : Statement → List String
  | .query ⟨_, .select selection, _⟩ => selection.views
  | _ => []

/-- The first relation of a statement. -/
def first? (statement : Statement) : Option Relation :=
  statement.relations.head?.map Source.relation

/-- The name by which a deletion lists its table apart from its relations. -/
def listed? : Statement → Option (List Ident)
  | .delete deletion =>
    match deletion.tables, deletion.usingSources with
    | name :: _, _ => some name
    | [], some _ => deletion.sources.head?.bind Source.tableName?
    | [], none => none
  | _ => none

/-- A column's name means a column of the first relation: one alone does if there is no other relation, and
one behind others if these mean the first relation. `home` is the schema of names that give none. -/
def MeansOwn (home : String) (statement : Statement) (path : List Ident) : Prop :=
  ∃ table, statement.first? = some (.table table) ∧
    if path.dropLast = [] then statement.relations = [⟨.table table, []⟩] ∧ statement.views = []
    else table.isMeantBy home path.dropLast = true

theorem not_meansOwn {home : String} {statement : Statement} {table : NamedTable} {path : List Ident}
    (first : statement.first? = some (.table table)) (qualified : path.dropLast ≠ [])
    (foreign : table.isMeantBy home path.dropLast = false) : ¬ statement.MeansOwn home path := by
  rintro ⟨own, isFirst, means⟩
  obtain rfl := Relation.table.inj (Option.some.inj (first.symm.trans isFirst))
  rw [if_neg qualified, foreign] at means
  cases means

/-- The first relation is the table that a statement is about, which may be listed apart if it has no
alias. -/
def Reported (home : String) (statement : Statement) : Prop :=
  ∃ table name, statement.first? = some (.table table) ∧
    Facts.table? statement = some (pathName name) ∧
      (name = table.name ∨ table.byname = none ∧ table.isMeantBy home name = true)

/-- The names in a statement are clear. `source` is the relation that is first in its `FROM`, and `table`
the first of all. This asks for more than each name by itself would need: see `alone` and `listed`. -/
structure Clear (home : String) (statement : Statement) (source table : NamedTable) : Prop where
  first : statement.first? = some (.table table)
  plain : source.IsPlain ∧ table.IsPlain
  exposed : source.exposed = table.exposed
  /-- What is listed is the first relation. A deletion that lists a relation of its `USING` other than the
  first one is left out, although its table is routed by its own keys. -/
  listed : ∀ name ∈ statement.listed?, table.byname = none ∧ table.isMeantBy home name = true
  /-- No view is joined. Where every column's name is behind that of a relation a view would do no harm,
  and statements with one are left out all the same. -/
  alone : statement.views = []
  /-- Where a column's name gives a schema before the exposed name, it is that of the table. -/
  tested : ∀ condition ∈ statement.condition?, ∀ path ∈ condition.tested, IsPlain path.dropLast ∧
    (1 < path.dropLast.length → (spelled path.dropLast).getLast? = some table.exposed →
      table.isMeantBy home path.dropLast = true)

/-- The names in a statement are clear if there is a table whose keys may narrow it. -/
def IsClear (home : String) (statement : Statement) : Prop :=
  ∀ scope ∈ statement.scope?, ∀ source, scope.relation = .table source →
    ∃ table, statement.Clear home source table

/-! ### What is reported -/

theorem relations_of_sole {statement : Statement} {scope : Scope}
    (found : statement.scope? = some scope) (sole : scope.sole = true) :
    statement.relations = [⟨scope.relation, []⟩] := by
  cases statement with
  | query whole =>
    obtain ⟨preamble, body, tail⟩ := whole
    cases body with
    | select selection => exact (Scope.ofSources?_sole found sole).2
    | _ => cases found
  | update change => exact (Scope.ofSources?_sole found sole).2
  | delete deletion =>
    obtain ⟨noOthers, sources⟩ := Scope.ofSources?_sole found sole
    simp only [Bool.or_eq_false_iff, Option.isSome_eq_false_iff, Option.isNone_iff_eq_none] at noOthers
    show deletion.usingSources.getD deletion.sources = _
    rw [noOthers.2, sources]
    rfl
  | _ => cases found

theorem listed?_of_sole {statement : Statement} {scope : Scope}
    (found : statement.scope? = some scope) (sole : scope.sole = true) : statement.listed? = none := by
  cases statement with
  | delete deletion =>
    obtain ⟨noOthers, -⟩ := Scope.ofSources?_sole found sole
    simp only [Bool.or_eq_false_iff, Bool.not_eq_false', List.isEmpty_iff,
      Option.isSome_eq_false_iff, Option.isNone_iff_eq_none] at noOthers
    simp only [listed?, noOthers.1, noOthers.2]
  | _ => rfl

theorem table?_of_listed? {statement : Statement} {name : List Ident}
    (listed : statement.listed? = some name) : Facts.table? statement = some (pathName name) := by
  cases statement with
  | delete deletion =>
    simp only [listed?, Facts.table?] at listed ⊢
    cases tables : deletion.tables with
    | cons first rest =>
      rw [tables] at listed
      exact congrArg (some ∘ pathName) (Option.some.inj listed)
    | nil =>
      cases behind : deletion.usingSources with
      | none => simp [tables, behind] at listed
      | some others =>
        simp only [tables, behind] at listed ⊢
        obtain ⟨source, isHead, isTable⟩ := Option.bind_eq_some_iff.mp listed
        obtain ⟨relation, joins⟩ := source
        cases relation with
        | table table =>
          obtain rfl : table.name = name := Option.some.inj isTable
          rw [isHead]
          rfl
        | _ => cases isTable
  | _ => cases listed

/-- What is first in the `FROM` is first of all relations, and it is reported, unless a table is listed
apart. -/
theorem unlisted_scope {statement : Statement} {scope : Scope} (found : statement.scope? = some scope)
    (unlisted : statement.listed? = none) :
    Facts.table? statement = Facts.sourceTable? ⟨scope.relation, []⟩ ∧
      ∀ source, scope.relation = .table source → statement.first? = some (.table source) := by
  cases statement with
  | query whole =>
    obtain ⟨preamble, body, tail⟩ := whole
    cases body with
    | select selection =>
      obtain ⟨joins, rest, sources, -⟩ := Scope.ofSources?_eq_some found
      simp only [Facts.table?, Facts.bodyTable?, first?, relations, sources]
      exact ⟨rfl, fun source own => congrArg some own⟩
    | _ => cases found
  | update change =>
    obtain ⟨joins, rest, sources, -⟩ := Scope.ofSources?_eq_some found
    obtain ⟨target, -⟩ := List.cons.inj sources
    simp only [Facts.table?, first?, relations, target]
    exact ⟨rfl, fun source own => congrArg some own⟩
  | delete deletion =>
    obtain ⟨joins, rest, sources, -⟩ := Scope.ofSources?_eq_some found
    cases tables : deletion.tables with
    | cons name names => simp [listed?, tables] at unlisted
    | nil =>
      simp only [Facts.table?, tables, first?, relations, sources]
      refine ⟨rfl, fun source own => ?_⟩
      cases behind : deletion.usingSources with
      | none => exact congrArg some own
      | some others => simp [listed?, tables, behind, sources, Source.tableName?, own] at unlisted
  | _ => cases found

/-- Names are clear in a statement that lists no table apart, if its conditions give no schema by
mistake. -/
theorem isClear_of_unlisted {home : String} {statement : Statement} {table : NamedTable}
    (unlisted : statement.listed? = none) (first : statement.first? = some (.table table))
    (plain : table.IsPlain) (alone : statement.views = [])
    (tested : ∀ condition ∈ statement.condition?, ∀ path ∈ condition.tested, IsPlain path.dropLast ∧
      (1 < path.dropLast.length → (spelled path.dropLast).getLast? = some table.exposed →
        table.isMeantBy home path.dropLast = true)) : statement.IsClear home := by
  intro scope found source own
  have isFirst := (unlisted_scope found unlisted).2 source own
  obtain rfl := Relation.table.inj (Option.some.inj (first.symm.trans isFirst))
  refine ⟨table, first, ⟨plain, plain⟩, rfl, ?_, alone, tested⟩
  intro name listed
  rw [unlisted] at listed
  cases listed

/-- The table that is reported is the first relation, if names are clear. -/
theorem Clear.reported {home : String} {statement : Statement} {scope : Scope}
    {source table : NamedTable} (clear : statement.Clear home source table)
    (found : statement.scope? = some scope) (own : scope.relation = .table source) :
    statement.Reported home := by
  cases listed : statement.listed? with
  | some name =>
    exact ⟨table, name, clear.first, table?_of_listed? listed, Or.inr (clear.listed name listed)⟩
  | none =>
    obtain ⟨about, first⟩ := unlisted_scope found listed
    obtain rfl := Relation.table.inj (Option.some.inj (clear.first.symm.trans (first source own)))
    rw [own] at about
    exact ⟨table, table.name, clear.first, about, Or.inl rfl⟩

/-- **A name that the router takes for the key column means one of the first relation**, if names are
clear. -/
theorem Clear.meansOwn {home : String} {statement : Statement} {scope : Scope}
    {source table : NamedTable} (clear : statement.Clear home source table)
    (found : statement.scope? = some scope) (own : scope.relation = .table source) {column : String}
    {path : List Ident} (tested : path ∈ scope.condition.tested)
    (meant : (scope.keyColumn column).isMeantBy (.column path) = true) :
    statement.MeansOwn home path := by
  have isFirst := clear.first
  obtain ⟨dotless, schema⟩ := clear.tested _ (condition?_of_scope? found) path tested
  obtain ⟨name, -, -, names⟩ := KeyColumn.isMeantBy_column.mp meant
  refine ⟨table, isFirst, ?_⟩
  by_cases bare : path.dropLast = []
  · rw [if_pos bare] at names ⊢
    have relations := relations_of_sole found names
    unfold first? at isFirst
    rw [relations] at isFirst
    obtain first : scope.relation = .table table := Option.some.inj isFirst
    exact ⟨first ▸ relations, clear.alone⟩
  · rw [if_neg bare] at names ⊢
    have own' : (scope.keyColumn column).qualifiers = KeyColumn.qualifiersOf (.table source) :=
      congrArg KeyColumn.qualifiersOf own
    have ends := (KeyColumn.qualifiedBy_iff own' clear.plain.1 bare dotless).mp names
    rw [clear.exposed] at ends
    exact NamedTable.isMeantBy_of_exposed clear.plain.2.named bare ends fun several =>
      schema several ends

end Statement

/-! ### Conditions that differ elsewhere -/

namespace Expr

/-- Two conditions that differ only in parts that test none of the columns of a relation. -/
inductive AgreeBut (own : List Ident → Prop) : Expr → Expr → Prop where
  | rest (expr : Expr) : AgreeBut own expr expr
  | nested {inner other : Expr} : AgreeBut own inner other →
      AgreeBut own (.nested inner) (.nested other)
  | both {left right left' right' : Expr} : AgreeBut own left left' → AgreeBut own right right' →
      AgreeBut own (.binary left .and right) (.binary left' .and right')
  | either {left right left' right' : Expr} : AgreeBut own left left' → AgreeBut own right right' →
      AgreeBut own (.binary left .or right) (.binary left' .or right')
  | foreign {expr other : Expr} : (∀ path ∈ expr.tested, ¬ own path) →
      (∀ path ∈ other.tested, ¬ own path) → AgreeBut own expr other

end Expr

end Sql

/-- **Conditions that differ elsewhere bind the same keys**, if all names of the key column are own
ones. -/
theorem boundValues?_agreeBut {own : List Ident → Prop} {key : KeyColumn} {condition other : Expr}
    (agree : condition.AgreeBut own other)
    (clear : ∀ path ∈ condition.tested, key.isMeantBy (.column path) = true → own path)
    (clearOther : ∀ path ∈ other.tested, key.isMeantBy (.column path) = true → own path) :
    boundValues? key condition = boundValues? key other := by
  have foreign : ∀ {expr : Expr}, (∀ path ∈ expr.tested, ¬ own path) →
      (∀ path ∈ expr.tested, key.isMeantBy (.column path) = true → own path) →
        boundValues? key expr = none := by
    intro expr none clear
    refine Option.eq_none_iff_forall_ne_some.mpr fun bound binds => ?_
    obtain ⟨path, inside, meant⟩ := tested_of_boundValues? binds
    exact none path inside (clear path inside meant)
  induction agree with
  | rest expr => rfl
  | nested _ ih => exact ih clear clearOther
  | both _ _ ihLeft ihRight =>
    rw [boundValues?, boundValues?,
      ihLeft (fun path inside => clear path (List.mem_append_left _ inside))
        (fun path inside => clearOther path (List.mem_append_left _ inside)),
      ihRight (fun path inside => clear path (List.mem_append_right _ inside))
        (fun path inside => clearOther path (List.mem_append_right _ inside))]
  | either _ _ ihLeft ihRight =>
    rw [boundValues?, boundValues?,
      ihLeft (fun path inside => clear path (List.mem_append_left _ inside))
        (fun path inside => clearOther path (List.mem_append_left _ inside)),
      ihRight (fun path inside => clear path (List.mem_append_right _ inside))
        (fun path inside => clearOther path (List.mem_append_right _ inside))]
  | foreign none noneOther => rw [foreign none clear, foreign noneOther clearOther]

/-! ### What narrows a statement -/

namespace Sql.Statement

variable {home : String} {schema : Schema} {statement : Statement}

/-- A key that a statement binds is bound in its scope. -/
theorem exists_of_boundKeys {value : KeyValue} (bound : value ∈ statement.boundKeys schema) :
    ∃ column scope, Facts.column? schema statement = some column ∧ statement.scope? = some scope ∧
      ∃ keys, boundValues? (scope.keyColumn column) scope.condition = some keys ∧ value ∈ keys := by
  unfold boundKeys at bound
  cases isColumn : Facts.column? schema statement with
  | none =>
    rw [isColumn] at bound
    cases bound
  | some column =>
    cases found : statement.scope? with
    | none =>
      rw [isColumn, found] at bound
      cases bound
    | some scope =>
      rw [isColumn, found] at bound
      change value ∈ (boundValues? (scope.keyColumn column) scope.condition).getD [] at bound
      cases keys : boundValues? (scope.keyColumn column) scope.condition with
      | none =>
        rw [keys] at bound
        cases bound
      | some keys' =>
        rw [keys] at bound
        exact ⟨column, scope, rfl, rfl, keys', keys, bound⟩

/-- Where the key column is named, the first relation of the `FROM` is a table. -/
theorem exists_source {scope : Scope} {column : String} {path : List Ident}
    (isColumn : Facts.column? schema statement = some column) (found : statement.scope? = some scope)
    (meant : (scope.keyColumn column).isMeantBy (.column path) = true) :
    ∃ source, scope.relation = .table source := by
  obtain ⟨name, -, -, names⟩ := KeyColumn.isMeantBy_column.mp meant
  by_cases bare : path.dropLast = []
  · rw [if_pos bare] at names
    obtain ⟨about, -⟩ := unlisted_scope found (listed?_of_sole found names)
    cases relation : scope.relation with
    | table source => exact ⟨source, rfl⟩
    | _ =>
      rw [Facts.column?, about, relation] at isColumn
      cases isColumn
  · rw [if_neg bare] at names
    cases relation : scope.relation with
    | table source => exact ⟨source, rfl⟩
    | _ => simp [KeyColumn.qualifiedBy, Scope.keyColumn, relation, KeyColumn.qualifiersOf] at names

theorem meansOwn_withCondition (path : List Ident) (condition : Expr) :
    (statement.withCondition condition).MeansOwn home path ↔ statement.MeansOwn home path := by
  have relations : (statement.withCondition condition).relations = statement.relations := by
    cases statement with
    | query whole =>
      obtain ⟨preamble, body, tail⟩ := whole
      cases body <;> rfl
    | _ => rfl
  have views : (statement.withCondition condition).views = statement.views := by
    cases statement with
    | query whole =>
      obtain ⟨preamble, body, tail⟩ := whole
      cases body <;> rfl
    | _ => rfl
  unfold MeansOwn first?
  rw [relations, views]

/-- A key is one for which a statement tests the sharding column of its first relation. -/
def TestsOwn (home : String) (schema : Schema) (statement : Statement) (value : KeyValue) : Prop :=
  ∃ condition path column last, statement.condition? = some condition ∧ condition.Tests path value ∧
    statement.MeansOwn home path ∧ Facts.column? schema statement = some column ∧
      path.getLast? = some last ∧ Text.sameIgnoringCase last.name column = true

theorem testsOwn_of_boundKeys (clear : statement.IsClear home) {value : KeyValue}
    (bound : value ∈ statement.boundKeys schema) :
    statement.Reported home ∧ statement.TestsOwn home schema value := by
  obtain ⟨column, scope, isColumn, found, keys, binds, inside⟩ := exists_of_boundKeys bound
  obtain ⟨path, tests, meant⟩ := tests_of_boundValues? binds inside
  obtain ⟨source, own⟩ := exists_source isColumn found meant
  obtain ⟨table, clear⟩ := clear scope found source own
  obtain ⟨last, isLast, named, -⟩ := KeyColumn.isMeantBy_column.mp meant
  exact ⟨clear.reported found own, scope.condition, path, column, last, condition?_of_scope? found,
    tests, clear.meansOwn found own (Expr.mem_tested tests) meant, isColumn, isLast, named⟩

/-- **Statements that differ elsewhere bind the same keys.** -/
theorem boundKeys_agreeBut (clear : statement.IsClear home) {condition other : Expr}
    (has : statement.condition? = some condition)
    (agree : condition.AgreeBut (statement.MeansOwn home) other)
    (clearOther : (statement.withCondition other).IsClear home) :
    (statement.withCondition other).boundKeys schema = statement.boundKeys schema := by
  have others := scope?_withCondition has other
  unfold boundKeys
  rw [column?_withCondition, others]
  cases isColumn : Facts.column? schema statement with
  | none => rfl
  | some column =>
    cases found : statement.scope? with
    | none => rfl
    | some scope =>
      obtain rfl : condition = scope.condition :=
        Option.some.inj (has.symm.trans (condition?_of_scope? found))
      rw [found] at others
      have same : boundValues? (scope.keyColumn column) scope.condition =
          boundValues? (scope.keyColumn column) other := by
        apply boundValues?_agreeBut agree
        · intro path inside meant
          obtain ⟨source, own⟩ := exists_source isColumn found meant
          obtain ⟨table, clear⟩ := clear scope found source own
          exact clear.meansOwn found own inside meant
        · intro path inside meant
          obtain ⟨source, own⟩ := exists_source isColumn found meant
          obtain ⟨table, clear⟩ := clearOther _ others source own
          exact (meansOwn_withCondition path other).mp (clear.meansOwn others own inside meant)
      show (boundValues? (scope.keyColumn column) other).getD [] = scope.keys column
      rw [← same]
      rfl

end Sql.Statement

/-- **Only the keys of a statement's own table narrow it.** Let the names in a statement that inserts nothing
be clear: a table that is listed apart is the first relation under its own name, and no column's name gives
another schema than that of the table. If it binds keys at all, then the table that it is reported to be
about is its first relation, and each of them is one for which its condition tests the sharding column
of this relation. And a condition that differs in nothing but parts that test none of its columns binds
the same keys. Statements with a `LATERAL VIEW`, and deletions that list a relation of their `USING` other
than the first, are not clear, so nothing is said of them. -/
theorem own_keys_bound {home : String} {schema : Schema} {sql : String} {statement : Statement}
    (parsed : Statement.parse sql = .ok statement) (noInsert : statement.insert? = none)
    (clear : statement.IsClear home) :
    ∃ facts, Facts.ofText schema sql = .ok facts ∧ facts.table = Facts.table? statement ∧
      (∀ value ∈ facts.values, statement.Reported home ∧ statement.TestsOwn home schema value) ∧
        ∀ (respelt : String) (condition other : Expr), statement.condition? = some condition →
          condition.AgreeBut (statement.MeansOwn home) other →
            Statement.parse respelt = .ok (statement.withCondition other) →
              (statement.withCondition other).IsClear home →
                ∃ others, Facts.ofText schema respelt = .ok others ∧ others.values = facts.values := by
  have read : ∀ {text : String} {statement : Statement}, Statement.parse text = .ok statement →
      statement.insert? = none → ∃ facts, Facts.ofText schema text = .ok facts ∧
        facts.table = Facts.table? statement ∧ facts.values = statement.boundKeys schema := by
    intro text statement parsed noInsert
    obtain ⟨facts, known, table, -, values⟩ := Facts.ofStatement_values schema noInsert
    exact ⟨facts, (Facts.ofText_of_parse schema parsed).trans known, table, values⟩
  obtain ⟨facts, known, table, values⟩ := read parsed noInsert
  refine ⟨facts, known, table, fun value bound => ?_, ?_⟩
  · rw [values] at bound
    exact Statement.testsOwn_of_boundKeys clear bound
  · intro respelt condition other has agree parsedOther clearOther
    obtain ⟨others, knownOther, -, valuesOther⟩ :=
      read parsedOther ((Statement.insert?_withCondition statement other).trans noInsert)
    refine ⟨others, knownOther, ?_⟩
    rw [valuesOther, values, Statement.boundKeys_agreeBut clear has agree clearOther]

/-- Of a join of users and orders only the number of a user narrows a query, whatever is asked of the
orders. -/
theorem user_of_join_bound :
    let sql := "SELECT * FROM users u JOIN orders o ON o.user_id = u.id WHERE U.ID = 7 AND o.id = 9"
    let respelt :=
      "SELECT * FROM users u JOIN orders o ON o.user_id = u.id WHERE U.ID = 7 AND o.id IN (3, 4)"
    ∃ (schema : Schema) (statement : Statement) (condition other : Expr) (facts others : Facts),
      Schema.ofLayout (Layout.demo 4) = .ok schema ∧ Statement.parse sql = .ok statement ∧
        statement.insert? = none ∧ statement.IsClear "demo" ∧
          statement.condition? = some condition ∧
            condition.AgreeBut (statement.MeansOwn "demo") other ∧
              Statement.parse respelt = .ok (statement.withCondition other) ∧
                (statement.withCondition other).IsClear "demo" ∧
                  Facts.ofText schema sql = .ok facts ∧ facts.values = [.integer 7] ∧
                    statement.Reported "demo" ∧ statement.TestsOwn "demo" schema (.integer 7) ∧
                      Facts.ofText schema respelt = .ok others ∧ others.values = facts.values := by
  intro sql respelt
  let schema := (Schema.ofLayout (Layout.demo 4)).toOption.getD default
  let users : NamedTable := { name := [⟨"users", none⟩], byname := some ⟨⟨"u", none⟩, []⟩ }
  let ordered := Expr.column [⟨"o", none⟩, ⟨"id", none⟩]
  let number := fun digits : String => Expr.literal (.number digits false)
  let seventh := Expr.binary (.column [⟨"U", none⟩, ⟨"ID", none⟩]) .eq (number "7")
  let ninth := Expr.binary ordered .eq (number "9")
  let several := Expr.inList ordered [number "3", number "4"] false
  let condition := Expr.binary seventh .and ninth
  let other := Expr.binary seventh .and several
  let source : Source := ⟨.table users, [" JOIN orders AS o ON o.user_id = u.id"]⟩
  let statement := Statement.query
    { body := .select { items := ["*"], sources := [source], condition := some condition } }
  have accepted : Schema.ofLayout (Layout.demo 4) = .ok schema :=
    eq_ok_of_isOk (by decide +kernel) default
  have parsed : Statement.parse sql = .ok statement := eq_ok_of_toOption (by decide +kernel)
  have parsedOther : Statement.parse respelt = .ok (statement.withCondition other) :=
    eq_ok_of_toOption (by decide +kernel)
  have plain : users.IsPlain := ⟨by decide, by decide, by decide⟩
  have clear : statement.IsClear "demo" :=
    Statement.isClear_of_unlisted rfl rfl plain rfl (by decide +kernel)
  have clearOther : (statement.withCondition other).IsClear "demo" :=
    Statement.isClear_of_unlisted rfl rfl plain rfl (by decide +kernel)
  have foreign : ¬ statement.MeansOwn "demo" [⟨"o", none⟩, ⟨"id", none⟩] :=
    Statement.not_meansOwn rfl (by decide) (by decide +kernel)
  have agree : condition.AgreeBut (statement.MeansOwn "demo") other :=
    .both (.rest seventh) (.foreign (List.forall_mem_singleton.mpr foreign)
      (List.forall_mem_singleton.mpr foreign))
  obtain ⟨facts, known, -, own, elsewhere⟩ := own_keys_bound parsed rfl clear
  obtain ⟨others, knownOther, alike⟩ :=
    elsewhere respelt condition other rfl agree parsedOther clearOther
  have values : facts.values = [.integer 7] := by
    have read : ((Facts.ofText schema sql).toOption.map Facts.values) = some [.integer 7] := by
      decide +kernel
    rw [known] at read
    exact Option.some.inj read
  obtain ⟨reported, tests⟩ := own (.integer 7) (by rw [values]; exact List.mem_singleton_self _)
  exact ⟨schema, statement, condition, other, facts, others, accepted, parsed, rfl, clear, rfl, agree,
    parsedOther, clearOther, known, values, reported, tests, knownOther, alike⟩

/-- A layout with two tables that have a sharding column of the same name. -/
def Layout.usersAndCarts : Layout :=
  { name := "shop"
    shards := [0, 1]
    tables := [
      { name := "users", shards := [0, 1], rule := some ⟨"id", .hash⟩ },
      { name := "carts", shards := [0, 1], rule := some ⟨"id", .hash⟩ }] }

/-- **A deletion may be narrowed by the key of another table**: the carts of a user are deleted, but what
is bound for them is the number of the user. -/
theorem listed_table_misread :
    let sql := "DELETE carts FROM users JOIN carts ON carts.user_id = users.id WHERE users.id = 7"
    ∃ (schema : Schema) (statement : Statement) (users : NamedTable) (path : List Ident)
      (facts : Facts),
      Schema.ofLayout Layout.usersAndCarts = .ok schema ∧ Statement.parse sql = .ok statement ∧
        statement.first? = some (.table users) ∧ pathName users.name = "users" ∧
          statement.condition? = some (.binary (.column path) .eq (.literal (.number "7" false))) ∧
            users.isMeantBy "shop" path.dropLast = true ∧
              Facts.ofText schema sql = .ok facts ∧ facts.table = some "carts" ∧
                facts.values = [.integer 7] := by
  intro sql
  let schema := (Schema.ofLayout Layout.usersAndCarts).toOption.getD default
  let statement := (Statement.parse sql).toOption.getD default
  let users : NamedTable := { name := [⟨"users", none⟩] }
  let path : List Ident := [⟨"users", none⟩, ⟨"id", none⟩]
  let facts := (Facts.ofText schema sql).toOption.getD default
  have accepted : Schema.ofLayout Layout.usersAndCarts = .ok schema :=
    eq_ok_of_isOk (by decide +kernel) default
  have parsed : Statement.parse sql = .ok statement := eq_ok_of_isOk (by decide +kernel) default
  have known : Facts.ofText schema sql = .ok facts := eq_ok_of_isOk (by decide +kernel) default
  obtain ⟨first, named, has, meant, table, values⟩ : statement.first? = some (.table users) ∧
      pathName users.name = "users" ∧
        statement.condition? = some (.binary (.column path) .eq (.literal (.number "7" false))) ∧
          users.isMeantBy "shop" path.dropLast = true ∧ facts.table = some "carts" ∧
            facts.values = [.integer 7] := by
    decide +kernel
  exact ⟨schema, statement, users, path, facts, accepted, parsed, first, named, has, meant, known, table,
    values⟩

end ScatterGather
