/-
**Tables under an alias.**

A statement may give its table an alias and then name the table by nothing else. Where it goes does not
change by this, as the router looks for an alias wherever it looks for the name of the first relation:

* `Aliasing`: a table that is given an alias, all that names it, and the same statement with the alias;
* `Aliasing.ClearOf`: a column's name means the table or has **neither its name nor the alias**;
* `isMeantBy_path`, `boundValues?_expr`: names are those of the key column under the alias as before, and
  the same keys are bound;
* `aliased_goal` — a statement **goes to the same shards** with its table under an alias;
* `listed_alias_lost`: but a deletion that lists the alias of its table does not, as a listed name is
  taken for that of a table.
-/
import ScatterGather.Proofs.Routing.Resolved

namespace ScatterGather

open Sql

/-! ### Statements renamed -/

/-- A table that is given an alias. -/
structure Aliasing where
  /-- The schema of names that give none. -/
  home : String
  table : NamedTable
  byname : Ident
  /-- What becomes of the parts of a statement that are kept as they are spelled. -/
  respell : String → String

namespace Aliasing

variable (aliasing : Aliasing)

/-- The table under its alias. -/
def aliased : NamedTable :=
  { aliasing.table with byname := some ⟨aliasing.byname, []⟩ }

/-- A column's name, with the alias in place of the table's name. -/
def path (names : List Ident) : List Ident :=
  if aliasing.table.isMeantBy aliasing.home names.dropLast then
    aliasing.byname :: names.getLast?.toList
  else names

mutual

/-- An expression with the alias in place of the table's name. -/
def expr : Expr → Expr
  | .column names => .column (aliasing.path names)
  | .literal value => .literal value
  | .unary op operand => .unary op (expr operand)
  | .binary left op right => .binary (expr left) op (expr right)
  | .nested inner => .nested (expr inner)
  | .inList subject candidates negated => .inList (expr subject) (exprs candidates) negated
  | .subquery spelling => .subquery (aliasing.respell spelling)
  | .phrase spelling => .phrase (aliasing.respell spelling)

def exprs : List Expr → List Expr
  | [] => []
  | first :: rest => expr first :: exprs rest

end

/-- A relation other than the table. -/
def other : Relation → Relation
  | .table table => .table table
  | .joined spelling => .joined (aliasing.respell spelling)
  | .derived spelling => .derived (aliasing.respell spelling)

/-- Relations of which the first one is the table. -/
def sources : List Source → List Source
  | [] => []
  | first :: rest =>
    ⟨.table aliasing.aliased, first.joins.map aliasing.respell⟩ ::
      rest.map fun source => ⟨aliasing.other source.relation, source.joins.map aliasing.respell⟩

/-- The name of a table that a deletion lists. -/
def listed (name : List Ident) : List Ident :=
  if aliasing.table.isMeantBy aliasing.home name then [aliasing.byname] else name

/-- A source that lists a table of those behind `USING`. -/
def listing (source : Source) : Source :=
  match source.relation with
  | .table table =>
    { source with relation := .table { table with name := aliasing.listed table.name } }
  | _ => source

def select (selection : Select) : Select :=
  { selection with
    quantifiers := selection.quantifiers.map aliasing.respell
    items := selection.items.map aliasing.respell
    sources := aliasing.sources selection.sources
    views := selection.views.map aliasing.respell
    condition := selection.condition.map aliasing.expr
    clauses := selection.clauses.map aliasing.respell }

def tail (tail : Tail) : Tail :=
  { tail with orderBy := tail.orderBy.map fun item => { item with expr := aliasing.expr item.expr } }

def body : Body → Body
  | .select selection => .select (aliasing.select selection)
  | .nested preamble inner tail => .nested preamble (body inner) (aliasing.tail tail)
  | .combined left operator right => .combined (body left) operator right
  | other => other

/-- A statement with its first relation under the alias, which takes the place of its name. -/
def statement : Statement → Statement
  | .query query =>
    .query { query with body := aliasing.body query.body, tail := aliasing.tail query.tail }
  | .update change => .update
    { change with
      target := ⟨.table aliasing.aliased, change.target.joins.map aliasing.respell⟩
      assignments := change.assignments.map aliasing.respell
      condition := change.condition.map aliasing.expr
      answer := change.answer.map aliasing.respell }
  | .delete deletion => .delete
    { tables := deletion.tables.map aliasing.listed
      sources := if deletion.usingSources.isNone then aliasing.sources deletion.sources
        else deletion.sources.map aliasing.listing
      usingSources := deletion.usingSources.map aliasing.sources
      condition := deletion.condition.map aliasing.expr }
  | statement => statement

/-! ### Names under the alias -/

/-- A table that has no alias is given one, and no name has a point of its own. -/
structure Valid : Prop where
  unnamed : aliasing.table.byname = none
  plain : aliasing.table.IsPlain
  byname : '.' ∉ aliasing.byname.name.toList

theorem Valid.aliased {aliasing : Aliasing} (valid : aliasing.Valid) : aliasing.aliased.IsPlain where
  named := valid.plain.named
  name := valid.plain.name
  byname := by simpa [Aliasing.aliased] using valid.byname

/-- A column's name means the table if it ends in its name behind some schema, or in the alias. -/
structure ClearOf (names : List Ident) : Prop where
  plain : IsPlain names.dropLast
  own : 1 < names.dropLast.length → (spelled names.dropLast).getLast? = some aliasing.table.exposed →
    aliasing.table.isMeantBy aliasing.home names.dropLast = true
  fresh : (spelled names.dropLast).getLast? = some (Text.upper aliasing.byname.name) →
    aliasing.table.isMeantBy aliasing.home names.dropLast = true

instance (names : List Ident) : Decidable (aliasing.ClearOf names) :=
  decidable_of_iff (IsPlain names.dropLast ∧
      (1 < names.dropLast.length →
        (spelled names.dropLast).getLast? = some aliasing.table.exposed →
          aliasing.table.isMeantBy aliasing.home names.dropLast = true) ∧
      ((spelled names.dropLast).getLast? = some (Text.upper aliasing.byname.name) →
        aliasing.table.isMeantBy aliasing.home names.dropLast = true))
    ⟨fun ⟨plain, own, fresh⟩ => ⟨plain, own, fresh⟩, fun clear => ⟨clear.plain, clear.own, clear.fresh⟩⟩

variable {aliasing}

/-- A name that does not mean the table is no name of the first relation, with the alias or without. -/
theorem not_qualifiedBy (valid : aliasing.Valid) {names : List Ident} (clear : aliasing.ClearOf names)
    (qualified : names.dropLast ≠ [])
    (foreign : aliasing.table.isMeantBy aliasing.home names.dropLast = false) {key : KeyColumn}
    (own : key.qualifiers = KeyColumn.qualifiersOf (.table aliasing.table) ∨
      key.qualifiers = KeyColumn.qualifiersOf (.table aliasing.aliased)) :
    key.qualifiedBy names.dropLast = false := by
  rw [Bool.eq_false_iff]
  intro named
  have meant : aliasing.table.isMeantBy aliasing.home names.dropLast = true := by
    rcases own with own | own
    · have ends := (KeyColumn.qualifiedBy_iff own valid.plain qualified clear.plain).mp named
      exact NamedTable.isMeantBy_of_exposed valid.plain.named qualified ends fun several =>
        clear.own several ends
    · exact clear.fresh ((KeyColumn.qualifiedBy_iff own valid.aliased qualified clear.plain).mp named)
  rw [foreign] at meant
  cases meant

variable (aliasing) in
/-- The scope of a condition under the alias. -/
def scope (found : Scope) : Scope :=
  ⟨.table aliasing.aliased, found.sole, aliasing.expr found.condition⟩

/-- **A name is that of the key column under the alias if it was without it.** -/
theorem isMeantBy_path (valid : aliasing.Valid) {found : Scope}
    (own : found.relation = .table aliasing.table) (column : String) {names : List Ident}
    (clear : aliasing.ClearOf names) :
    ((aliasing.scope found).keyColumn column).isMeantBy (.column (aliasing.path names)) =
      (found.keyColumn column).isMeantBy (.column names) := by
  have before : (found.keyColumn column).qualifiers =
      KeyColumn.qualifiersOf (.table aliasing.table) := congrArg KeyColumn.qualifiersOf own
  rw [Bool.eq_iff_iff, KeyColumn.isMeantBy_column, KeyColumn.isMeantBy_column]
  cases meant : aliasing.table.isMeantBy aliasing.home names.dropLast with
  | true =>
    obtain ⟨qualified, ends⟩ := NamedTable.getLast?_of_isMeantBy meant
    have named : (found.keyColumn column).qualifiedBy names.dropLast = true :=
      (KeyColumn.qualifiedBy_iff before valid.plain qualified clear.plain).mpr ends
    have given : names ≠ [] := by
      rintro rfl
      exact qualified rfl
    have last := List.getLast?_eq_some_getLast given
    have path : aliasing.path names = [aliasing.byname, names.getLast given] := by
      rw [Aliasing.path, if_pos meant, last]
      rfl
    have byAlias : ((aliasing.scope found).keyColumn column).qualifiedBy [aliasing.byname] = true := by
      simp [KeyColumn.qualifiedBy, Scope.keyColumn, scope, KeyColumn.qualifiersOf, aliased]
    have isNamed : ∀ part, ((aliasing.scope found).keyColumn column).isNamed part =
        (found.keyColumn column).isNamed part := fun _ => rfl
    simp [path, last, qualified, named, byAlias, isNamed]
  | false =>
    have path : aliasing.path names = names := by
      rw [Aliasing.path, if_neg (by rw [meant]; exact Bool.false_ne_true)]
    rw [path]
    by_cases bare : names.dropLast = []
    · simp [bare, scope, Scope.keyColumn, KeyColumn.isNamed]
    · rw [if_neg bare, if_neg bare, not_qualifiedBy valid clear bare meant (Or.inl before),
        not_qualifiedBy valid clear bare meant (Or.inr rfl)]
      simp

theorem path?_expr (expr : Expr) : (aliasing.expr expr).path? = expr.path?.map aliasing.path := by
  fun_induction Expr.path? expr with
  | case1 names => rfl
  | case2 inner ih => exact ih
  | case3 expr noColumn noNested =>
    cases expr with
    | column names => exact absurd rfl (noColumn names)
    | nested inner => exact absurd rfl (noNested inner)
    | _ => rfl

theorem isMeantBy_expr (valid : aliasing.Valid) {found : Scope}
    (own : found.relation = .table aliasing.table) (column : String) {expr : Expr}
    (clear : ∀ names ∈ expr.path?, aliasing.ClearOf names) :
    ((aliasing.scope found).keyColumn column).isMeantBy (aliasing.expr expr) =
      (found.keyColumn column).isMeantBy expr := by
  rw [Bool.eq_iff_iff, KeyColumn.isMeantBy_iff, KeyColumn.isMeantBy_iff, path?_expr]
  cases isName : expr.path? with
  | none => simp
  | some names => simp [isMeantBy_path valid own column (clear names isName)]

theorem keyLiteral?_expr (expr : Expr) : keyLiteral? (aliasing.expr expr) = keyLiteral? expr := by
  fun_induction keyLiteral? expr with
  | case5 operand ih => rw [Aliasing.expr, keyLiteral?, ih]
  | case6 inner ih => exact ih
  | case7 expr noNumber noString noBoolean noNull noMinus noNested =>
    cases expr with
    | literal value => exact keyLiteral?.eq_7 _ noNumber noString noBoolean noNull noMinus noNested
    | unary op operand =>
      cases op with
      | minus => exact absurd rfl (noMinus operand)
      | _ => rfl
    | nested inner => exact absurd rfl (noNested inner)
    | _ => rfl
  | _ => rfl

theorem exprs_eq_map (exprs : List Expr) : aliasing.exprs exprs = exprs.map aliasing.expr := by
  induction exprs with
  | nil => rfl
  | cons first rest ih => rw [Aliasing.exprs, ih, List.map_cons]

/-- **The same keys are bound under the alias.** -/
theorem boundValues?_expr (valid : aliasing.Valid) {found : Scope}
    (own : found.relation = .table aliasing.table) (column : String) {expr : Expr}
    (clear : ∀ names ∈ expr.tested, aliasing.ClearOf names) :
    boundValues? ((aliasing.scope found).keyColumn column) (aliasing.expr expr) =
      boundValues? (found.keyColumn column) expr := by
  have meant : ∀ {expr : Expr}, (∀ names ∈ expr.path?, aliasing.ClearOf names) →
      ((aliasing.scope found).keyColumn column).isMeantBy (aliasing.expr expr) =
        (found.keyColumn column).isMeantBy expr := isMeantBy_expr valid own column
  fun_induction boundValues? (found.keyColumn column) expr with
  | case1 inner ih => exact ih clear
  | case2 left right =>
    have isLeft := meant fun names named => clear names (Expr.mem_tested_left named)
    have isRight := meant fun names named => clear names (Expr.mem_tested_right named)
    rw [Aliasing.expr, boundValues?, boundByEquality, boundByEquality, isLeft, isRight,
      keyLiteral?_expr, keyLiteral?_expr]
  | case3 left right ihLeft ihRight =>
    rw [Aliasing.expr, boundValues?,
      ihLeft fun names inside => clear names (List.mem_append_left _ inside),
      ihRight fun names inside => clear names (List.mem_append_right _ inside)]
  | case4 left right ihLeft ihRight =>
    rw [Aliasing.expr, boundValues?,
      ihLeft fun names inside => clear names (List.mem_append_left _ inside),
      ihRight fun names inside => clear names (List.mem_append_right _ inside)]
  | case5 subject candidates isKey =>
    have isSubject := meant fun names named =>
      clear names (Expr.mem_tested_inList named candidates false)
    have literals : (candidates.map aliasing.expr).mapM keyLiteral? = candidates.mapM keyLiteral? := by
      rw [List.mapM_map]
      exact congrArg (List.mapM · candidates) (funext keyLiteral?_expr)
    rw [Aliasing.expr, exprs_eq_map, boundValues?, isSubject, if_pos isKey, literals]
  | case6 subject candidates noKey =>
    have isSubject := meant fun names named =>
      clear names (Expr.mem_tested_inList named candidates false)
    rw [Aliasing.expr, boundValues?, isSubject, if_neg noKey]
  | case7 expr noNested noEqual noBoth noEither noList =>
    cases expr with
    | nested inner => exact absurd rfl (noNested inner)
    | binary left op right =>
      cases op with
      | eq => exact absurd rfl (noEqual left right)
      | and => exact absurd rfl (noBoth left right)
      | or => exact absurd rfl (noEither left right)
      | other mark => rfl
    | inList subject candidates negated =>
      cases negated with
      | false => exact absurd rfl (noList subject candidates)
      | true => rfl
    | _ => rfl

end Aliasing

/-! ### Statements under the alias -/

namespace Sql

/-- The relation that the body of a query names first. -/
def Body.target? : Body → Option Relation
  | .select selection => selection.sources.head?.map Source.relation
  | .nested _ body _ => body.target?
  | .combined left _ _ => left.target?
  | _ => none

/-- The relation that a statement is on, which is the first one that it names. A deletion may list its
table apart instead, and then it has none here. -/
def Statement.target? : Statement → Option Relation
  | .query whole => whole.body.target?
  | .update change => some change.target.relation
  | .delete deletion =>
    if deletion.tables.isEmpty && deletion.usingSources.isNone then
      deletion.sources.head?.map Source.relation
    else none
  | _ => none

theorem Body.table?_of_target? {body : Body} {relation : Relation} (target : body.target? = some relation) :
    Facts.bodyTable? body = Facts.sourceTable? ⟨relation, []⟩ := by
  induction body with
  | select selection =>
    obtain ⟨source, isHead, rfl⟩ := Option.map_eq_some_iff.mp target
    rw [Facts.bodyTable?, isHead]
    rfl
  | nested preamble body tail ih => exact ih target
  | combined left operator right ih _ => exact ih target
  | _ => cases target

namespace Statement

theorem sources_of_target? {deletion : Delete} {relation : Relation}
    (target : (Statement.delete deletion).target? = some relation) :
    deletion.tables = [] ∧ deletion.usingSources = none ∧
      ∃ joins rest, deletion.sources = ⟨relation, joins⟩ :: rest := by
  simp only [target?] at target
  split at target
  · next unlisted =>
    simp only [Bool.and_eq_true, List.isEmpty_iff, Option.isNone_iff_eq_none] at unlisted
    obtain ⟨source, isHead, rfl⟩ := Option.map_eq_some_iff.mp target
    obtain ⟨rest, sources⟩ := List.head?_eq_some_iff.mp isHead
    exact ⟨unlisted.1, unlisted.2, source.joins, rest, sources⟩
  · cases target

theorem insert?_of_target? {statement : Statement} {relation : Relation}
    (target : statement.target? = some relation) : statement.insert? = none := by
  cases statement with
  | insert whole => cases target
  | _ => rfl

/-- A statement is about the table that it is on. -/
theorem table?_of_target? {statement : Statement} {relation : Relation}
    (target : statement.target? = some relation) :
    Facts.table? statement = Facts.sourceTable? ⟨relation, []⟩ := by
  cases statement with
  | query whole => exact Body.table?_of_target? target
  | update change =>
    obtain rfl := Option.some.inj target
    rfl
  | delete deletion =>
    obtain ⟨unlisted, -, joins, rest, sources⟩ := sources_of_target? target
    simp only [Facts.table?, unlisted, sources]
    rfl
  | _ => cases target

theorem relation_of_target? {statement : Statement} {relation : Relation} {scope : Scope}
    (target : statement.target? = some relation) (found : statement.scope? = some scope) :
    scope.relation = relation := by
  have ofSources : ∀ {sources : List Source} {others : Bool} {condition : Option Expr},
      Scope.ofSources? sources others condition = some scope →
        sources.head?.map Source.relation = some relation → scope.relation = relation := by
    intro sources others condition found isHead
    obtain ⟨joins, rest, sources, -⟩ := Scope.ofSources?_eq_some found
    rw [sources] at isHead
    exact Option.some.inj isHead
  cases statement with
  | query whole =>
    obtain ⟨preamble, body, tail⟩ := whole
    cases body with
    | select selection => exact ofSources found target
    | _ => cases found
  | update change => exact ofSources found target
  | delete deletion =>
    obtain ⟨-, -, joins, rest, sources⟩ := sources_of_target? target
    exact ofSources found (by rw [sources]; rfl)
  | _ => cases found

end Statement

end Sql

namespace Aliasing

variable {aliasing : Aliasing} {statement : Statement}

theorem target?_body {body : Body} {relation : Relation} (target : body.target? = some relation) :
    (aliasing.body body).target? = some (.table aliasing.aliased) := by
  induction body with
  | select selection =>
    obtain ⟨source, isHead, -⟩ := Option.map_eq_some_iff.mp target
    obtain ⟨rest, sources⟩ := List.head?_eq_some_iff.mp isHead
    simp [Aliasing.body, Aliasing.select, Body.target?, sources, Aliasing.sources]
  | nested preamble body tail ih => exact ih target
  | combined left operator right ih _ => exact ih target
  | _ => cases target

/-- **The statement under the alias is on the table under the alias.** -/
theorem target?_statement {relation : Relation} (target : statement.target? = some relation) :
    (aliasing.statement statement).target? = some (.table aliasing.aliased) := by
  cases statement with
  | query whole => exact target?_body target
  | update change => rfl
  | delete deletion =>
    obtain ⟨unlisted, alone, joins, rest, sources⟩ := Statement.sources_of_target? target
    simp [Aliasing.statement, Statement.target?, unlisted, alone, sources, Aliasing.sources]
  | _ => cases target

/-- **The scope under the alias** is that of the statement under the alias. -/
theorem scope?_statement {relation : Relation} (target : statement.target? = some relation) :
    (aliasing.statement statement).scope? = statement.scope?.map aliasing.scope := by
  have ofSources : ∀ (sources : List Source) (others : Bool) (condition : Option Expr),
      Scope.ofSources? (aliasing.sources sources) others (condition.map aliasing.expr) =
        (Scope.ofSources? sources others condition).map aliasing.scope := by
    intro sources others condition
    cases sources with
    | nil => rfl
    | cons first rest =>
      cases condition with
      | none => rfl
      | some condition => simp [Scope.ofSources?, Aliasing.sources, Aliasing.scope]
  cases statement with
  | query whole =>
    obtain ⟨preamble, body, tail⟩ := whole
    cases body with
    | select selection => exact ofSources _ _ _
    | _ => rfl
  | update change => exact ofSources [change.target] false change.condition
  | delete deletion =>
    obtain ⟨unlisted, alone, -⟩ := Statement.sources_of_target? target
    simp only [Aliasing.statement, Statement.scope?, unlisted, alone]
    exact ofSources _ _ _
  | _ => cases target

/-- **The same keys are bound** under the alias. -/
theorem boundKeys_statement (valid : aliasing.Valid) {schema : Schema}
    (target : statement.target? = some (.table aliasing.table))
    (clear : ∀ scope ∈ statement.scope?, ∀ names ∈ scope.condition.tested, aliasing.ClearOf names) :
    (aliasing.statement statement).boundKeys schema = statement.boundKeys schema := by
  have about : Facts.table? (aliasing.statement statement) = Facts.table? statement := by
    rw [Statement.table?_of_target? target, Statement.table?_of_target? (target?_statement target)]
    rfl
  unfold Statement.boundKeys
  rw [Facts.column?, about, scope?_statement target, ← Facts.column?]
  cases Facts.column? schema statement with
  | none => rfl
  | some column =>
    cases found : statement.scope? with
    | none => rfl
    | some scope =>
      have own := Statement.relation_of_target? target found
      have same := boundValues?_expr valid own column (clear scope found)
      show (boundValues? _ (aliasing.expr scope.condition)).getD [] = scope.keys column
      rw [same]
      rfl

end Aliasing

/-- **An alias does not change where a statement goes.** Let a statement be on a table that has no alias,
and let a deletion list no table apart. With the table under an alias, which takes the place of its name
wherever this stands, the statement goes where it went before, or it is refused for the same reason; as long
as each column that is tested for a key is behind the name of the table, with its own schema or without,
or behind a name that is neither the table's nor the alias. -/
theorem aliased_goal {aliasing : Aliasing} (valid : aliasing.Valid) {schema : Schema}
    {sql respelt : String} {statement : Statement} (parsed : Statement.parse sql = .ok statement)
    (target : statement.target? = some (.table aliasing.table))
    (clear : ∀ scope ∈ statement.scope?, ∀ names ∈ scope.condition.tested, aliasing.ClearOf names)
    (parsedOther : Statement.parse respelt = .ok (aliasing.statement statement)) (charset : String)
    (kind : Kind) :
    (route schema respelt charset kind).map Route.goal =
      (route schema sql charset kind).map Route.goal := by
  have targetOther := aliasing.target?_statement target
  rw [Routing.route_goal parsed (Statement.insert?_of_target? target),
    Routing.route_goal parsedOther (Statement.insert?_of_target? targetOther),
    Statement.table?_of_target? target, Statement.table?_of_target? targetOther,
    Aliasing.boundKeys_statement valid target clear]
  rfl

/-- The users of the demo layout under the alias `u`. -/
def Aliasing.ofUsers : Aliasing where
  home := "demo"
  table := { name := [⟨"users", none⟩] }
  byname := ⟨"u", none⟩
  respell spelling := if spelling = "users.name" then "u.name" else spelling

/-- A query for the name of a user goes to one shard, and so it does with the users under an alias. -/
theorem user_under_alias :
    let sql := "SELECT users.name FROM users WHERE users.id = 7 ORDER BY users.name"
    let respelt := "SELECT u.name FROM users u WHERE u.id = 7 ORDER BY u.name"
    let aliasing := Aliasing.ofUsers
    ∃ (schema : Schema) (statement : Statement),
      Schema.ofLayout (Layout.demo 4) = .ok schema ∧ aliasing.Valid ∧
        Statement.parse sql = .ok statement ∧ statement.target? = some (.table aliasing.table) ∧
          (∀ scope ∈ statement.scope?, ∀ names ∈ scope.condition.tested, aliasing.ClearOf names) ∧
            Statement.parse respelt = .ok (aliasing.statement statement) ∧
              (route schema respelt "utf8mb4" .select).map Route.goal =
                (route schema sql "utf8mb4" .select).map Route.goal ∧
              ((route schema sql "utf8mb4" .select).map Route.goal).toOption = some (.all [3]) := by
  intro sql respelt aliasing
  let schema := (Schema.ofLayout (Layout.demo 4)).toOption.getD default
  let column := fun name : String => Expr.column [⟨"users", none⟩, ⟨name, none⟩]
  let statement := Statement.query
    { body := .select
        { items := ["users.name"]
          sources := [⟨.table aliasing.table, []⟩]
          condition := some (.binary (column "id") .eq (.literal (.number "7" false))) }
      tail := { orderBy := [{ expr := column "name" }] } }
  have accepted : Schema.ofLayout (Layout.demo 4) = .ok schema :=
    eq_ok_of_isOk (by decide +kernel) default
  have valid : aliasing.Valid := ⟨rfl, ⟨by decide, by decide, by decide⟩, by decide⟩
  have parsed : Statement.parse sql = .ok statement := eq_ok_of_toOption (by decide +kernel)
  have parsedOther : Statement.parse respelt = .ok (aliasing.statement statement) :=
    eq_ok_of_toOption (by decide +kernel)
  have clear : ∀ scope ∈ statement.scope?, ∀ names ∈ scope.condition.tested,
      aliasing.ClearOf names := by
    decide +kernel
  exact ⟨schema, statement, accepted, valid, parsed, rfl, clear, parsedOther,
    aliased_goal valid parsed rfl clear parsedOther "utf8mb4" .select, by decide +kernel⟩

/-- **A deletion that lists its table by its alias goes anywhere**, though it goes to the shard of the key
when it lists the table by its name. -/
theorem listed_alias_lost :
    let sql := "DELETE users FROM users WHERE users.id = 7"
    let respelt := "DELETE u FROM users u WHERE u.id = 7"
    let aliasing := Aliasing.ofUsers
    ∃ (schema : Schema) (statement : Statement),
      Schema.ofLayout (Layout.demo 4) = .ok schema ∧ aliasing.Valid ∧
        Statement.parse sql = .ok statement ∧ statement.first? = some (.table aliasing.table) ∧
          Statement.parse respelt = .ok (aliasing.statement statement) ∧
            ((route schema sql "utf8mb4" .delete).map Route.goal).toOption = some (.all [3]) ∧
              ((route schema respelt "utf8mb4" .delete).map Route.goal).toOption =
                some (.anyOf [0, 1, 2, 3]) := by
  intro sql respelt aliasing
  let schema := (Schema.ofLayout (Layout.demo 4)).toOption.getD default
  let statement := Statement.delete
    { tables := [[⟨"users", none⟩]]
      sources := [⟨.table aliasing.table, []⟩]
      condition := some (.binary (.column [⟨"users", none⟩, ⟨"id", none⟩]) .eq
        (.literal (.number "7" false))) }
  have accepted : Schema.ofLayout (Layout.demo 4) = .ok schema :=
    eq_ok_of_isOk (by decide +kernel) default
  have valid : aliasing.Valid := ⟨rfl, ⟨by decide, by decide, by decide⟩, by decide⟩
  have parsed : Statement.parse sql = .ok statement := eq_ok_of_toOption (by decide +kernel)
  have parsedOther : Statement.parse respelt = .ok (aliasing.statement statement) :=
    eq_ok_of_toOption (by decide +kernel)
  exact ⟨schema, statement, accepted, valid, parsed, rfl, parsedOther, by decide +kernel,
    by decide +kernel⟩

end ScatterGather
