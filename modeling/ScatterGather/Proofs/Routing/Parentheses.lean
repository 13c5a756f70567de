/-
**Parentheses around a query.**

The table of a query is looked for inside of its parentheses, but its window and its order are read only
where they stand outside of them:

* `Body.inParens`, `Query.withBodyInParens`: a body in parentheses, with what follows it outside of them;
  `Query.inParens`: a whole query in parentheses;
* `table?_inParens`, `table?_withBodyInParens`: all of them are about **the same table**;
* `OrderItem.OrdersBy`, `orderKeys_complete`: an order by plain columns is known **in full**;
* `page_around_parentheses` — what stands outside of the parentheses is kept, **however many there are**;
* `page_inside_parentheses` — what stands inside of them is **left to every shard**;
* `page_of_users_lost`: so that a client gets pages from four shards in place of one page.
-/
import ScatterGather.Proofs.Routing.Scope
import ScatterGather.Proofs.Routing.Shape
import ScatterGather.Proofs.Sql.Same

namespace ScatterGather

open Sql

namespace Sql

/-- A body in some pairs of parentheses. -/
def Body.inParens (body : Body) : Nat → Body
  | 0 => body
  | depth + 1 => .nested none (body.inParens depth) {}

/-- A query with its body in some pairs of parentheses, its order and its window outside of them. -/
def Query.withBodyInParens (query : Query) (depth : Nat) : Query :=
  { query with body := query.body.inParens depth }

/-- A whole query in some pairs of parentheses. -/
def Query.inParens (query : Query) : Nat → Query
  | 0 => query
  | depth + 1 =>
    let inner := query.inParens depth
    { body := .nested inner.preamble inner.body inner.tail }

/-- An item of an order is a column, whose last name is the given one. -/
def OrderItem.OrdersBy (item : OrderItem) (column : Ident) : Prop :=
  ∃ path, item.expr = .column (path ++ [column])

end Sql

/-! ### What is seen through parentheses -/

namespace Facts

theorem bodyTable?_inParens (body : Body) (depth : Nat) :
    bodyTable? (body.inParens depth) = bodyTable? body := by
  induction depth with
  | zero => rfl
  | succ depth ih => exact ih

theorem table?_withBodyInParens (query : Query) (depth : Nat) :
    table? (.query (query.withBodyInParens depth)) = table? (.query query) :=
  bodyTable?_inParens query.body depth

theorem table?_inParens (query : Query) (depth : Nat) :
    table? (.query (query.inParens depth)) = table? (.query query) := by
  induction depth with
  | zero => rfl
  | succ depth ih => exact ih

/-- The key of an item that orders by a column. -/
theorem orderKey?_of_ordersBy {item : OrderItem} {column : Ident} (orders : item.OrdersBy column) :
    orderKey? item = some ⟨Text.upper column.name, item.ascending.getD true⟩ := by
  obtain ⟨path, isColumn⟩ := orders
  simp only [orderKey?, isColumn, List.getLast?_concat, Option.map_some]

/-- **An order by plain columns is known in full**: every item is a key, in the same order. -/
theorem orderKeys_complete {items : List OrderItem}
    (plain : ∀ item ∈ items, ∃ column, item.OrdersBy column) :
    List.Forall₂ (fun item key => ∃ column, item.OrdersBy column ∧
      key = ⟨Text.upper column.name, item.ascending.getD true⟩) items (orderKeys items) := by
  induction items with
  | nil => exact .nil
  | cons item rest ih =>
    obtain ⟨⟨column, orders⟩, plainRest⟩ := List.forall_mem_cons.mp plain
    rw [orderKeys, orderKey?_of_ordersBy orders]
    exact .cons ⟨column, orders, rfl⟩ (ih plainRest)

/-- Neither a window nor an order is known of a query that stands in parentheses as a whole. -/
theorem ofText_inParens {schema : Schema} {sql : String} {query : Query} {depth : Nat}
    (parsed : Statement.parse sql = .ok (.query (query.inParens (depth + 1)))) {facts : Facts}
    (known : ofText schema sql = .ok facts) :
    facts.statement = .query (query.inParens (depth + 1)) ∧ facts.rows = [] ∧ facts.limit = none ∧
      facts.orderBy = [] := by
  rw [ofText_of_parse schema parsed] at known
  obtain rfl := Except.ok.inj known
  exact ⟨rfl, rfl, rfl, rfl⟩

end Facts

/-! ### Pages -/

/-- A statement with a plan is about a table that the schema knows, and on shards of it. -/
theorem Plan.Shaped.exists_table {schema : Schema} {sql charset : String} {kind : Kind} {plan : Plan}
    {facts : Facts} (shaped : plan.Shaped schema facts sql) (known : Facts.ofText schema sql = .ok facts)
    (routed : route schema sql charset kind = .ok (.all plan)) :
    ∃ table, facts.table.bind schema.table? = some table ∧
      plan.outlets.map Outlet.shard ⊆ table.shards := by
  obtain ⟨own, isOwn, given⟩ := Routing.exists_of_route routed
  obtain rfl : facts = own := Except.ok.inj (known.symm.trans isOwn)
  obtain ⟨-, whole⟩ | ⟨table, -, about, -⟩ := Routing.ofFacts_cases schema facts sql kind
  · rw [whole] at given
    cases given
  · exact ⟨table, about, shaped.inTable table about⟩

/-- All outlets get the text of the client where there are neither a window nor rows to split. -/
theorem Plan.Shaped.unchanged_all {schema : Schema} {facts : Facts} {sql : String} {plan : Plan}
    (shaped : plan.Shaped schema facts sql)
    (noLimit : ∀ query, facts.statement = .query query → Facts.limit? query = none)
    (noRows : facts.rows = []) : ∀ outlet ∈ plan.outlets, outlet.sql = sql := by
  intro outlet inside
  by_cases several : 1 < plan.outlets.length
  · exact shaped.unchanged several noLimit noRows outlet inside
  · have one : plan.outlets.length = 1 := by
      have := List.length_pos_of_mem inside
      omega
    obtain ⟨only, isOnly⟩ := List.length_eq_one_iff.mp one
    rw [shaped.alone only isOnly] at inside
    exact congrArg Outlet.sql (List.mem_singleton.mp inside)

/-- **A page around parentheses is kept.** In a schema that was accepted let a query order by plain
columns and ask for a page, and let its body stand in any number of pairs of parentheses, with the order
and the page outside of them. Wherever it is routed to several shards, these hold the table that the query
names; every one of them is asked for the first rows up to the end of the page, and the page is left to
the merged result, which is ordered by all of the columns. Without the parentheses it is asked for in the
same way. -/
theorem page_around_parentheses {layout : Layout} {schema : Schema}
    (accepted : Schema.ofLayout layout = .ok schema) {sql charset : String} {kind : Kind}
    {query : Query} {depth : Nat} {limit : Limit} {plan : Plan}
    (parsed : Statement.parse sql = .ok (.query (query.withBodyInParens depth)))
    (windowed : Facts.limit? query = some limit)
    (plain : ∀ item ∈ query.tail.orderBy, ∃ column, item.OrdersBy column)
    (routed : route schema sql charset kind = .ok (.all plan)) (several : 1 < plan.outlets.length) :
    (∃ table, (Facts.table? (.query query)).bind schema.table? = some table ∧
        plan.outlets.map Outlet.shard ⊆ table.shards) ∧
      Widens limit (query.withBodyInParens depth) plan ∧
      List.Forall₂ (fun item key => ∃ column, item.OrdersBy column ∧
        key = ⟨Text.upper column.name, item.ascending.getD true⟩) query.tail.orderBy plan.orderBy ∧
      ∀ (bare other : String) (bareKind : Kind) (barePlan : Plan),
        Statement.parse bare = .ok (.query query) →
          route schema bare other bareKind = .ok (.all barePlan) → 1 < barePlan.outlets.length →
            Widens limit query barePlan ∧ barePlan.window = plan.window ∧
              barePlan.orderBy = plan.orderBy := by
  have widens := plan_widens parsed windowed routed several
  obtain ⟨facts, known, shaped⟩ := route_shaped accepted routed picks_head
  obtain ⟨read, table, -, -⟩ := Facts.ofText_eq_ok known
  have sameTable : facts.table = Facts.table? (.query query) := by
    rw [table, Except.ok.inj (read.symm.trans parsed), Facts.table?_withBodyInParens]
  refine ⟨sameTable ▸ shaped.exists_table known routed, widens,
    widens.orderBy ▸ Facts.orderKeys_complete plain, ?_⟩
  intro bare other bareKind barePlan parsedBare routedBare severalBare
  have bareWidens := plan_widens parsedBare windowed routedBare severalBare
  exact ⟨bareWidens, bareWidens.window.trans widens.window.symm,
    bareWidens.orderBy.trans widens.orderBy.symm⟩

/-- Ten users in the order of their names, after the first five. -/
def Sql.Query.pageOfUsers : Query :=
  let number := fun digits : String => Expr.literal (.number digits false)
  { body := .select { items := ["*"], sources := [⟨.table { name := [⟨"users", none⟩] }, []⟩] }
    tail :=
      { orderBy := [{ expr := .column [⟨"name", none⟩] }]
        limit := some (number "10")
        offset := some { count := number "5" } } }

/-- A page of the users of the demo layout is asked for around two pairs of parentheses. -/
theorem page_around_users_kept :
    let sql := "((SELECT * FROM users)) ORDER BY name LIMIT 10 OFFSET 5"
    let first := "((SELECT * FROM users)) ORDER BY name LIMIT 15"
    let query := Query.pageOfUsers
    let plan : Plan :=
      { outlets := [⟨0, first⟩, ⟨1, first⟩, ⟨2, first⟩, ⟨3, first⟩]
        window := ⟨5, some 10⟩
        orderBy := [⟨"NAME", true⟩] }
    ∃ schema : Schema, Schema.ofLayout (Layout.demo 4) = .ok schema ∧
      Statement.parse sql = .ok (.query (query.withBodyInParens 2)) ∧
        Facts.limit? query = some ⟨5, 10⟩ ∧
          (∀ item ∈ query.tail.orderBy, ∃ column, item.OrdersBy column) ∧
            route schema sql "utf8mb4" (Kind.classify sql) = .ok (.all plan) ∧
              1 < plan.outlets.length ∧ Widens ⟨5, 10⟩ (query.withBodyInParens 2) plan := by
  intro sql first query plan
  let schema := (Schema.ofLayout (Layout.demo 4)).toOption.getD default
  have accepted : Schema.ofLayout (Layout.demo 4) = .ok schema :=
    eq_ok_of_isOk (by decide +kernel) default
  have parsed : Statement.parse sql = .ok (.query (query.withBodyInParens 2)) :=
    eq_ok_of_toOption (by decide +kernel)
  have windowed : Facts.limit? query = some ⟨5, 10⟩ := by decide +kernel
  have plain : ∀ item ∈ query.tail.orderBy, ∃ column, item.OrdersBy column :=
    List.forall_mem_singleton.mpr ⟨⟨"name", none⟩, [], rfl⟩
  have routed : route schema sql "utf8mb4" (Kind.classify sql) = .ok (.all plan) :=
    eq_ok_of_toOption (by decide +kernel)
  have several : 1 < plan.outlets.length := by decide
  obtain ⟨-, widens, -, -⟩ :=
    page_around_parentheses accepted parsed windowed plain routed several
  exact ⟨schema, accepted, parsed, windowed, plain, routed, several, widens⟩

/-- **A page inside of parentheses is left to every shard.** However many pairs of parentheses a query
stands in as a whole, it goes to shards of the table that it names; but neither a window nor an order is
kept for the merged result, and what is sent is the text of the client. -/
theorem page_inside_parentheses {layout : Layout} {schema : Schema}
    (accepted : Schema.ofLayout layout = .ok schema) {sql charset : String} {kind : Kind}
    {query : Query} {depth : Nat} {plan : Plan}
    (parsed : Statement.parse sql = .ok (.query (query.inParens (depth + 1))))
    (routed : route schema sql charset kind = .ok (.all plan)) :
    (∃ table, (Facts.table? (.query query)).bind schema.table? = some table ∧
        plan.outlets.map Outlet.shard ⊆ table.shards) ∧
      plan.window = {} ∧ plan.orderBy = [] ∧ ∀ outlet ∈ plan.outlets, outlet.sql = sql := by
  obtain ⟨facts, known, shaped⟩ := route_shaped accepted routed picks_head
  obtain ⟨isQuery, noRows, noLimit, noOrder⟩ := Facts.ofText_inParens parsed known
  obtain ⟨own, outlets, isOwn, isPlan⟩ := Routing.exists_of_route_all routed
  obtain rfl : facts = own := Except.ok.inj (known.symm.trans isOwn)
  have sameTable : facts.table = Facts.table? (.query query) := by
    rw [(Facts.ofText_eq_ok known).2.1, isQuery, Facts.table?_inParens]
  refine ⟨sameTable ▸ shaped.exists_table known routed,
    isPlan ▸ (Routing.plan_unwidened noLimit outlets).2, ?_, shaped.unchanged_all ?_ noRows⟩
  · rw [isPlan, Routing.plan]
    split
    · rfl
    · rw [noLimit]
      exact noOrder
  · intro own same
    rw [← Statement.query.inj (isQuery.symm.trans same)]
    rfl

/-- **A page in parentheses is lost**: all four shards skip users of their own, and the client gets the
pages of all of them, one after the other. -/
theorem page_of_users_lost :
    let sql := "(SELECT * FROM users ORDER BY name LIMIT 10 OFFSET 5)"
    let query := Query.pageOfUsers
    ∃ schema : Schema, Schema.ofLayout (Layout.demo 4) = .ok schema ∧
      Statement.parse sql = .ok (.query (query.inParens 1)) ∧
        Facts.limit? query = some ⟨5, 10⟩ ∧ Facts.orderKeys query.tail.orderBy = [⟨"NAME", true⟩] ∧
          route schema sql "utf8mb4" (Kind.classify sql) =
            .ok (.all { outlets := [⟨0, sql⟩, ⟨1, sql⟩, ⟨2, sql⟩, ⟨3, sql⟩] }) := by
  intro sql query
  let schema := (Schema.ofLayout (Layout.demo 4)).toOption.getD default
  have accepted : Schema.ofLayout (Layout.demo 4) = .ok schema :=
    eq_ok_of_isOk (by decide +kernel) default
  have parsed : Statement.parse sql = .ok (.query (query.inParens 1)) :=
    eq_ok_of_toOption (by decide +kernel)
  exact ⟨schema, accepted, parsed, by decide +kernel, by decide +kernel,
    eq_ok_of_toOption (by decide +kernel)⟩

end ScatterGather
