/-
**A window over several shards.**

A query with a window that goes to several shards asks every one of them for as many of its first rows
as the window may need, and the window itself is left to the merged result:

* `Limit.window`: the window that a statement asks for;
* `Widens`: what a plan makes of such a query: the window and the order are those of the query, and
  every shard is sent the query for the first rows alone;
* `limit?_withWindow` — what the shards are sent **says how many rows** it asks for, from the first one
  on;
* `plan_widens` — **every plan** of a query with a window over several shards is such a plan.
-/
import ScatterGather.Proofs.Routing.Coverage

namespace ScatterGather

open Sql

/-! ### Windows of queries -/

/-- The query that a statement is. -/
def Sql.Statement.query? : Statement → Option Query
  | .query whole => some whole
  | _ => none

theorem Sql.Statement.eq_of_query? {statement : Statement} {whole : Query}
    (isQuery : statement.query? = some whole) : statement = .query whole := by
  cases statement with
  | query own => exact congrArg Statement.query (Option.some.inj isQuery)
  | _ => cases isQuery

namespace Limit

/-- The window that a statement asks for. -/
def window (limit : Limit) : Window :=
  ⟨limit.offset, some limit.limit⟩

end Limit

/-- What a plan makes of a query with a window. -/
structure Widens (limit : Limit) (query : Query) (plan : Plan) : Prop where
  window : plan.window = limit.window
  orderBy : plan.orderBy = Facts.orderKeys query.tail.orderBy
  sent : ∀ outlet ∈ plan.outlets, outlet.sql = (query.withWindow (Facts.Limit.widened limit)).text
  asked : Facts.limit? (query.withWindow (Facts.Limit.widened limit)) =
    some ⟨0, Facts.Limit.widened limit⟩

namespace Facts

theorem limit?_withWindow (query : Query) {count : Nat} (fits : count < 0x10000000000000000) :
    limit? (query.withWindow count) = some ⟨0, count⟩ := by
  have read : rowCount? (.literal (.number (toString count) false)) = some count :=
    Whole.uint64?_toString fits
  simp only [limit?, Query.withWindow, Option.bind_some, read]
  rfl

/-- No more rows are asked for than a statement can tell. -/
theorem widened_lt (limit : Limit) : Limit.widened limit < 0x10000000000000000 := by
  unfold Limit.widened
  omega

/-- What is known of a text is known of its statement: the table that it is about, and the window and the
order if it is a query. -/
theorem ofText_eq_ok {schema : Schema} {sql : String} {facts : Facts}
    (known : ofText schema sql = .ok facts) :
    Statement.parse sql = .ok facts.statement ∧ facts.table = table? facts.statement ∧
      facts.limit = facts.statement.query?.bind limit? ∧
      ∀ query, facts.statement = .query query → facts.orderBy = orderKeys query.tail.orderBy := by
  unfold ofText at known
  cases parsed : Statement.parse sql with
  | error cause =>
    rw [parsed] at known
    cases known
  | ok statement =>
    simp only [parsed, ofStatement] at known
    split at known
    · obtain rfl := Except.ok.inj known
      exact ⟨rfl, rfl, rfl, fun query same => by rw [Statement.query.inj same]⟩
    · obtain ⟨rows, -, rfl⟩ := map_eq_ok.mp known
      exact ⟨rfl, rfl, rfl, fun query other => by cases other⟩
    · obtain rfl := Except.ok.inj known
      exact ⟨rfl, rfl, rfl, fun query other => by cases other⟩
    · obtain rfl := Except.ok.inj known
      exact ⟨rfl, rfl, rfl, fun query other => by cases other⟩
    · next statement _ _ noQuery _ _ _ =>
      obtain rfl := Except.ok.inj known
      have none : statement.query? = none := Option.eq_none_iff_forall_ne_some.mpr
        fun query isQuery => noQuery query (Statement.eq_of_query? isQuery)
      exact ⟨rfl, rfl, none ▸ rfl, fun query same => absurd same (noQuery query)⟩

end Facts

/-- Outlets on several shards widen the window that is known of a query. -/
theorem Routing.plan_widens {facts : Facts} {outlets : List Outlet} {query : Query} {limit : Limit}
    (isQuery : facts.statement = .query query) (hasLimit : facts.limit = some limit)
    (hasOrder : facts.orderBy = Facts.orderKeys query.tail.orderBy) (several : 1 < outlets.length) :
    Widens limit query (plan facts outlets) := by
  have widened : facts.widened? = some (query.withWindow (Facts.Limit.widened limit)).text := by
    simp only [Facts.widened?, hasLimit, isQuery]
  have whole : plan facts outlets =
      { outlets := outlets.map fun outlet =>
          { outlet with sql := (query.withWindow (Facts.Limit.widened limit)).text }
        window := limit.window
        orderBy := facts.orderBy } := by
    simp only [plan, if_neg (Nat.not_lt.mpr several), hasLimit, widened]
    rfl
  rw [whole]
  refine ⟨rfl, hasOrder, fun outlet inside => ?_, Facts.limit?_withWindow query (Facts.widened_lt limit)⟩
  obtain ⟨before, -, rfl⟩ := List.mem_map.mp inside
  rfl

/-- **A plan over several shards** widens the window of its query. -/
theorem plan_widens {schema : Schema} {sql charset : String} {kind : Kind} {plan : Plan}
    {query : Query} {limit : Limit} (parsed : Statement.parse sql = .ok (.query query))
    (windowed : Facts.limit? query = some limit)
    (routed : route schema sql charset kind = .ok (.all plan)) (several : 1 < plan.outlets.length) :
    Widens limit query plan := by
  obtain ⟨facts, outlets, known, rfl⟩ := Routing.exists_of_route_all routed
  obtain ⟨read, -, hasLimit, hasOrder⟩ := Facts.ofText_eq_ok known
  have isQuery : facts.statement = .query query := Except.ok.inj (read.symm.trans parsed)
  rw [isQuery] at hasLimit
  rw [Routing.plan_length] at several
  exact Routing.plan_widens isQuery (hasLimit.trans windowed) (hasOrder query isQuery) several

end ScatterGather
