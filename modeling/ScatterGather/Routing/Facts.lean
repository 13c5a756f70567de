/-
**What a router knows of a statement.**

* `Facts`: the table a statement is about, the key values it binds, the keys of the rows it inserts,
  and its window and order;
* `Facts.ofStatement`: the facts of a statement, which the layout of its table helps to find;
* `Facts.widened?`: the query that lets every shard return enough rows for the window;
* `Facts.subset?`: the insertion of some of its rows.
-/
import ScatterGather.Layout.Schema
import ScatterGather.Routing.Bound
import ScatterGather.Routing.Plan

namespace ScatterGather

open Sql

/-- The numbers of a window as a statement writes them. -/
structure Limit where
  offset : Nat
  limit : Nat
  deriving DecidableEq, Repr, Inhabited

/-- A row of an insertion by its place, with its key. -/
structure KeyedRow where
  index : Nat
  key : KeyValue
  deriving DecidableEq, Repr, Inhabited

/-- What a router knows of a statement. -/
structure Facts where
  statement : Statement
  table : Option String
  /-- The key values that the statement binds, in order. -/
  values : List KeyValue := []
  rows : List KeyedRow := []
  limit : Option Limit := none
  orderBy : List OrderKey := []
  deriving Repr, Inhabited

namespace Facts

/-! ### The table -/

/-- The table of an item of a `FROM` list. -/
def sourceTable? (source : Source) : Option String :=
  match source.relation with
  | .table table => some (pathName table.name)
  | _ => none

/-- The first table that the body of a query names. -/
def bodyTable? : Body → Option String
  | .select selection => selection.sources.head?.bind sourceTable?
  | .nested _ body _ => bodyTable? body
  | .combined left _ _ => bodyTable? left
  | _ => none

/-- The table that a statement is about. -/
def table? : Statement → Option String
  | .query query => bodyTable? query.body
  | .insert insert => some (pathName insert.table)
  | .update update => sourceTable? update.target
  | .delete delete =>
    match delete.tables with
    | name :: _ => some (pathName name)
    | [] => delete.sources.head?.bind sourceTable?
  | .createTable name => some (pathName name)
  | .createIndex name => some (pathName name)
  | .alterTable name => some (pathName name)
  | .dropTable names => names.head?.map pathName
  | _ => none

/-! ### Keys -/

/-- The key values that the condition of a statement binds. `others` tells whether the statement has
relations other than the first. -/
def conditionValues (column : String) (target : Source) (others : Bool) (condition : Expr) :
    List KeyValue :=
  let key : KeyColumn :=
    { name := column
      qualifiers := KeyColumn.qualifiersOf target.relation
      sole := !others && target.joins.isEmpty }
  (boundValues? key condition).getD []

/-- The key values that a condition over the sources of a statement binds. -/
def sourceValues (column : String) (sources : List Source) (others : Bool)
    (condition : Option Expr) : List KeyValue :=
  match sources, condition with
  | target :: rest, some condition =>
    conditionValues column target (others || !rest.isEmpty) condition
  | _, _ => []

/-- The key of a row of an insertion, which has to be a literal. -/
def rowKey (table column : String) (position : Nat) (row : Nat × List Expr) :
    Except RouteError KeyedRow :=
  match row.2[position]?.bind keyLiteral? with
  | some key => .ok ⟨row.1, key⟩
  | none => .error (.keyNotLiteral row.1 table column)

/-- The rows of an insertion with their keys. -/
def keyedRows (column : String) (insert : Insert) : Except RouteError (List KeyedRow) :=
  let table := pathName insert.table
  match insert.columns.findIdx? fun listed => Text.sameIgnoringCase listed.name column with
  | none => .error (.columnNotListed table column)
  | some position =>
    match insert.rows? with
    | none => .error (.rowsNotListed table)
    | some rows => ((List.range rows.length).zip rows).mapM (rowKey table column position)

/-! ### Window and order -/

/-- A row count that is a plain number. -/
def rowCount? : Expr → Option Nat
  | .literal (.number digits _) => Whole.uint64? digits.toList
  | _ => none

/-- The window of a query, if its numbers are plain. -/
def limit? (query : Query) : Option Limit := do
  let limit ← query.tail.limit.bind rowCount?
  match query.tail.offset with
  | some offset => return ⟨← rowCount? offset.count, limit⟩
  | none => return ⟨0, limit⟩

/-- The column to order by, if an expression is one. -/
def orderKey? (item : OrderItem) : Option OrderKey :=
  match item.expr with
  | .column path => path.getLast?.map fun column =>
    ⟨Text.upper column.name, item.ascending.getD true⟩
  | _ => none

/-- The columns to order by, up to the first expression that is none. -/
def orderKeys : List OrderItem → List OrderKey
  | [] => []
  | item :: rest =>
    match orderKey? item with
    | some key => key :: orderKeys rest
    | none => []

/-! ### Facts of a statement -/

/-- The sharding column of the table that a statement is about. -/
def column? (schema : Schema) (statement : Statement) : Option String := do
  let table ← schema.table? (← table? statement)
  table.ruleColumn?

/-- The key values that a query binds. -/
def queryValues (column : Option String) (query : Query) : List KeyValue :=
  match column, query.body with
  | some column, .select selection =>
    sourceValues column selection.sources false selection.condition
  | _, _ => []

/-- The key values that a deletion binds. -/
def deleteValues (column : String) (delete : Delete) : List KeyValue :=
  sourceValues column delete.sources
    (!delete.tables.isEmpty || delete.usingSources.isSome) delete.condition

/-- The facts of a statement. -/
def ofStatement (schema : Schema) (statement : Statement) : Except RouteError Facts :=
  let facts : Facts := { statement, table := table? statement }
  let column := column? schema statement
  match statement, column with
  | .query query, _ =>
    .ok { facts with
      values := queryValues column query
      limit := limit? query
      orderBy := orderKeys query.tail.orderBy }
  | .insert insert, some column =>
    (keyedRows column insert).map fun rows =>
      { facts with rows, values := Ascending.ofList (rows.map KeyedRow.key) }
  | .update update, some column =>
    .ok { facts with values := sourceValues column [update.target] false update.condition }
  | .delete delete, some column => .ok { facts with values := deleteValues column delete }
  | _, _ => .ok facts

/-- The facts of the one statement of a text. -/
def ofText (schema : Schema) (text : String) : Except RouteError Facts :=
  match Statement.parse text with
  | .error cause => .error (.statement cause)
  | .ok statement => ofStatement schema statement

/-! ### Statements for the shards -/

/-- The number of rows that every shard returns at most, so that the window is covered wherever its
rows are. -/
def Limit.widened (limit : Limit) : Nat :=
  min (limit.offset + limit.limit) 0xffffffffffffffff

/-- The query that every shard gets in place of one with a window. -/
def widened? (facts : Facts) : Option String :=
  match facts.limit, facts.statement with
  | some limit, .query query => some (query.withWindow (Limit.widened limit)).text
  | _, _ => none

/-- The insertion of the rows at some places. -/
def subset? (facts : Facts) (places : List Nat) : Option String :=
  match facts.statement with
  | .insert insert =>
    insert.rows?.bind fun rows =>
      (insert.withRows (places.filterMap fun place => rows[place]?)).map Insert.text
  | _ => none

end Facts

end ScatterGather
