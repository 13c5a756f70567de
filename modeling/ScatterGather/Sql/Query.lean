/-
**Queries.**

* `Source`: an item of a `FROM` list, a relation with what is joined to it;
* `Select`, `Body`, `Query`: a selection, what set operators and parentheses make of selections,
  and a body with its `WITH` and with its order, its window and what follows;
* `Query.text`: the canonical spelling of a query;
* `Query.withWindow`: the same query cut to a number of rows, with no offset.
-/
import ScatterGather.Sql.Expr

namespace ScatterGather.Sql

/-! ### Relations -/

/-- A name for a column of a relation, with a type where one is written. -/
structure AliasColumn where
  name : Ident
  /-- The type in canonical spelling. -/
  type : Option String := none
  deriving DecidableEq, Repr, Inhabited

/-- The name that a statement gives a relation, with names for its columns. -/
structure Alias where
  name : Ident
  columns : List AliasColumn := []
  deriving DecidableEq, Repr, Inhabited

/-- A table that is named, or the rows of a function in its place. -/
structure NamedTable where
  name : List Ident
  /-- The parts of the table that are read; all of it where there are none. -/
  partition : List Ident := []
  /-- The arguments of a function in canonical spelling. -/
  arguments : Option (List String) := none
  /-- Tells whether the rows are numbered. -/
  numbered : Bool := false
  byname : Option Alias := none
  /-- Hints in canonical spelling. -/
  hints : List String := []
  deriving DecidableEq, Repr, Inhabited

/-- What a statement reads from or writes to. -/
inductive Relation where
  | table (named : NamedTable)
  /-- A join in parentheses, in its canonical spelling. -/
  | joined (spelling : String)
  /-- Any other relation, such as the rows of a query, in its canonical spelling. -/
  | derived (spelling : String)
  deriving DecidableEq, Repr, Inhabited

/-- A relation and the relations joined to it, each in its canonical spelling. -/
structure Source where
  relation : Relation
  joins : List String := []
  deriving DecidableEq, Repr, Inhabited

/-- The text of a name for a column. -/
def AliasColumn.text (column : AliasColumn) : String :=
  joined " " (column.name.text :: column.type.toList)

/-- The text of an alias. -/
def Alias.text (byname : Alias) : String :=
  if byname.columns.isEmpty then byname.name.text
  else byname.name.text ++ " (" ++ commaJoined (byname.columns.map AliasColumn.text) ++ ")"

/-- An alias behind its `AS`, where there is one. -/
def aliasText : Option Alias → String
  | none => ""
  | some byname => " AS " ++ byname.text

/-- The text of a table. Its partitions stand close to its name. -/
def NamedTable.text (table : NamedTable) : String :=
  let partition := if table.partition.isEmpty then ""
    else "PARTITION (" ++ commaJoined (table.partition.map Ident.text) ++ ")"
  let arguments := match table.arguments with
    | none => ""
    | some arguments => "(" ++ commaJoined arguments ++ ")"
  let hints := if table.hints.isEmpty then "" else " WITH (" ++ commaJoined table.hints ++ ")"
  pathText table.name ++ partition ++ arguments ++
    (if table.numbered then " WITH ORDINALITY" else "") ++ aliasText table.byname ++ hints

/-- The text of a relation. -/
def Relation.text : Relation → String
  | .table named => named.text
  | .joined spelling => spelling
  | .derived spelling => spelling

/-- The text of an item of a `FROM` list. -/
def Source.text (source : Source) : String :=
  source.relation.text ++ String.join source.joins

/-! ### Queries -/

/-- A selection. -/
structure Select where
  /-- How many of the selected rows there are, in canonical spelling. -/
  quantifiers : List String := []
  /-- The selected expressions with their aliases, in canonical spelling. -/
  items : List String
  /-- Where the selected rows are put, in canonical spelling. -/
  destination : Option String := none
  sources : List Source := []
  /-- The views joined to the sources, in canonical spelling. -/
  views : List String := []
  condition : Option Expr := none
  /-- The clauses after the condition, in canonical spelling. -/
  clauses : List String := []
  deriving Repr, Inhabited

/-- An expression to order by. -/
structure OrderItem where
  expr : Expr
  /-- The direction, where it is written. -/
  ascending : Option Bool := none
  /-- The place of NULL, where it is written. -/
  nullsFirst : Option Bool := none
  deriving Repr, Inhabited

/-- The rows to skip. -/
structure Offset where
  count : Expr
  /-- `ROW` or `ROWS`, where it is written. -/
  unit : Option String := none
  deriving Repr, Inhabited

/-- What follows the body of a query. -/
structure Tail where
  orderBy : List OrderItem := []
  limit : Option Expr := none
  offset : Option Offset := none
  /-- The clauses after the window, in canonical spelling. -/
  rest : List String := []
  deriving Repr, Inhabited

/-- The body of a query. -/
inductive Body where
  | select (selection : Select)
  /-- A whole query in parentheses. -/
  | nested (preamble : Option String) (body : Body) (tail : Tail)
  | combined (left : Body) (operator : String) (right : Body)
  /-- Rows written out; `explicitRow` tells whether the word `ROW` stands before them. -/
  | values (explicitRow : Bool) (rows : List (List Expr))
  | table (name : List Ident)
  /-- A statement that writes, in its canonical spelling. -/
  | write (spelling : String)
  deriving Repr, Inhabited

/-- A query: its `WITH` in canonical spelling, its body and what follows. -/
structure Query where
  preamble : Option String := none
  body : Body
  tail : Tail := {}
  deriving Repr, Inhabited

/-! ### Spelling -/

/-- The text of an expression to order by. -/
def OrderItem.text (item : OrderItem) : String :=
  let direction := match item.ascending with
    | none => ""
    | some true => " ASC"
    | some false => " DESC"
  let nulls := match item.nullsFirst with
    | none => ""
    | some true => " NULLS FIRST"
    | some false => " NULLS LAST"
  item.expr.text ++ direction ++ nulls

/-- The text of an offset clause. -/
def Offset.text (offset : Offset) : String :=
  match offset.unit with
  | none => "OFFSET " ++ offset.count.text
  | some unit => "OFFSET " ++ offset.count.text ++ " " ++ unit

/-- The clauses that follow a body, in their order. -/
def Tail.clauses (tail : Tail) : List String :=
  let order := if tail.orderBy.isEmpty then []
    else ["ORDER BY " ++ commaJoined (tail.orderBy.map OrderItem.text)]
  let limit := tail.limit.toList.map fun count => "LIMIT " ++ count.text
  order ++ limit ++ tail.offset.toList.map Offset.text ++ tail.rest

/-- The text of a selection. -/
def Select.text (selection : Select) : String :=
  let sources := if selection.sources.isEmpty then []
    else ["FROM " ++ commaJoined (selection.sources.map Source.text)]
  let condition := selection.condition.toList.map fun expr => "WHERE " ++ expr.text
  joined " " (["SELECT"] ++ selection.quantifiers ++ [commaJoined selection.items] ++
    selection.destination.toList ++ sources ++ selection.views ++ condition ++ selection.clauses)

/-- The text of rows written out. -/
def valuesText (explicitRow : Bool) (rows : List (List Expr)) : String :=
  let row := fun cells : List Expr =>
    (if explicitRow then "ROW(" else "(") ++ commaJoined (cells.map Expr.text) ++ ")"
  "VALUES " ++ commaJoined (rows.map row)

/-- The text of a body. -/
def Body.text : Body → String
  | select selection => selection.text
  | nested preamble body tail =>
    "(" ++ joined " " (preamble.toList ++ [body.text] ++ tail.clauses) ++ ")"
  | combined left operator right => left.text ++ " " ++ operator ++ " " ++ right.text
  | values explicitRow rows => valuesText explicitRow rows
  | table name => "TABLE " ++ pathText name
  | write spelling => spelling

/-- The canonical spelling of a query. -/
def Query.text (query : Query) : String :=
  joined " " (query.preamble.toList ++ [query.body.text] ++ query.tail.clauses)

/-! ### Windows -/

/-- The query with its window replaced by the first `count` rows. -/
def Query.withWindow (query : Query) (count : Nat) : Query :=
  let limit := Expr.literal (.number (toString count) false)
  { query with tail := { query.tail with limit := some limit, offset := none } }

end ScatterGather.Sql
