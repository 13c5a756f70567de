/-
**Statements.**

* `Insert`, `Update`, `Delete`, `Statement`: the statements of the dialect with the parts that
  decide where they go. What only the shards read is kept in canonical spelling, or left out where
  no shard is ever sent a spelling of it;
* `Insert.text`, `Update.text`: the canonical spellings of an insertion and of a change;
* `Insert.rows?`, `Insert.withRows`: the rows written out in an insertion, and the same insertion
  of other rows.
-/
import ScatterGather.Sql.Query

namespace ScatterGather.Sql

/-- An insertion or replacement of rows. -/
structure Insert where
  /-- The words before the table's name. -/
  opening : String
  table : List Ident
  columns : List Ident := []
  /-- The partition clause, where there is one. -/
  partition : Option String := none
  /-- Where the rows come from; nothing where all columns take their defaults. -/
  source : Option Query := none
  /-- The clauses after the rows, in canonical spelling. -/
  clauses : List String := []
  deriving Repr, Inhabited

/-- A change of rows. -/
structure Update where
  /-- What becomes of a row that cannot be changed, in canonical spelling. -/
  resolution : Option String := none
  target : Source
  /-- The columns with their new values, in canonical spelling. -/
  assignments : List String
  condition : Option Expr := none
  /-- What the statement answers with, in canonical spelling. -/
  answer : Option String := none
  deriving Repr, Inhabited

/-- A deletion of rows. -/
structure Delete where
  /-- The tables to delete from, where they are listed apart. -/
  tables : List (List Ident) := []
  sources : List Source
  usingSources : Option (List Source) := none
  condition : Option Expr := none
  deriving Repr, Inhabited

/-- A statement by what a router sees of it. -/
inductive Statement where
  | query (query : Query)
  | insert (insert : Insert)
  | update (update : Update)
  | delete (delete : Delete)
  | createTable (name : List Ident)
  | createIndex (table : List Ident)
  | alterTable (name : List Ident)
  | dropTable (names : List (List Ident))
  /-- Tables that are emptied. -/
  | truncate (tables : List (List Ident))
  /-- The plan of another statement. -/
  | explain
  /-- Any other statement. -/
  | other
  deriving Repr, Inhabited

/-! ### Changes -/

/-- The canonical spelling of a change. -/
def Update.text (update : Update) : String :=
  let condition := update.condition.toList.map fun expr => "WHERE " ++ expr.text
  joined " " (["UPDATE"] ++ update.resolution.toList ++
    [update.target.text, "SET", commaJoined update.assignments] ++ condition ++
    update.answer.toList)

/-! ### Insertions -/

/-- The canonical spelling of an insertion. -/
def Insert.text (insert : Insert) : String :=
  let columns := if insert.columns.isEmpty then []
    else ["(" ++ commaJoined (insert.columns.map Ident.text) ++ ")"]
  let source := match insert.source with
    | some query => query.text
    | none => if insert.columns.isEmpty then "DEFAULT VALUES" else ""
  joined " " ([insert.opening, pathText insert.table] ++ columns ++ insert.partition.toList ++
    [source] ++ insert.clauses)

/-- The rows that an insertion writes out. -/
def Insert.rows? (insert : Insert) : Option (List (List Expr)) :=
  match insert.source with
  | some ⟨_, .values _ rows, _⟩ => some rows
  | _ => none

/-- The insertion with other rows written out; nothing where it writes none out. -/
def Insert.withRows (insert : Insert) (rows : List (List Expr)) : Option Insert :=
  match insert.source with
  | some ⟨preamble, .values explicitRow _, tail⟩ =>
    some { insert with source := some ⟨preamble, .values explicitRow rows, tail⟩ }
  | _ => none

end ScatterGather.Sql
