/-
**Plans, and why a statement goes nowhere.**

* `Outlet`: a shard and the statement it gets;
* `Plan`: the outlets of a statement in order, and the window and order of the merged result;
* `Plan.format`: a plan as a table;
* `RouteError`: the causes for which a statement is refused before any shard sees it;
* `RouteError.toClient`: the error that the client sees.
-/
import ScatterGather.Gather.RowOrder
import ScatterGather.Sharding.Placement
import ScatterGather.Sql.Parse

namespace ScatterGather

/-! ### Plans -/

/-- A statement for one shard. -/
structure Outlet where
  shard : ShardId
  sql : String
  deriving DecidableEq, Repr, Inhabited

/-- Where a statement goes, and what becomes of the results. -/
structure Plan where
  outlets : List Outlet
  window : Window := {}
  orderBy : List OrderKey := []
  deriving DecidableEq, Repr, Inhabited

namespace Plan

/-- The plan of a statement that goes to one shard as it is. -/
def single (shard : ShardId) (sql : String) : Plan :=
  { outlets := [⟨shard, sql⟩] }

/-! ### Display -/

/-- A text filled up with blanks to a width. -/
def padded (width : Nat) (text : String) : String :=
  text ++ String.ofList (List.replicate (width - text.length) ' ')

/-- A line between the rows of a table. -/
def border (left middle right : String) (first second : Nat) : String :=
  let bar := fun width : Nat => String.ofList (List.replicate (width + 2) '─')
  left ++ bar first ++ middle ++ bar second ++ right ++ "\n"

/-- A row of a table. -/
def tableRow (first second : Nat) (row : String × String) : String :=
  "│ " ++ padded first row.1 ++ " │ " ++ padded second row.2 ++ " │\n"

/-- What is said of the window below the table. -/
def windowNote (window : Window) : String :=
  if window = {} then ""
  else
    let limit := match window.limit with
      | some limit => toString limit
      | none => "all"
    s!", merged window offset {window.offset} limit {limit}"

/-- A plan as a table. -/
def format (plan : Plan) : String :=
  let header := ("shard", "sql")
  let rows := plan.outlets.map fun outlet => (toString outlet.shard, outlet.sql)
  let first := (header :: rows).foldl (fun width row => max width row.1.length) 0
  let second := (header :: rows).foldl (fun width row => max width row.2.length) 0
  border "┌" "┬" "┐" first second ++ tableRow first second header ++
    border "├" "┼" "┤" first second ++ String.join (rows.map (tableRow first second)) ++
    border "└" "┴" "┘" first second ++
    s!"\n{plan.outlets.length} outlet(s)" ++ windowNote plan.window

end Plan

/-! ### Refusals -/

/-- Why a statement cannot be routed. -/
inductive RouteError where
  | unknownCharset (name : String)
  | statement (cause : Sql.StatementError)
  /-- An insertion does not list the sharding column. -/
  | columnNotListed (table column : String)
  /-- An insertion does not write out its rows. -/
  | rowsNotListed (table : String)
  /-- A row, counted from zero, has no literal for the sharding column. -/
  | keyNotLiteral (row : Nat) (table column : String)
  | placement (cause : PlacementError)
  | noRule (table : String)
  | nothingPlaced (rule table : String)
  | placedOutside (rule : String) (shard : ShardId) (table : String)
  | placedApart (value table : String) (shards : Nat)
  | rowsNotSplit
  deriving DecidableEq, Repr

namespace RouteError

/-- The error that the client sees. Of a text that is no statement it tells only that, and nothing of the
parser's own words about it. -/
def toClient : RouteError → ClientError
  | unknownCharset name => .parse s!"Unknown charset '{name}'"
  | statement (.invalid _) => .parse "SQL parsing error"
  | statement .notSingle => .parse "Only single statements are supported"
  | columnNotListed table column =>
    .routing s!"INSERT into sharded table '{table}' must list its sharding column {column}"
  | rowsNotListed table => .routing s!"INSERT into sharded table '{table}' must use a VALUES list"
  | keyNotLiteral row table column =>
    .routing s!"row {row + 1} of INSERT into '{table}' has no literal value for {column}"
  | placement cause => .routing cause.message
  | noRule table => .routing s!"table '{table}' has no sharding rule"
  | nothingPlaced rule table => .routing s!"{rule} placed no shard for table '{table}'"
  | placedOutside rule shard table =>
    .routing s!"{rule} placed shard {shard} outside table '{table}'"
  | placedApart value table shards =>
    .routing s!"value {value} of table '{table}' maps to {shards} shards"
  | rowsNotSplit => .routing "INSERT rows could not be split"

end RouteError

end ScatterGather
