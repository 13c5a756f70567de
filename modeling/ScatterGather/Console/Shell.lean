/-
**The shell.**

* `Output`: what the shell says, and where;
* `Shell`: the schema, the character set, and how one of several shards is picked;
* `Shell.respond`: what is said to a line of the user, and whether it is the last one;
* `Shell.converse`: what is said to all lines;
* `Shell.load`: the schema that the arguments ask for, or why there is none.
-/
import ScatterGather.Console.Arguments
import ScatterGather.Layout.Json
import ScatterGather.Routing.Route

namespace ScatterGather.Console

/-- What the shell says. -/
inductive Output where
  /-- Text on standard output. -/
  | out (text : String)
  /-- A message on standard error, without the end of its last line. -/
  | err (message : String)
  deriving DecidableEq, Repr

/-- What the shell says to a line. -/
structure Response where
  outputs : List Output := []
  /-- Whether no more lines are read. -/
  ends : Bool := false
  deriving DecidableEq, Repr

/-- Lines with their ends. -/
def linesText (lines : List String) : String :=
  String.join (lines.map fun line => line ++ "\n")

/-! ### Failures at the start -/

/-- Why there is no schema. -/
inductive LoadError where
  | unreadable (path cause : String)
  | malformed (path : String)
  | inconsistent (cause : LayoutError)
  deriving DecidableEq, Repr

/-- A message and its cause, every line of which is set in. -/
def withCause (message cause : String) : String :=
  message ++ "\n\nCaused by:\n" ++
    "\n".intercalate ((cause.splitOn "\n").map fun line => "    " ++ line)

/-- The text of a failure to find a schema. -/
def LoadError.message : LoadError → String
  | unreadable path cause => withCause s!"failed to read schema file {path}" cause
  | malformed path =>
    withCause s!"failed to parse schema file {path}" "the text does not describe a layout"
  | inconsistent cause => withCause "Invalid schema configuration" cause.message

/-- The message that ends the program. -/
def failureMessage (text : String) : String :=
  "Error: " ++ text

/-! ### Schemas -/

/-- The layout that the arguments ask for; `file` is what the file of the layout holds, or why it
cannot be read. -/
def layoutOf (arguments : Arguments) (file : String → Except String String) :
    Except LoadError Layout :=
  match arguments.schema with
  | none => .ok (Layout.demo arguments.shards)
  | some path =>
    match file path with
    | .error cause => .error (.unreadable path cause)
    | .ok text =>
      match Layout.read? text with
      | some layout => .ok layout
      | none => .error (.malformed path)

/-- The schema that the arguments ask for. -/
def load (arguments : Arguments) (file : String → Except String String) :
    Except LoadError Schema := do
  match Schema.ofLayout (← layoutOf arguments file) with
  | .ok schema => return schema
  | .error cause => .error (.inconsistent cause)

/-! ### Texts -/

/-- The text before the first prompt. -/
def banner (schema : Schema) (charset : String) : String :=
  linesText [
    "╔════════════════════════════════════════════╗",
    "║        RustyShard Routing Shell            ║",
    "╚════════════════════════════════════════════╝",
    "",
    s!"Schema '{schema.name}' with {schema.shards.length} shard(s), charset {charset}",
    "Type SQL statements or '.help' for help",
    "Type '.exit' to quit",
    ""]

/-- The prompt. -/
def prompt : String := "rustyshard> "

/-- The help. -/
def help : String :=
  linesText [
    "Special Commands:",
    "  .help              Show this help message",
    "  .tables            List tables and their placement",
    "  .exit, .quit       Exit the shell",
    "",
    "Routing examples:",
    "  SELECT * FROM users WHERE id = 7          one shard",
    "  SELECT * FROM users WHERE id IN (1, 2)    the shards owning 1 and 2",
    "  SELECT * FROM users ORDER BY id LIMIT 10  every shard, merged",
    "  INSERT INTO users (id, name) VALUES (1, 'a'), (2, 'b')",
    "                                            rows split per shard",
    "  SELECT * FROM countries                   any one copy",
    "",
    "Set RUSTYSHARD_LOG=debug to see routing decisions.",
    ""]

/-- How the rows of a table lie on its shards. -/
def placementText (table : Table) : String :=
  match table.ruleColumn? with
  | some column => "sharded by " ++ column
  | none => if table.isGlobal then "global" else "unsharded"

/-- A line of the list of tables. -/
def tableLine (name : String) (table : Table) : String :=
  let shards := ", ".intercalate (table.shards.map toString)
  "  " ++ Plan.padded 16 name ++ " shards [" ++ shards ++ "]  " ++ placementText table

/-- The list of tables. -/
def tableList (schema : Schema) : String :=
  linesText (schema.tableNames.filterMap fun name =>
    (schema.table? name).map (tableLine name))

/-! ### The shell -/

/-- What the shell knows, and how it picks one of several shards. -/
structure Shell where
  schema : Schema
  charset : String
  choose : List ShardId → ShardId

namespace Shell

/-- The plan of a statement as text, or the error that refuses it. -/
def routeText (shell : Shell) (sql : String) : Except String String :=
  match route shell.schema sql shell.charset (Sql.Kind.classify sql) with
  | .ok route => .ok ((route.pick shell.choose).format ++ "\n")
  | .error error => .error error.toClient.message

/-- What is said to a command. -/
def command (shell : Shell) (name : String) : Response :=
  match name with
  | ".exit" | ".quit" => { outputs := [.out "Goodbye!\n"], ends := true }
  | ".help" => { outputs := [.out help] }
  | ".tables" => { outputs := [.out (tableList shell.schema)] }
  | _ =>
    { outputs := [.out (linesText ["Unknown command: " ++ name, "Type '.help' for help"])] }

/-- What is said to a statement. -/
def statement (shell : Shell) (sql : String) : Response :=
  match shell.routeText sql with
  | .ok text => { outputs := [.out text] }
  | .error message => { outputs := [.err (failureMessage message)] }

/-- What is said to a line of the user. -/
def respond (shell : Shell) (line : String) : Response :=
  match Text.trim line.toList with
  | [] => {}
  | '.' :: rest => shell.command (String.ofList ('.' :: rest))
  | chars => shell.statement (String.ofList chars)

/-- What is said to lines, up to the last one or to the one that ends the shell. -/
def answers (shell : Shell) : List String → List Output
  | [] => [.out prompt]
  | line :: rest =>
    let response := shell.respond line
    .out prompt :: response.outputs ++ (if response.ends then [] else shell.answers rest)

/-- What is said to all lines of a user. -/
def converse (shell : Shell) (lines : List String) : List Output :=
  .out (banner shell.schema shell.charset) :: shell.answers lines

end Shell

/-- What the program says, and the code that it ends with. -/
structure Outcome where
  outputs : List Output
  exitCode : UInt32 := 0
  deriving DecidableEq, Repr

/-- The end of the program by a failure. -/
def Outcome.failed (message : String) : Outcome :=
  { outputs := [.err (failureMessage message)], exitCode := 1 }

/-- What the program says to arguments and to the lines of a user. -/
def run (arguments : Arguments) (file : String → Except String String)
    (choose : List ShardId → ShardId) (lines : List String) : Outcome :=
  match load arguments file with
  | .error error => .failed error.message
  | .ok schema =>
    let shell : Shell := { schema, charset := arguments.charset, choose }
    match arguments.execute with
    | none => { outputs := shell.converse lines }
    | some sql =>
      match shell.routeText sql with
      | .ok text => { outputs := [.out text] }
      | .error message => .failed message

end ScatterGather.Console
