/-
**The program.**

Shows where statements go: one statement from the command line, or those that a user writes at a
prompt. The decisions are those of `ScatterGather.Console`; here lines are read and texts printed.
-/
import ScatterGather.Console.Shell

open ScatterGather ScatterGather.Console

/-- Prints what the shell says. -/
def printOutput : Output → IO Unit
  | .out text => do
    let stdout ← IO.getStdout
    stdout.putStr text
    stdout.flush
  | .err message => IO.eprintln message

/-- Picks one of several shards at random. -/
def randomChoice : IO (List ShardId → ShardId) := do
  let number ← IO.rand 0 0x40000000
  return fun shards => (shards[number % shards.length]?).getD 0

/-- The reason for which a file cannot be read. -/
def readFailure : IO.Error → String
  | .noFileOrDirectory .. => "No such file or directory (os error 2)"
  | .permissionDenied .. => "Permission denied (os error 13)"
  | error => toString error

/-- The text of a file, or why it cannot be read. -/
def fileText (path : String) : IO (Except String String) := do
  try
    return .ok (← IO.FS.readFile path)
  catch error =>
    return .error (readFailure error)

/-- Answers the lines of a user one by one. -/
partial def answerLines (shell : Shell) (input : IO.FS.Stream) : IO Unit := do
  printOutput (.out prompt)
  let line ← input.getLine
  unless line.isEmpty do
    let response := { shell with choose := ← randomChoice }.respond line
    response.outputs.forM printOutput
    unless response.ends do answerLines shell input

/-- Runs the shell with a user at the prompt. -/
def runShell (arguments : Arguments) (schema : Schema) : IO Unit := do
  printOutput (.out (banner schema arguments.charset))
  let shell : Shell := { schema, charset := arguments.charset, choose := ← randomChoice }
  answerLines shell (← IO.getStdin)

/-- The program. -/
def main (words : List String) : IO UInt32 := do
  match Arguments.parse? words with
  | none =>
    IO.eprintln "error: unexpected arguments"
    return 2
  | some arguments =>
    let text ← match arguments.schema with
      | some path => fileText path
      | none => pure (.ok "")
    let file := fun _ : String => text
    match arguments.execute, load arguments file with
    | none, .ok schema =>
      runShell arguments schema
      return 0
    | _, _ =>
      let outcome := run arguments file (← randomChoice) []
      outcome.outputs.forM printOutput
      return outcome.exitCode
