/-
**The command line.**

* `Arguments`: what a user asks for;
* `Arguments.parse?`: the arguments that words give. An option takes the next word as its value, or what
  stands behind it in its own word.
-/
import ScatterGather.Number.Decimal

namespace ScatterGather.Console

/-- What a user asks for. -/
structure Arguments where
  /-- The file of the layout; the demo layout is used if there is none. -/
  schema : Option String := none
  /-- The number of shards of the demo layout. -/
  shards : UInt32 := 4
  charset : String := "utf8mb4"
  /-- A statement to route, instead of those of a user at the prompt. -/
  execute : Option String := none
  jsonLogs : Bool := false
  deriving DecidableEq, Repr, Inhabited

/-- The options that take a value. -/
inductive ValueOption where
  | schema
  | shards
  | charset
  | execute
  deriving DecidableEq, Repr

namespace Arguments

/-- A number of shards. -/
def shardCount? (text : String) : Option UInt32 :=
  (Whole.uint64? text.toList).bind fun count =>
    if count < 0x100000000 then some (UInt32.ofNat count) else none

/-- The arguments with the value of an option. -/
def set? (arguments : Arguments) (value : String) : ValueOption → Option Arguments
  | .schema => some { arguments with schema := some value }
  | .shards => (shardCount? value).map fun shards => { arguments with shards }
  | .charset => some { arguments with charset := value }
  | .execute => some { arguments with execute := some value }

/-- The option that a long name means. -/
def long? (name : List Char) : Option ValueOption :=
  match String.ofList name with
  | "schema" => some .schema
  | "shards" => some .shards
  | "charset" => some .charset
  | "execute" => some .execute
  | _ => none

/-- The option that a letter means. -/
def short? : Char → Option ValueOption
  | 's' => some .shards
  | 'c' => some .charset
  | 'e' => some .execute
  | _ => none

/-- A word as an option, with the value it carries itself, if any. -/
def option? (word : List Char) : Option (ValueOption × Option (List Char)) :=
  match word with
  | '-' :: '-' :: body =>
    match body.dropWhile (· != '=') with
    | _ :: value => (long? (body.takeWhile (· != '='))).map fun option => (option, some value)
    | [] => (long? body).map fun option => (option, none)
  | ['-', letter] => (short? letter).map fun option => (option, none)
  | '-' :: letter :: '=' :: value => (short? letter).map fun option => (option, some value)
  | '-' :: letter :: value => (short? letter).map fun option => (option, some value)
  | _ => none

/-- The arguments that words add to those before them. -/
def addWords (arguments : Arguments) : List String → Option Arguments
  | [] => some arguments
  | "--json-logs" :: rest => addWords { arguments with jsonLogs := true } rest
  | word :: rest =>
    match option? word.toList, rest with
    | some (option, some value), rest =>
      (arguments.set? (String.ofList value) option).bind fun arguments => addWords arguments rest
    | some (option, none), value :: rest =>
      (arguments.set? value option).bind fun arguments => addWords arguments rest
    | _, _ => none

/-- The arguments that words give. -/
def parse? (words : List String) : Option Arguments :=
  addWords {} words

end Arguments

end ScatterGather.Console
