/-
**Kinds of statements.**

* `Kind`: what a statement does, by its first word;
* `Kind.afterNoise`: a text without the white space, comments and opening parentheses it begins with;
* `Kind.classify`: the kind of a text that has not been read as a statement.
-/
import ScatterGather.Text.Character

namespace ScatterGather.Sql

/-- What a statement does. -/
inductive Kind where
  | select
  | insert
  | replace
  | update
  | delete
  /-- Any other statement. -/
  | other
  deriving DecidableEq, Repr, Inhabited

namespace Kind

/-- Tells whether a kind of statement only reads. -/
def isRead (kind : Kind) : Bool :=
  kind == .select

/-- What surrounds a place in the noise before a statement. -/
inductive Noise where
  | between
  /-- A comment that its end mark closes. -/
  | comment
  /-- A comment that the end of its line closes. -/
  | line
  deriving DecidableEq, Repr

/-- The text behind white space, comments and opening parentheses; nothing where a comment does
not end. -/
def skip : Noise → List Char → Option (List Char)
  | .between, [] => some []
  | .between, '/' :: '*' :: rest => skip .comment rest
  | .between, '-' :: '-' :: rest => skip .line rest
  | .between, '#' :: rest => skip .line rest
  | .between, '(' :: rest => skip .between rest
  | .between, c :: rest => if Text.isBlank c then skip .between rest else some (c :: rest)
  | .comment, '*' :: '/' :: rest => skip .between rest
  | .comment, _ :: rest => skip .comment rest
  | .line, '\n' :: rest => skip .between rest
  | .line, _ :: rest => skip .line rest
  | _, [] => none

/-- The text behind the noise it begins with. -/
def afterNoise (chars : List Char) : Option (List Char) :=
  skip .between chars

/-- The kind of statement that begins with a word. -/
def ofWord (word : String) : Kind :=
  match word with
  | "SELECT" | "WITH" => .select
  | "INSERT" => .insert
  | "REPLACE" => .replace
  | "UPDATE" => .update
  | "DELETE" => .delete
  | _ => .other

/-- The kind of a statement by its text. -/
def classify (text : String) : Kind :=
  match afterNoise text.toList with
  | none => .other
  | some chars => ofWord (String.ofList ((chars.takeWhile Char.isAlpha).map Char.toUpper))

end Kind

end ScatterGather.Sql
