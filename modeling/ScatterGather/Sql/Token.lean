/-
**Tokens of SQL.**

* `Ident`: a name as it was written, with the quotes around it, if any;
* `Token`: what a statement's text is made of, white space and comments left out;
* `SyntaxError`: why a text is not a statement.
-/
import ScatterGather.Sql.Quoted

namespace ScatterGather.Sql

/-- A name as it was written. -/
structure Ident where
  name : String
  quote : Option Char := none
  deriving DecidableEq, Repr, Inhabited

/-- The text of a name, in its quotes where it has them. -/
def Ident.text (ident : Ident) : String :=
  match ident.quote with
  | none => ident.name
  | some quote => Quoted.write quote ident.name

/-- The unit of SQL text. -/
inductive Token where
  /-- A name or keyword. `keyword` is its uppercase form, empty where the name is quoted. -/
  | word (ident : Ident) (keyword : String)
  /-- A number; `long` where an `L` follows its exponent. -/
  | number (digits : String) (long : Bool)
  /-- A string literal by its quote. -/
  | string (quote : Char) (text : String)
  /-- A string literal behind a letter: national `N`, hexadecimal `X` or bit `B`. -/
  | marked (mark : Char) (quote : Char) (text : String)
  /-- A string literal behind an `E`, with its escapes resolved. -/
  | escaped (text : String)
  /-- A mark for a value to be bound later. -/
  | placeholder (mark : String)
  /-- An operator or punctuation mark. -/
  | symbol (mark : String)
  deriving DecidableEq, Repr, Inhabited

/-- Why a text is not a statement. -/
inductive SyntaxError where
  /-- A string, a quoted name or a comment does not end. -/
  | unterminated
  /-- A token stands where the grammar has no place for it, or the text ends too early. -/
  | unexpected
  /-- Statements, queries or expressions are nested too deeply. -/
  | tooDeep
  deriving DecidableEq, Repr

/-- Names joined by a separator that follows each but the last. -/
def joined (separator : String) (parts : List String) : String :=
  separator.intercalate parts

/-- Parts with a comma and a blank between them. -/
def commaJoined (parts : List String) : String :=
  joined ", " parts

/-- The text of a name of several parts. -/
def pathText (path : List Ident) : String :=
  joined "." (path.map Ident.text)

/-- The plain name of several parts, without quotes. -/
def pathName (path : List Ident) : String :=
  joined "." (path.map Ident.name)

end ScatterGather.Sql
