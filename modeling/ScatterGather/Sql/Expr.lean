/-
**Expressions, as far as a router looks into them.**

* `Literal`, `Expr`: columns, literals, signs, binary operators, parentheses and `IN` lists. A query
  in parentheses and every other expression, a `phrase`, is kept in its canonical spelling;
* `Expr.text`: the canonical spelling of an expression: one blank between its parts, keywords in
  uppercase, names and numbers as they were written.
-/
import ScatterGather.Sql.Token

namespace ScatterGather.Sql

/-- A value written out in a statement. -/
inductive Literal where
  | number (digits : String) (long : Bool)
  | string (quote : Char) (text : String)
  | boolean (value : Bool)
  | null
  /-- Any other literal, as it is spelled. -/
  | other (spelling : String)
  deriving DecidableEq, Repr, Inhabited

/-- The signs and words that stand before an expression. -/
inductive UnaryOp where
  | minus
  | plus
  | not
  deriving DecidableEq, Repr, Inhabited

/-- The operators between two expressions. -/
inductive BinaryOp where
  | eq
  | and
  | or
  /-- Any other operator, as it is spelled. -/
  | other (mark : String)
  deriving DecidableEq, Repr, Inhabited

/-- An expression. -/
inductive Expr where
  /-- A column by its name, or by its name behind that of its table. -/
  | column (path : List Ident)
  | literal (value : Literal)
  | unary (op : UnaryOp) (operand : Expr)
  | binary (left : Expr) (op : BinaryOp) (right : Expr)
  /-- An expression in parentheses. -/
  | nested (inner : Expr)
  | inList (subject : Expr) (candidates : List Expr) (negated : Bool)
  /-- A query in parentheses, in its canonical spelling. -/
  | subquery (spelling : String)
  /-- Any other expression, in its canonical spelling. -/
  | phrase (spelling : String)
  deriving Repr, Inhabited

/-! ### Spelling -/

/-- The text of a literal. -/
def Literal.text : Literal → String
  | number digits long => if long then digits ++ "L" else digits
  | string quote text => Quoted.write quote text
  | boolean value => if value then "true" else "false"
  | null => "NULL"
  | other spelling => spelling

/-- The text of an operator between two expressions. -/
def BinaryOp.text : BinaryOp → String
  | eq => "="
  | and => "AND"
  | or => "OR"
  | other mark => mark

/-- The text of an operand behind its sign: a sign stands close to it, a word does not. -/
def UnaryOp.apply : UnaryOp → String → String
  | minus, operand => "-" ++ operand
  | plus, operand => "+" ++ operand
  | not, operand => "NOT " ++ operand

/-- `NOT` and a blank, where a test is negated. -/
def notIf (negated : Bool) : String :=
  if negated then "NOT " else ""

mutual

/-- The canonical spelling of an expression. -/
def Expr.text : Expr → String
  | .column path => pathText path
  | .literal value => value.text
  | .unary op operand => op.apply operand.text
  | .binary left op right => left.text ++ " " ++ op.text ++ " " ++ right.text
  | .nested inner => "(" ++ inner.text ++ ")"
  | .inList subject candidates negated =>
    subject.text ++ " " ++ notIf negated ++ "IN (" ++ commaJoined (Expr.texts candidates) ++ ")"
  | .subquery spelling => spelling
  | .phrase spelling => spelling

/-- The canonical spellings of expressions in order. -/
def Expr.texts : List Expr → List String
  | [] => []
  | expr :: rest => expr.text :: Expr.texts rest

end

end ScatterGather.Sql
