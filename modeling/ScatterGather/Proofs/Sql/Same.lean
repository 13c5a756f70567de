/-
**Statements told apart.**

An expression holds lists of expressions, so that its equality is decided by a recursion over both at once:

* `Expr.same`, `Expr.sameAll`: equality of expressions and of lists of them, part by part;
* `Expr.eq_of_same`, `Expr.same_self`: it **is equality**, which makes that of statements decidable.
-/
import ScatterGather.Sql.Parse

namespace ScatterGather.Sql

mutual

/-- Tells whether two expressions are the same, part by part. -/
def Expr.same : Expr → Expr → Bool
  | .column path, .column other => path == other
  | .literal value, .literal other => value == other
  | .unary op operand, .unary otherOp other => op == otherOp && operand.same other
  | .binary left op right, .binary otherLeft otherOp otherRight =>
    op == otherOp && left.same otherLeft && right.same otherRight
  | .nested inner, .nested other => inner.same other
  | .inList subject candidates negated, .inList other others otherNegated =>
    negated == otherNegated && subject.same other && Expr.sameAll candidates others
  | .subquery spelling, .subquery other => spelling == other
  | .phrase spelling, .phrase other => spelling == other
  | _, _ => false

/-- Tells whether two lists of expressions are the same. -/
def Expr.sameAll : List Expr → List Expr → Bool
  | [], [] => true
  | expr :: rest, other :: others => expr.same other && Expr.sameAll rest others
  | _, _ => false

end

mutual

theorem Expr.same_self (expr : Expr) : expr.same expr = true := by
  cases expr with
  | unary op operand => simp [Expr.same, Expr.same_self operand]
  | binary left op right => simp [Expr.same, Expr.same_self left, Expr.same_self right]
  | nested inner => simp [Expr.same, Expr.same_self inner]
  | inList subject candidates negated =>
    simp [Expr.same, Expr.same_self subject, Expr.sameAll_self candidates]
  | _ => simp [Expr.same]

theorem Expr.sameAll_self (exprs : List Expr) : Expr.sameAll exprs exprs = true := by
  cases exprs with
  | nil => simp [Expr.sameAll]
  | cons expr rest => simp [Expr.sameAll, Expr.same_self expr, Expr.sameAll_self rest]

end

mutual

theorem Expr.eq_of_same {expr other : Expr} (same : expr.same other = true) : expr = other := by
  cases expr <;> cases other <;>
    simp only [Expr.same, Bool.and_eq_true, beq_iff_eq, Bool.false_eq_true] at same
  case column.column => rw [same]
  case literal.literal => rw [same]
  case unary.unary => rw [same.1, Expr.eq_of_same same.2]
  case binary.binary => rw [same.1.1, Expr.eq_of_same same.1.2, Expr.eq_of_same same.2]
  case nested.nested => rw [Expr.eq_of_same same]
  case inList.inList => rw [same.1.1, Expr.eq_of_same same.1.2, Expr.eq_of_sameAll same.2]
  case subquery.subquery => rw [same]
  case phrase.phrase => rw [same]

theorem Expr.eq_of_sameAll {exprs others : List Expr} (same : Expr.sameAll exprs others = true) :
    exprs = others := by
  cases exprs <;> cases others <;>
    simp only [Expr.sameAll, Bool.and_eq_true, Bool.false_eq_true] at same
  case nil.nil => rfl
  case cons.cons => rw [Expr.eq_of_same same.1, Expr.eq_of_sameAll same.2]

end

instance : DecidableEq Expr := fun expr other =>
  decidable_of_iff (expr.same other = true)
    ⟨Expr.eq_of_same, fun same => same ▸ Expr.same_self expr⟩

deriving instance DecidableEq for Select, OrderItem, Offset, Tail
deriving instance DecidableEq for Body
deriving instance DecidableEq for Query, Insert, Update, Delete, Statement

end ScatterGather.Sql
