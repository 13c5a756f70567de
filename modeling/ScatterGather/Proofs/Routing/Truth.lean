/-
**What a condition says of a row, and what it binds.**

SQL knows three truths. A condition is looked at here for one row of a table, of which only the key is
known: tests of the key column against literals are decided by it, and every other part of the condition
may have any truth at all, at each of its places another one.

* `Truth`, `Truth.and`, `Truth.or`: the three truths, and what connects conditions;
* `KeyValue.equals`, `KeyValue.among`: what a test of the key says; NULL is **equal to nothing**;
* `truth`: what a condition says of a row;
* `mem_of_boundValues?` — where a condition that binds the key holds of a row, **its key is among the
  bound ones**.
-/
import ScatterGather.Proofs.Sharding.Placed
import ScatterGather.Routing.Bound

namespace ScatterGather

open Sql

/-! ### Three truths -/

/-- What SQL says of a condition. -/
inductive Truth where
  | holds
  | fails
  | unknown
  deriving DecidableEq, Repr

namespace Truth

/-- Both of two conditions. -/
def and : Truth → Truth → Truth
  | fails, _ => fails
  | _, fails => fails
  | holds, holds => holds
  | _, _ => unknown

/-- Either of two conditions. -/
def or : Truth → Truth → Truth
  | holds, _ => holds
  | _, holds => holds
  | fails, fails => fails
  | _, _ => unknown

theorem and_eq_holds (left right : Truth) :
    left.and right = holds ↔ left = holds ∧ right = holds := by
  cases left <;> cases right <;> decide

theorem or_eq_holds (left right : Truth) :
    left.or right = holds ↔ left = holds ∨ right = holds := by
  cases left <;> cases right <;> decide

end Truth

/-! ### Tests of the key -/

namespace KeyValue

/-- What the equality of a key and a literal says. -/
def equals : KeyValue → KeyValue → Truth
  | null, _ => .unknown
  | _, null => .unknown
  | value, literal => if value = literal then .holds else .fails

/-- What it says of a key to be in a list of literals. -/
def among (value : KeyValue) : List KeyValue → Truth
  | [] => .fails
  | literal :: rest => (value.equals literal).or (value.among rest)

theorem eq_of_equals {value literal : KeyValue} (same : value.equals literal = .holds) :
    value = literal := by
  by_cases equal : value = literal
  · exact equal
  · cases value <;> cases literal <;> simp only [equals, equal, if_false, reduceCtorEq] at same

theorem mem_of_among {value : KeyValue} {literals : List KeyValue}
    (inside : value.among literals = .holds) : value ∈ literals := by
  induction literals with
  | nil => cases inside
  | cons literal rest ih =>
    rcases (Truth.or_eq_holds _ _).mp inside with here | there
    · exact List.mem_cons.mpr (Or.inl (eq_of_equals here))
    · exact List.mem_cons_of_mem _ (ih there)

end KeyValue

/-- What an equality says of a row, if it is a test of the key. -/
def KeyColumn.equality? (key : KeyColumn) (value : KeyValue) (left right : Expr) : Option Truth :=
  if key.isMeantBy left then (keyLiteral? right).map value.equals
  else if key.isMeantBy right then (keyLiteral? left).map value.equals
  else none

/-- What a list says of a row, if it is a test of the key. -/
def KeyColumn.membership? (key : KeyColumn) (value : KeyValue) (subject : Expr)
    (candidates : List Expr) : Option Truth :=
  if key.isMeantBy subject then (candidates.mapM keyLiteral?).map value.among else none

/-! ### Conditions -/

/-- A way into a condition. -/
inductive Turn where
  | inner
  | left
  | right
  deriving DecidableEq, Repr

/-- What a condition says of a row with a key, where `free` tells, place by place, what all parts say
that are no tests of the key. -/
def truth (key : KeyColumn) (value : KeyValue) : Expr → (List Turn → Truth) → Truth
  | .nested inner, free => truth key value inner fun place => free (.inner :: place)
  | .binary left .and right, free =>
    (truth key value left fun place => free (.left :: place)).and
      (truth key value right fun place => free (.right :: place))
  | .binary left .or right, free =>
    (truth key value left fun place => free (.left :: place)).or
      (truth key value right fun place => free (.right :: place))
  | .binary left .eq right, free => (key.equality? value left right).getD (free [])
  | .inList subject candidates false, free =>
    (key.membership? value subject candidates).getD (free [])
  | _, free => free []

/-- An equality that binds the key and holds of a row binds its key. -/
theorem mem_of_boundByEquality {key : KeyColumn} {value : KeyValue} {left right : Expr}
    {free : Truth} {bound : List KeyValue}
    (holds : (key.equality? value left right).getD free = .holds)
    (binds : boundByEquality key left right = some bound) : value ∈ bound := by
  have of_literal : ∀ other : Expr, ((keyLiteral? other).map value.equals).getD free = .holds →
      (keyLiteral? other).map ([·]) = some bound → value ∈ bound := by
    intro other holds binds
    obtain ⟨literal, read, rfl⟩ := Option.map_eq_some_iff.mp binds
    rw [read] at holds
    exact List.mem_singleton.mpr (KeyValue.eq_of_equals holds)
  unfold KeyColumn.equality? at holds
  unfold boundByEquality at binds
  by_cases isLeft : key.isMeantBy left = true
  · rw [if_pos isLeft] at holds binds
    exact of_literal right holds binds
  · rw [if_neg isLeft] at holds binds
    by_cases isRight : key.isMeantBy right = true
    · rw [if_pos isRight] at holds binds
      exact of_literal left holds binds
    · rw [if_neg isRight] at binds
      cases binds

/-- What two conditions bind together has every key that each of them allows. -/
theorem mem_boundByBoth {value : KeyValue} {left right : Option (List KeyValue)}
    (inLeft : ∀ bound, left = some bound → value ∈ bound)
    (inRight : ∀ bound, right = some bound → value ∈ bound) {bound : List KeyValue}
    (binds : boundByBoth left right = some bound) : value ∈ bound := by
  cases left with
  | none => exact inRight bound binds
  | some leftBound =>
    cases right with
    | none => exact inLeft bound binds
    | some rightBound =>
      -- The key is in both sets, so what they have in common is not empty.
      have both : value ∈ Ascending.inter leftBound rightBound :=
        Ascending.mem_inter.mpr ⟨inLeft _ rfl, inRight _ rfl⟩
      have some : ¬ (Ascending.inter leftBound rightBound).isEmpty = true := fun empty => by
        rw [List.isEmpty_iff.mp empty] at both
        cases both
      simp only [boundByBoth, if_neg some, Option.some.injEq] at binds
      exact binds ▸ both

/-- What either of two conditions binds has every key that one of them allows. -/
theorem mem_boundByEither {value : KeyValue} {left right : Option (List KeyValue)}
    (inside : (∀ bound, left = some bound → value ∈ bound) ∨
      ∀ bound, right = some bound → value ∈ bound) {bound : List KeyValue}
    (binds : boundByEither left right = some bound) : value ∈ bound := by
  obtain ⟨leftBound, isLeft, binds⟩ := Option.bind_eq_some_iff.mp binds
  obtain ⟨rightBound, isRight, same⟩ := Option.bind_eq_some_iff.mp binds
  obtain rfl := Option.some.inj same
  rw [Ascending.mem_union]
  exact inside.elim (fun inLeft => Or.inr (inLeft _ isLeft)) fun inRight => Or.inl (inRight _ isRight)

/-- **Where a condition that binds the key holds of a row, its key is among the bound ones.** -/
theorem mem_of_boundValues? {key : KeyColumn} {value : KeyValue} {condition : Expr}
    {free : List Turn → Truth} (holds : truth key value condition free = .holds)
    {bound : List KeyValue} (binds : boundValues? key condition = some bound) : value ∈ bound := by
  fun_induction boundValues? key condition generalizing free bound with
  | case1 inner ih => exact ih holds binds
  | case2 left right => exact mem_of_boundByEquality holds binds
  | case3 left right ihLeft ihRight =>
    obtain ⟨holdsLeft, holdsRight⟩ := (Truth.and_eq_holds _ _).mp holds
    exact mem_boundByBoth (fun _ => ihLeft holdsLeft) (fun _ => ihRight holdsRight) binds
  | case4 left right ihLeft ihRight =>
    refine mem_boundByEither ?_ binds
    rcases (Truth.or_eq_holds _ _).mp holds with holdsLeft | holdsRight
    · exact Or.inl fun _ => ihLeft holdsLeft
    · exact Or.inr fun _ => ihRight holdsRight
  | case5 subject candidates meant =>
    obtain ⟨literals, read, rfl⟩ := Option.map_eq_some_iff.mp binds
    have inside : value.among literals = .holds := by
      simpa only [truth, KeyColumn.membership?, if_pos meant, read, Option.map_some,
        Option.getD_some] using holds
    exact Ascending.mem_ofList.mpr (KeyValue.mem_of_among inside)
  | case6 => cases binds
  | case7 => cases binds

end ScatterGather
