/-
**Minus signs before keys.**

The least whole number of 64 bits has no negative there, so that a minus sign before it would overflow:

* `LiteralTree`: a literal behind any minus signs and in any parentheses, its number as a text has it;
* `checkedLiteral?`: the key of an expression, where a minus sign **fails on overflow**;
* `keyNumber_negatable`, `Negatable.negation`: the number in it is not the least one, nor is any key that comes
  of it by a minus sign;
* `LiteralTree.checked`, `negation_fits` — **no minus sign overflows**, and no key is the least number.
-/
import ScatterGather.Proofs.Routing.Numbers
import ScatterGather.Proofs.Sequence

namespace ScatterGather

open Sql

/-! ### Literals and their keys -/

/-- A literal behind any minus signs and in any parentheses. Its number is a token of some text. -/
inductive LiteralTree : Expr → Prop
  | number {chars : List Char} {tokens : List Token} {digits : String} {long : Bool}
      (scanned : Token.scan chars = .ok tokens) (inside : Token.number digits long ∈ tokens) :
      LiteralTree (.literal (.number digits long))
  | string (quote : Char) (text : String) : LiteralTree (.literal (.string quote text))
  | boolean (value : Bool) : LiteralTree (.literal (.boolean value))
  | null : LiteralTree (.literal .null)
  | minus {operand : Expr} (literal : LiteralTree operand) : LiteralTree (.unary .minus operand)
  | nested {inner : Expr} (literal : LiteralTree inner) : LiteralTree (.nested inner)

/-- A whole number whose negative has no place in 64 bits. -/
structure Overflow where
  number : Int64
  deriving DecidableEq, Repr

/-- A key value behind a minus sign, a whole number being negated as such: it overflows if its negative is none
of 64 bits. -/
def checkedNegation? : KeyValue → Except Overflow (Option KeyValue)
  | .integer value =>
    if -value.toInt < 0x8000000000000000 then .ok (some (.integer (Int64.ofInt (-value.toInt))))
    else .error ⟨value⟩
  | key => .ok (negated? key)

/-- The key value of an expression that is a literal, if no minus sign overflows. -/
def checkedLiteral? : Expr → Except Overflow (Option KeyValue)
  | .unary .minus operand => do
    match ← checkedLiteral? operand with
    | some key => checkedNegation? key
    | none => .ok none
  | .nested inner => checkedLiteral? inner
  | expr => .ok (keyLiteral? expr)

/-! ### Bounds -/

/-- A key that can be negated: if it is a whole number, its negative is one of 64 bits. -/
def Negatable (key : KeyValue) : Prop :=
  ∀ value, key = .integer value → -(2 ^ 63 - 1) ≤ value.toInt

/-- **A number without a sign can be negated.** -/
theorem keyNumber_negatable (numeral : Numeral) : Negatable (keyNumber numeral.text) := by
  intro value bound
  have nonnegative : 0 ≤ numeral.value := by
    unfold Numeral.value
    positivity
  rcases keyNumber_nearest numeral bound with same | ⟨-, small, -⟩
  · have : (0 : ℚ) ≤ value.toInt := same ▸ nonnegative
    have : 0 ≤ value.toInt := by exact_mod_cast this
    omega
  · unfold maxExact at small
    omega

/-- **A key that can be negated is**, and its negative can be negated in turn. -/
theorem Negatable.negation {key : KeyValue} (negatable : Negatable key) :
    checkedNegation? key = .ok (negated? key) ∧ ∀ other ∈ negated? key, Negatable other := by
  cases key with
  | null => exact ⟨rfl, nofun⟩
  | boolean value => exact ⟨rfl, nofun⟩
  | text value => exact ⟨rfl, by simp [negated?, Negatable]⟩
  | integer value =>
    have least := negatable value rfl
    have fits : -value.toInt < 0x8000000000000000 := by omega
    have negative : Int64.ofInt (-value.toInt) = -value := by rw [Int64.ofInt_neg, Int64.ofInt_toInt]
    refine ⟨?_, ?_⟩
    · rw [checkedNegation?, if_pos fits, negative]
      rfl
    · rintro _ ⟨⟩ other same
      obtain rfl := KeyValue.integer.inj same
      have greatest := value.toInt_lt
      rw [← negative, Int64.toInt_ofInt_of_le (by omega) fits]
      omega

/-- **The keys of literals can be negated**, and none of the minus signs in them overflows. -/
theorem LiteralTree.checked {expr : Expr} (literal : LiteralTree expr) :
    checkedLiteral? expr = .ok (keyLiteral? expr) ∧ ∀ key ∈ keyLiteral? expr, Negatable key := by
  induction literal with
  | number scanned inside =>
    refine ⟨rfl, ?_⟩
    rintro _ ⟨⟩
    obtain ⟨numeral, rfl⟩ := Token.isNumeral_scan scanned _ inside
    exact keyNumber_negatable numeral
  | string quote text => exact ⟨rfl, by simp [keyLiteral?, Negatable]⟩
  | boolean value => exact ⟨rfl, by simp [keyLiteral?, Negatable]⟩
  | null => exact ⟨rfl, by simp [keyLiteral?, Negatable]⟩
  | nested _ ih => exact ih
  | @minus operand _ ih =>
    obtain ⟨checked, negatable⟩ := ih
    rw [checkedLiteral?, keyLiteral?, checked, ok_bind]
    cases own : keyLiteral? operand with
    | none => exact ⟨rfl, nofun⟩
    | some key => exact (negatable key own).negation

/-! ### The least number -/

/-- An expression behind so many minus signs. -/
def negations (expr : Expr) : Nat → Expr
  | 0 => expr
  | count + 1 => .unary .minus (negations expr count)

theorem LiteralTree.negations {expr : Expr} (literal : LiteralTree expr) (count : Nat) :
    LiteralTree (negations expr count) := by
  induction count with
  | zero => exact literal
  | succ count ih => exact .minus ih

/-- A number that is kept as its text gets the minus signs before it in front of the text. -/
theorem keyLiteral?_negations {digits : String} {long : Bool} (kept : keyNumber digits = .text digits)
    (count : Nat) : keyLiteral? (negations (.literal (.number digits long)) count) =
      some (.text (String.ofList (List.replicate count '-') ++ digits)) := by
  induction count with
  | zero =>
    rw [negations, keyLiteral?, kept]
    simp
  | succ count ih =>
    have one : "-" ++ String.ofList (List.replicate count '-') =
        String.ofList (List.replicate (count + 1) '-') := by
      apply String.toList_inj.mp
      simp [List.replicate_succ]
    rw [negations, keyLiteral?, ih, Option.bind_some, negated?, ← String.append_assoc, one]

/-- **Minus signs do not overflow.** In a tree of literals, however deep, every whole number that comes behind a
minus sign has a negative of 64 bits, and the key of the tree is no whole number but those between -(2⁶³ - 1)
and 2⁶³ - 1. The digits of 2⁶³ are kept as a text, and so are the minus signs before them. -/
theorem negation_fits :
    (∀ expr, LiteralTree expr → checkedLiteral? expr = .ok (keyLiteral? expr) ∧
      ∀ value, keyLiteral? expr = some (.integer value) →
        -(2 ^ 63 - 1) ≤ value.toInt ∧ value.toInt ≤ 2 ^ 63 - 1) ∧
      ∀ count,
        checkedLiteral? (negations (.literal (.number "9223372036854775808" false)) count) =
          .ok (some (.text (String.ofList (List.replicate count '-') ++ "9223372036854775808"))) := by
  have scanned : Token.scan "9223372036854775808".toList =
      .ok [.number "9223372036854775808" false] := by decide +kernel
  have kept : keyNumber "9223372036854775808" = .text "9223372036854775808" := by decide +kernel
  refine ⟨fun expr literal => ⟨literal.checked.1, fun value bound => ⟨?_, ?_⟩⟩, fun count => ?_⟩
  · exact literal.checked.2 _ bound value rfl
  · have greatest := value.toInt_lt
    omega
  · have literal := (LiteralTree.number scanned List.mem_cons_self).negations count
    rw [literal.checked.1, keyLiteral?_negations kept]

/-- The greatest number behind one minus sign, in parentheses and behind two more. -/
theorem greatest_number_negated :
    let digits := "9223372036854775807"
    let negative : Expr := .unary .minus (.literal (.number digits false))
    let expr : Expr := .unary .minus (.nested (.unary .minus (.nested negative)))
    Token.scan digits.toList = .ok [.number digits false] ∧ LiteralTree expr ∧
      keyLiteral? expr = some (.integer (-9223372036854775807)) ∧
      checkedLiteral? expr = .ok (some (.integer (-9223372036854775807))) ∧
        -(2 ^ 63 - 1) ≤ (-9223372036854775807 : Int64).toInt := by
  intro digits negative expr
  have scanned : Token.scan digits.toList = .ok [.number digits false] := by decide +kernel
  have literal : LiteralTree expr :=
    .minus (.nested (.minus (.nested (.minus (.number scanned List.mem_cons_self)))))
  have bound : keyLiteral? expr = some (.integer (-9223372036854775807)) := by decide +kernel
  obtain ⟨checked, bounds⟩ := negation_fits.1 expr literal
  exact ⟨scanned, literal, bound, bound ▸ checked, (bounds _ bound).1⟩

/-- The least number would overflow. -/
example : checkedNegation? (.integer (-9223372036854775808)) = .error ⟨-9223372036854775808⟩ := by
  decide +kernel

end ScatterGather
