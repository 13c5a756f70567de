/-
**Doubles by their values.**

The order of doubles is worked out on whole numbers, brought to a common exponent. What it means is told
by fractions:

* `Binary64.fraction`: the value of a finite double; `Binary64.rank`: its place between the infinities;
* `shifted_eq`: what is compared **is the value**, but for a common factor;
* `compare?_eq_rank` — doubles that are numbers stand **as their ranks do**.
-/
import ScatterGather.Number.Binary64
import Mathlib.Algebra.Order.Field.Rat
import Mathlib.Algebra.Order.Ring.Cast
import Mathlib.Order.WithBot
import Mathlib.Order.Compare

namespace ScatterGather.Binary64

/-- The value of a finite double. -/
def fraction (negative : Bool) (significand : Nat) (exponent : Int) : ℚ :=
  (if negative then -1 else 1) * significand * 2 ^ exponent

/-- The place of a double among all values, between minus infinity and infinity. What is not a number
has none, and is put with minus infinity. -/
def rank : Binary64 → WithBot (WithTop ℚ)
  | .nan => ⊥
  | .infinite true => ⊥
  | .infinite false => ⊤
  | .finite negative significand exponent =>
    ((fraction negative significand exponent : WithTop ℚ) : WithBot (WithTop ℚ))

/-- The shifted significand is the value of a double, measured by the common power of two. -/
theorem shifted_eq (negative : Bool) (significand : Nat) {exponent common : Int}
    (below : common ≤ exponent) :
    (shifted negative significand exponent common : ℚ) =
      fraction negative significand exponent * 2 ^ (-common) := by
  -- Above the common exponent the power of two is a whole number, which the significand takes in.
  obtain ⟨steps, rfl⟩ := Int.le.dest below
  have power : (2 : ℚ) ^ (common + (steps : Int)) * 2 ^ (-common) = 2 ^ steps := by
    rw [← zpow_add₀ two_ne_zero, add_neg_cancel_comm, zpow_natCast]
  have size : ((Int.ofNat (significand * Nat.pow 2 (common + (steps : Int) - common).toNat) : Int) : ℚ) =
      significand * 2 ^ steps := by
    rw [add_sub_cancel_left, Int.toNat_natCast, Int.ofNat_eq_natCast, Nat.pow_eq]
    push_cast
    rfl
  unfold shifted fraction
  cases negative with
  | false => rw [if_neg Bool.false_ne_true, if_neg Bool.false_ne_true, size, mul_assoc, power, one_mul]
  | true => rw [if_pos rfl, if_pos rfl, Int.cast_neg, size, mul_assoc, power, neg_one_mul, neg_mul]

/-- **The order of finite doubles is that of their values.** -/
theorem compare_shifted (leftSign rightSign : Bool) (left right : Nat) (leftExp rightExp : Int) :
    compare (shifted leftSign left leftExp (min leftExp rightExp))
        (shifted rightSign right rightExp (min leftExp rightExp)) =
      compare (fraction leftSign left leftExp) (fraction rightSign right rightExp) := by
  have unit : (0 : ℚ) < 2 ^ (-min leftExp rightExp) := zpow_pos two_pos _
  rw [← cmp_eq_compare, ← cmp_eq_compare, ← (Int.cast_strictMono (R := ℚ)).cmp_map_eq,
    shifted_eq _ _ (min_le_left _ _), shifted_eq _ _ (min_le_right _ _), cmp_mul_pos_right unit]

theorem rank_finite_lt (sign : Bool) (significand : Nat) (exponent : Int) :
    rank (.infinite true) < rank (.finite sign significand exponent) ∧
      rank (.finite sign significand exponent) < rank (.infinite false) :=
  ⟨WithBot.bot_lt_coe _, WithBot.coe_lt_coe.mpr (WithTop.coe_lt_top _)⟩

/-- **Doubles that are numbers are ordered by their ranks.** -/
theorem compare?_eq_rank {left right : Binary64} (isLeft : left ≠ .nan) (isRight : right ≠ .nan) :
    compare? left right = some (compare left.rank right.rank) := by
  match left, right with
  | .nan, _ => exact absurd rfl isLeft
  | _, .nan => exact absurd rfl isRight
  | .infinite true, .infinite true => rfl
  | .infinite true, .infinite false => rfl
  | .infinite false, .infinite true => rfl
  | .infinite false, .infinite false => rfl
  | .infinite true, .finite sign significand exponent =>
    rw [compare_lt_iff_lt.mpr (rank_finite_lt sign significand exponent).1]
    rfl
  | .infinite false, .finite sign significand exponent =>
    rw [compare_gt_iff_gt.mpr (rank_finite_lt sign significand exponent).2]
    rfl
  | .finite sign significand exponent, .infinite true =>
    rw [compare_gt_iff_gt.mpr (rank_finite_lt sign significand exponent).1]
    rfl
  | .finite sign significand exponent, .infinite false =>
    rw [compare_lt_iff_lt.mpr (rank_finite_lt sign significand exponent).2]
    rfl
  | .finite leftSign left leftExp, .finite rightSign right rightExp =>
    rw [compare?, compare_shifted, rank, rank, ← cmp_eq_compare, ← cmp_eq_compare,
      WithBot.coe_strictMono.cmp_map_eq, WithTop.coe_strictMono.cmp_map_eq]

theorem compare?_nan_left (right : Binary64) : compare? .nan right = none := rfl

theorem compare?_nan_right (left : Binary64) : compare? left .nan = none := by
  cases left <;> rfl

/-- The order of doubles turns around with them. -/
theorem compare?_swap (left right : Binary64) :
    compare? right left = (compare? left right).map Ordering.swap := by
  by_cases isLeft : left = .nan
  · rw [isLeft, compare?_nan_left, compare?_nan_right]
    rfl
  by_cases isRight : right = .nan
  · rw [isRight, compare?_nan_left, compare?_nan_right]
    rfl
  rw [compare?_eq_rank isLeft isRight, compare?_eq_rank isRight isLeft, Option.map_some,
    ← cmp_eq_compare, ← cmp_eq_compare, cmp_swap]

end ScatterGather.Binary64
