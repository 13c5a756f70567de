/-
**Rounding to the nearest double.**

A double is a whole number of 53 bits, measured by a power of two of some range. What it is to be the nearest
one is said without rounding; that rounding in natural numbers finds it is proved step by step:

* `IsDouble`, `IsNearest`: the values of doubles, and those of them than which no other one is nearer;
* `IsNearest.mono`, `IsNearest.eq_of_isDouble` — rounding keeps the order, and **leaves doubles as they
  are**;
* `roundHalfEven_half`, `exponentFor_spec`: a quotient is rounded by half a unit, of which there are 53 bits;
* `isNearest_nearestFraction`, `nearestFraction_finite`, `exists_isDouble_near`: what a fraction is rounded
  to, when it is rounded at all, and by how much;
* `isNearest_nearest`, `nearest_finite` — a decimal is rounded **to a nearest double**, unless it is too
  great;
* `isDouble_intCast`, `toWhole?_eq_some`: the whole numbers among the doubles.
-/
import ScatterGather.Proofs.Number.Ranked
import Mathlib.Algebra.Order.Field.Basic
import Mathlib.Algebra.Order.Field.Power
import Mathlib.Algebra.Order.AbsoluteValue.Basic
import Mathlib.Tactic.Linarith
import Mathlib.Tactic.NormNum
import Mathlib.Tactic.FieldSimp
import Mathlib.Tactic.Ring
import Mathlib.Tactic.Positivity

namespace ScatterGather

/-- The factor that a sign is. -/
def signFactor (negative : Bool) : ℚ :=
  if negative then -1 else 1

/-- The number that a decimal is. -/
def Decimal.value (decimal : Decimal) : ℚ :=
  signFactor decimal.negative * (decimal.coefficient * 10 ^ decimal.exponent)

namespace Binary64

/-! ### Doubles among the fractions -/

/-- The values of finite doubles: whole numbers of 53 bits, measured by a power of two. -/
def IsDouble (value : ℚ) : Prop :=
  ∃ negative significand exponent, significand < 2 ^ 53 ∧ -1074 ≤ exponent ∧ exponent ≤ 971 ∧
    fraction negative significand exponent = value

/-- A double is nearest to a number: no other one is nearer. -/
structure IsNearest (value double : ℚ) : Prop where
  isDouble : IsDouble double
  le : ∀ other, IsDouble other → |value - double| ≤ |value - other|

theorem fraction_not (negative : Bool) (significand : Nat) (exponent : Int) :
    fraction (!negative) significand exponent = -fraction negative significand exponent := by
  cases negative <;> simp [fraction]

theorem IsDouble.neg {value : ℚ} (isDouble : IsDouble value) : IsDouble (-value) := by
  obtain ⟨negative, significand, exponent, bits, low, high, rfl⟩ := isDouble
  exact ⟨!negative, significand, exponent, bits, low, high, fraction_not _ _ _⟩

theorem isDouble_zero : IsDouble 0 :=
  ⟨false, 0, 0, by norm_num, by norm_num, by norm_num, by simp [fraction]⟩

/-- A double is nearest to itself. -/
theorem IsDouble.isNearest {value : ℚ} (isDouble : IsDouble value) : IsNearest value value :=
  ⟨isDouble, fun other _ => by rw [sub_self, abs_zero]; exact abs_nonneg _⟩

namespace IsNearest

variable {value other double otherDouble : ℚ}

theorem neg (nearest : IsNearest value double) : IsNearest (-value) (-double) := by
  refine ⟨nearest.isDouble.neg, fun other isDouble => ?_⟩
  have here := nearest.le (-other) isDouble.neg
  rwa [neg_sub_neg, abs_sub_comm, ← abs_neg (-value - other), neg_sub', neg_neg]

/-- **Rounding is monotone.** -/
theorem mono (nearest : IsNearest value double) (nearestOther : IsNearest other otherDouble)
    (less : value < other) : double ≤ otherDouble := by
  -- Otherwise the middle of the doubles would be at most the lesser number and at least the greater one.
  by_contra greater
  rw [not_le] at greater
  have below := nearest.le otherDouble nearestOther.isDouble
  have above := nearestOther.le double nearest.isDouble
  have product := mul_pos (sub_pos.mpr less) (sub_pos.mpr greater)
  linarith [sq_le_sq.mpr below, sq_le_sq.mpr above]

/-- A double is rounded to itself. -/
theorem eq_of_isDouble (nearest : IsNearest value double) (isDouble : IsDouble value) : double = value := by
  have none := nearest.le value isDouble
  rw [sub_self, abs_zero] at none
  exact (sub_eq_zero.mp (abs_nonpos_iff.mp none)).symm

/-- What is at least a double is not rounded below it. -/
theorem le_of_isDouble (nearest : IsNearest value double) (isDouble : IsDouble other) (le : other ≤ value) :
    other ≤ double := by
  rcases le.lt_or_eq with less | rfl
  · exact isDouble.isNearest.mono nearest less
  · exact (nearest.eq_of_isDouble isDouble).ge

end IsNearest

/-! ### Whole numbers -/

/-- A distance measured by a unit is that of what is measured by it. -/
theorem abs_sub_mul {left right unit : ℚ} (positive : 0 < unit) :
    |left - right| * unit = |left * unit - right * unit| := by
  rw [← sub_mul, abs_mul, abs_of_pos positive]

/-- Of whole numbers, one within half a unit of a quotient is nearest to it. -/
theorem abs_sub_le_of_half {quotient : ℚ} {rounded : ℕ} (half : |quotient - rounded| ≤ 1 / 2) (whole : ℤ) :
    |quotient - rounded| ≤ |quotient - whole| := by
  by_cases same : (rounded : ℤ) = whole
  · rw [← same, Int.cast_natCast]
  · have apart : (1 : ℚ) ≤ |(rounded : ℚ) - whole| := by
      have := Int.one_le_abs (sub_ne_zero.mpr same)
      exact_mod_cast this
    have between := abs_sub_le (rounded : ℚ) quotient whole
    rw [abs_sub_comm (rounded : ℚ) quotient] at between
    linarith

/-- A quotient is rounded by at most half a unit. -/
theorem roundHalfEven_half (numerator : Nat) {denominator : Nat} (positive : 0 < denominator) :
    |(numerator / denominator : ℚ) - roundHalfEven numerator denominator| ≤ 1 / 2 := by
  have unit : (0 : ℚ) < denominator := Nat.cast_pos.mpr positive
  have parts : (numerator : ℚ) / denominator =
      (numerator / denominator : ℕ) + (numerator % denominator : ℕ) / denominator := by
    rw [div_eq_iff unit.ne', add_mul, div_mul_cancel₀ _ unit.ne']
    exact_mod_cast (Nat.div_add_mod' numerator denominator).symm
  have less : ((numerator % denominator : ℕ) : ℚ) / denominator < 1 := by
    rw [div_lt_one unit]
    exact_mod_cast Nat.mod_lt numerator positive
  have nonnegative : (0 : ℚ) ≤ (numerator % denominator : ℕ) / denominator := by positivity
  rw [parts, roundHalfEven]
  split
  · next up =>
    have half : (1 : ℚ) / 2 ≤ (numerator % denominator : ℕ) / denominator := by
      rw [div_le_div_iff₀ two_pos unit, one_mul]
      have : denominator ≤ numerator % denominator * 2 := by omega
      exact_mod_cast this
    rw [abs_le]
    push_cast
    constructor <;> linarith
  · next down =>
    have half : ((numerator % denominator : ℕ) : ℚ) / denominator ≤ 1 / 2 := by
      rw [div_le_div_iff₀ unit two_pos, one_mul]
      have : numerator % denominator * 2 ≤ denominator := by omega
      exact_mod_cast this
    rw [abs_le]
    constructor <;> linarith

/-! ### Exponents -/

/-- Scaling divides a fraction by a power of two. -/
theorem scaleBy_spec (numerator : Nat) {denominator : Nat} (positive : 0 < denominator) (exponent : Int) :
    0 < (scaleBy numerator denominator exponent).2 ∧
      ((scaleBy numerator denominator exponent).1 / (scaleBy numerator denominator exponent).2 : ℚ) =
        numerator / denominator * 2 ^ (-exponent) := by
  unfold scaleBy
  split
  · next up =>
    refine ⟨Nat.mul_pos positive (Nat.pow_pos two_pos), ?_⟩
    obtain ⟨steps, rfl⟩ := Int.eq_ofNat_of_zero_le up
    rw [Int.toNat_natCast, Nat.pow_eq, zpow_neg, zpow_natCast]
    push_cast
    rw [div_mul_eq_div_div, div_eq_mul_inv (_ / _)]
  · next down =>
    refine ⟨positive, ?_⟩
    obtain ⟨steps, isSteps⟩ := Int.eq_ofNat_of_zero_le (by omega : 0 ≤ -exponent)
    rw [isSteps, Int.toNat_natCast, Nat.pow_eq, zpow_natCast]
    push_cast
    rw [div_mul_eq_mul_div]

/-- A scaled fraction is rounded by at most half a unit. -/
theorem scaled_half (numerator : Nat) {denominator : Nat} (positive : 0 < denominator) (exponent : Int) :
    |(numerator / denominator * 2 ^ (-exponent) : ℚ) - roundHalfEven
      (scaleBy numerator denominator exponent).1 (scaleBy numerator denominator exponent).2| ≤ 1 / 2 := by
  obtain ⟨unit, scaled⟩ := scaleBy_spec numerator positive exponent
  rw [← scaled]
  exact roundHalfEven_half _ unit

/-- The binary logarithms of numerator and denominator tell a fraction but for a factor of two. -/
theorem fraction_between {numerator denominator : Nat} (some : 0 < numerator) (positive : 0 < denominator) :
    let logarithm : Int := Nat.log2 numerator - Nat.log2 denominator
    (2 : ℚ) ^ (logarithm - 1) < numerator / denominator ∧
      (numerator / denominator : ℚ) < 2 ^ (logarithm + 1) := by
  intro logarithm
  have unit : (0 : ℚ) < denominator := Nat.cast_pos.mpr positive
  have low : (2 : ℚ) ^ (Nat.log2 numerator : Int) ≤ numerator := by
    exact_mod_cast Nat.log2_self_le some.ne'
  have high : (numerator : ℚ) < 2 ^ (Nat.log2 numerator + 1 : Int) := by
    exact_mod_cast Nat.lt_log2_self
  have lowOther : (2 : ℚ) ^ (Nat.log2 denominator : Int) ≤ denominator := by
    exact_mod_cast Nat.log2_self_le positive.ne'
  have highOther : (denominator : ℚ) < 2 ^ (Nat.log2 denominator + 1 : Int) := by
    exact_mod_cast Nat.lt_log2_self
  constructor
  · rw [lt_div_iff₀ unit]
    calc (2 : ℚ) ^ (logarithm - 1) * denominator
        < 2 ^ (logarithm - 1) * 2 ^ (Nat.log2 denominator + 1 : Int) :=
          mul_lt_mul_of_pos_left highOther (zpow_pos two_pos _)
      _ = 2 ^ (Nat.log2 numerator : Int) := by
        rw [← zpow_add₀ two_ne_zero]
        congr 1
        omega
      _ ≤ numerator := low
  · rw [div_lt_iff₀ unit]
    calc (numerator : ℚ) < 2 ^ (Nat.log2 numerator + 1 : Int) := high
      _ = 2 ^ (logarithm + 1) * 2 ^ (Nat.log2 denominator : Int) := by
        rw [← zpow_add₀ two_ne_zero]
        congr 1
        omega
      _ ≤ 2 ^ (logarithm + 1) * denominator :=
        mul_le_mul_of_nonneg_left lowOther (zpow_pos two_pos _).le

/-- The exponent of a fraction is a guess by binary logarithms, mended by one where it leaves 52 bits. -/
theorem exponentFor_eq (numerator denominator : Nat) :
    exponentFor numerator denominator =
      let guess : Int := (Nat.log2 numerator : Int) - Nat.log2 denominator - 52
      let scaled := scaleBy numerator denominator guess
      max (if scaled.1 / scaled.2 < 0x10000000000000 then guess - 1 else guess) (-1074) :=
  rfl

/-- There is an exponent by which a fraction is measured with 53 bits. -/
theorem exists_exponent {numerator denominator : Nat} (some : 0 < numerator) (positive : 0 < denominator) :
    ∃ exact : Int, exponentFor numerator denominator = max exact (-1074) ∧
      (2 : ℚ) ^ 52 ≤ numerator / denominator * 2 ^ (-exact) ∧
        (numerator / denominator * 2 ^ (-exact) : ℚ) < 2 ^ 53 := by
  obtain ⟨low, high⟩ := fraction_between some positive
  let guess : Int := Nat.log2 numerator - Nat.log2 denominator - 52
  obtain ⟨unit, scaled⟩ := scaleBy_spec numerator positive guess
  have factor : (0 : ℚ) < 2 ^ (-guess) := zpow_pos two_pos _
  -- The guess is right, or too great by one.
  have above : (2 : ℚ) ^ 51 < numerator / denominator * 2 ^ (-guess) := by
    calc (2 : ℚ) ^ 51 = 2 ^ ((Nat.log2 numerator : Int) - Nat.log2 denominator - 1) * 2 ^ (-guess) := by
          rw [← zpow_add₀ two_ne_zero, ← zpow_natCast]
          congr 1
          omega
      _ < _ := mul_lt_mul_of_pos_right low factor
  have below : (numerator / denominator * 2 ^ (-guess) : ℚ) < 2 ^ 53 := by
    calc (numerator / denominator * 2 ^ (-guess) : ℚ)
        < 2 ^ ((Nat.log2 numerator : Int) - Nat.log2 denominator + 1) * 2 ^ (-guess) :=
          mul_lt_mul_of_pos_right high factor
      _ = 2 ^ 53 := by
        rw [← zpow_add₀ two_ne_zero, ← zpow_natCast]
        congr 1
        omega
  have tested : (scaleBy numerator denominator guess).1 / (scaleBy numerator denominator guess).2 <
      0x10000000000000 ↔ (numerator / denominator * 2 ^ (-guess) : ℚ) < 2 ^ 52 := by
    rw [Nat.div_lt_iff_lt_mul unit, ← scaled, div_lt_iff₀ (Nat.cast_pos.mpr unit)]
    norm_cast
  by_cases less : (numerator / denominator * 2 ^ (-guess) : ℚ) < 2 ^ 52
  · have twice : (2 : ℚ) ^ (-(guess - 1)) = 2 ^ (-guess) * 2 := by
      rw [neg_sub, sub_eq_add_neg, zpow_add₀ two_ne_zero, zpow_one, mul_comm]
    refine ⟨guess - 1, ?_, ?_, ?_⟩
    · rw [exponentFor_eq]
      exact congrArg (max · (-1074)) (if_pos (tested.mpr less))
    · rw [twice, ← mul_assoc]
      linarith
    · rw [twice, ← mul_assoc]
      linarith
  · refine ⟨guess, ?_, not_lt.mp less, below⟩
    rw [exponentFor_eq]
    exact congrArg (max · (-1074)) (if_neg fun found => less (tested.mp found))

/-- **The exponent of a fraction** measures it with 53 bits, or with fewer if that takes an exponent less
than all there are. -/
theorem exponentFor_spec {numerator denominator : Nat} (some : 0 < numerator) (positive : 0 < denominator) :
    let exponent := exponentFor numerator denominator
    let scaled : ℚ := numerator / denominator * 2 ^ (-exponent)
    scaled < 2 ^ 53 ∧ -1074 ≤ exponent ∧ (exponent = -1074 ∨ 2 ^ 52 ≤ scaled) := by
  obtain ⟨exact, isMax, low, high⟩ := exists_exponent some positive
  rw [isMax]
  rcases le_total (-1074) exact with within | under
  · rw [max_eq_left within]
    exact ⟨high, within, Or.inr low⟩
  · rw [max_eq_right under]
    refine ⟨lt_of_le_of_lt ?_ high, le_refl _, Or.inl rfl⟩
    exact mul_le_mul_of_nonneg_left (zpow_le_zpow_right₀ one_le_two (neg_le_neg under)) (by positivity)

/-! ### Fractions -/

/-- A double measured by a power of two of the range is a whole number, unless it is less than all that
have 53 bits there. -/
theorem IsDouble.whole_or_le {double : ℚ} (isDouble : IsDouble double) (exponent : Int) :
    (∃ whole : ℤ, double * 2 ^ (-exponent) = whole) ∨
      -1074 < exponent ∧ double * 2 ^ (-exponent) ≤ 2 ^ 52 := by
  obtain ⟨negative, significand, own, bits, ownLow, -, rfl⟩ := isDouble
  rcases le_or_gt exponent own with above | below
  · exact Or.inl ⟨_, (shifted_eq negative significand above).symm⟩
  · refine Or.inr ⟨lt_of_le_of_lt ownLow below, ?_⟩
    have size : fraction negative significand own ≤ significand * 2 ^ own := by
      have nonnegative : (0 : ℚ) ≤ significand * 2 ^ own := by positivity
      rw [fraction, mul_assoc]
      split
      · linarith
      · exact (one_mul _).le
    have few : (significand : ℚ) ≤ 2 ^ 53 := by exact_mod_cast bits.le
    calc fraction negative significand own * 2 ^ (-exponent)
        ≤ significand * 2 ^ own * 2 ^ (-exponent) :=
          mul_le_mul_of_nonneg_right size (zpow_pos two_pos _).le
      _ = significand * 2 ^ (own - exponent) := by rw [mul_assoc, ← zpow_add₀ two_ne_zero, sub_eq_add_neg]
      _ ≤ 2 ^ 53 * 2 ^ (-1 : ℤ) :=
          mul_le_mul few (zpow_le_zpow_right₀ one_le_two (by omega)) (zpow_pos two_pos _).le (by positivity)
      _ = 2 ^ 52 := by norm_num

/-- A significand of 53 bits, or the one that follows all of them, is that of a double. -/
theorem isDouble_of_le {significand : Nat} {exponent : Int} (bits : significand ≤ 2 ^ 53)
    (low : -1074 ≤ exponent) (high : exponent ≤ 971) (within : ¬(exponent = 971 ∧ significand = 2 ^ 53)) :
    IsDouble (significand * 2 ^ exponent) := by
  rcases bits.lt_or_eq with less | full
  · exact ⟨false, significand, exponent, less, low, high, by simp [fraction]⟩
  · refine ⟨false, 2 ^ 52, exponent + 1, by norm_num, by omega, by omega, ?_⟩
    rw [full, fraction, zpow_add₀ two_ne_zero]
    norm_num
    ring

/-- Numbers of 53 bits are rounded to as many, or to the one that follows them. -/
theorem le_of_half {scaled : ℚ} {significand : Nat} (half : |scaled - significand| ≤ 1 / 2)
    (less : scaled < 2 ^ 53) : significand ≤ 2 ^ 53 := by
  have next : (significand : ℚ) < (2 ^ 53 + 1 : ℕ) := by
    push_cast
    linarith [(abs_le.mp half).1]
  exact Nat.lt_succ_iff.mp (Nat.cast_lt.mp next)

/-- **A number rounded by half a unit of its 53 bits is nearest.** -/
theorem isNearest_of_half {value : ℚ} {significand : Nat} {exponent : Int}
    (half : |value * 2 ^ (-exponent) - significand| ≤ 1 / 2) (less : value * 2 ^ (-exponent) < 2 ^ 53)
    (low : -1074 ≤ exponent) (full : exponent = -1074 ∨ 2 ^ 52 ≤ value * 2 ^ (-exponent))
    (high : exponent ≤ 971) (within : ¬(exponent = 971 ∧ significand = 2 ^ 53)) :
    IsNearest value (significand * 2 ^ exponent) := by
  refine ⟨isDouble_of_le (le_of_half half less) low high within, fun other isDouble => ?_⟩
  have unit : (0 : ℚ) < 2 ^ (-exponent) := zpow_pos two_pos _
  refine le_of_mul_le_mul_right ?_ unit
  rw [abs_sub_mul unit, abs_sub_mul unit, mul_assoc, mul_comm (2 ^ exponent),
    zpow_neg_mul_zpow_self _ two_ne_zero, mul_one]
  rcases isDouble.whole_or_le exponent with ⟨whole, isWhole⟩ | ⟨normal, small⟩
  · rw [isWhole]
    exact abs_sub_le_of_half half whole
  · -- The other double is below all significands of 53 bits, of which the least is no nearer either.
    have some := full.resolve_left normal.ne'
    have least := abs_sub_le_of_half half (2 ^ 52 : ℕ)
    rw [Int.cast_natCast, Nat.cast_pow, Nat.cast_ofNat, abs_of_nonneg (sub_nonneg.mpr some)] at least
    calc |value * 2 ^ (-exponent) - significand| ≤ value * 2 ^ (-exponent) - 2 ^ 52 := least
      _ ≤ value * 2 ^ (-exponent) - other * 2 ^ (-exponent) := sub_le_sub_left small _
      _ ≤ _ := le_abs_self _

theorem IsNearest.signFactor_mul {value double : ℚ} (nearest : IsNearest value double) (negative : Bool) :
    IsNearest (signFactor negative * value) (signFactor negative * double) := by
  cases negative with
  | false => simpa [signFactor] using nearest
  | true => simpa [signFactor] using nearest.neg

theorem nearestFraction_eq (negative : Bool) (numerator denominator : Nat) :
    nearestFraction negative numerator denominator =
      let exponent := exponentFor numerator denominator
      let scaled := scaleBy numerator denominator exponent
      let significand := roundHalfEven scaled.1 scaled.2
      if 971 < exponent ∨ (exponent = 971 ∧ significand = 0x20000000000000) then .infinite negative
      else .finite negative significand exponent :=
  rfl

/-- **A fraction is rounded to a nearest double**, unless it is rounded beyond all. -/
theorem isNearest_nearestFraction {negative sign : Bool} {numerator denominator significand : Nat}
    {exponent : Int} (some : 0 < numerator) (positive : 0 < denominator)
    (found : nearestFraction negative numerator denominator = .finite sign significand exponent) :
    IsNearest (signFactor negative * (numerator / denominator)) (fraction sign significand exponent) := by
  obtain ⟨less, low, full⟩ := exponentFor_spec some positive
  have half := scaled_half numerator positive (exponentFor numerator denominator)
  rw [nearestFraction_eq] at found
  dsimp only at found
  split at found
  · cases found
  · next within =>
    obtain ⟨rfl, rfl, rfl⟩ := Binary64.finite.inj found
    rw [not_or, not_lt] at within
    have nearest := (isNearest_of_half half less low full within.1 within.2).signFactor_mul negative
    rw [fraction, mul_assoc]
    exact nearest

/-- Fractions less than half the range of doubles have an exponent less than the greatest. -/
theorem exponentFor_lt {numerator denominator : Nat} (some : 0 < numerator) (positive : 0 < denominator)
    (less : (numerator / denominator : ℚ) < 2 ^ (1023 : Int)) :
    exponentFor numerator denominator < 971 := by
  obtain ⟨-, -, full⟩ := exponentFor_spec some positive
  rcases full with least | full
  · omega
  · have power : (2 : ℚ) ^ ((52 : Int) + exponentFor numerator denominator) < 2 ^ (1023 : Int) := by
      calc (2 : ℚ) ^ ((52 : Int) + exponentFor numerator denominator)
          = 2 ^ 52 * 2 ^ exponentFor numerator denominator := by
            rw [zpow_add₀ two_ne_zero]
            norm_cast
        _ ≤ numerator / denominator * 2 ^ (-exponentFor numerator denominator) *
              2 ^ exponentFor numerator denominator :=
            mul_le_mul_of_nonneg_right full (zpow_pos two_pos _).le
        _ = numerator / denominator := by rw [mul_assoc, zpow_neg_mul_zpow_self _ two_ne_zero, mul_one]
        _ < 2 ^ (1023 : Int) := less
    have := (zpow_lt_zpow_iff_right₀ one_lt_two).mp power
    omega

/-- They are not rounded beyond the range. -/
theorem nearestFraction_finite (negative : Bool) {numerator denominator : Nat} (some : 0 < numerator)
    (positive : 0 < denominator) (less : (numerator / denominator : ℚ) < 2 ^ (1023 : Int)) :
    ∃ significand exponent,
      nearestFraction negative numerator denominator = .finite negative significand exponent := by
  have small := exponentFor_lt some positive less
  rw [nearestFraction_eq]
  exact ⟨_, _, if_neg (by omega)⟩

/-- **Within the range of doubles a fraction is rounded by half a unit of its 53 bits** at most. -/
theorem exists_isDouble_near {numerator denominator : Nat} (some : 0 < numerator)
    (positive : 0 < denominator) (least : (2 : ℚ) ^ (-1022 : Int) ≤ numerator / denominator)
    (most : (numerator / denominator : ℚ) < 2 ^ (1023 : Int)) :
    ∃ double, IsDouble double ∧
      |(numerator / denominator : ℚ) - double| ≤ numerator / denominator / 2 ^ 53 := by
  obtain ⟨less, low, full⟩ := exponentFor_spec some positive
  have high := exponentFor_lt some positive most
  have half := scaled_half numerator positive (exponentFor numerator denominator)
  generalize roundHalfEven _ _ = significand at half
  generalize exponentFor numerator denominator = exponent at *
  generalize (numerator / denominator : ℚ) = value at *
  have power : (0 : ℚ) < 2 ^ exponent := zpow_pos two_pos _
  have one : (2 : ℚ) ^ (-exponent) * 2 ^ exponent = 1 := zpow_neg_mul_zpow_self _ two_ne_zero
  have bits : 2 ^ 52 ≤ value * 2 ^ (-exponent) := by
    rcases full with lowest | full
    · -- At the least exponent there are 53 bits from the least number on that has them.
      rw [lowest]
      calc (2 : ℚ) ^ 52 = 2 ^ (-1022 : Int) * 2 ^ (1074 : Int) := by
            rw [← zpow_add₀ two_ne_zero]
            norm_num
        _ ≤ value * 2 ^ (- -1074 : Int) := mul_le_mul_of_nonneg_right least (by positivity)
    · exact full
  refine ⟨_, isDouble_of_le (le_of_half half less) low (by omega) (by omega), ?_⟩
  calc |value - significand * 2 ^ exponent| = |value * 2 ^ (-exponent) - significand| * 2 ^ exponent := by
        rw [abs_sub_mul power, mul_assoc, one, mul_one]
    _ ≤ value * 2 ^ (-exponent) / 2 ^ 53 * 2 ^ exponent := by
        refine mul_le_mul_of_nonneg_right (half.trans ?_) power.le
        rw [le_div_iff₀ (by positivity)]
        linarith
    _ = value / 2 ^ 53 := by rw [div_mul_eq_mul_div, mul_assoc, one, mul_one]

/-! ### Decimals -/

/-- Powers of two and of ten at the ends of the range of doubles. -/
theorem two_pow_le_ten_pow :
    (2 : ℚ) ^ (1023 : Int) ≤ 10 ^ (308 : Int) ∧ (2 : ℚ) ^ (1075 : Int) ≤ 10 ^ (324 : Int) := by
  have most : (2 : ℚ) ^ (1023 : Int) ≤ 10 ^ (308 : Int) := by
    calc (2 : ℚ) ^ (93 * 11 : Int) = (2 ^ (93 : Int)) ^ (11 : Int) := zpow_mul _ _ _
      _ ≤ (10 ^ (28 : Int)) ^ (11 : Int) := zpow_le_zpow_left₀ (by decide) (by positivity) (by norm_num)
      _ = 10 ^ (28 * 11 : Int) := (zpow_mul _ _ _).symm
  refine ⟨most, ?_⟩
  calc (2 : ℚ) ^ (1023 + 52 : Int) = 2 ^ (1023 : Int) * 2 ^ (52 : Int) := zpow_add₀ two_ne_zero _ _
    _ ≤ 10 ^ (308 : Int) * 10 ^ (16 : Int) := mul_le_mul most (by norm_num) (by positivity) (by positivity)
    _ = 10 ^ (308 + 16 : Int) := (zpow_add₀ (by norm_num) _ _).symm

theorem abs_signFactor_mul (negative : Bool) (value : ℚ) : |signFactor negative * value| = |value| := by
  cases negative <;> simp [signFactor]

/-- The digits of a number tell its size but for a factor of ten. -/
theorem pow_width {coefficient : Nat} (some : coefficient ≠ 0) :
    10 ^ (width coefficient - 1) ≤ coefficient ∧ coefficient < 10 ^ width coefficient := by
  have written : 0 < width coefficient := Nat.length_toDigits_pos
  refine ⟨?_, (Nat.length_toDigits_le_iff (by decide) written).mp le_rfl⟩
  by_cases one : width coefficient = 1
  · rw [one]
    exact Nat.pos_of_ne_zero some
  · by_contra less
    rw [not_le] at less
    have fewer := (Nat.length_toDigits_le_iff (by decide) (by omega)).mpr less
    exact absurd fewer (by unfold width at written ⊢; omega)

/-- The place of the leading digit tells the size of a decimal but for a factor of ten. -/
theorem decimal_between {coefficient : Nat} (some : coefficient ≠ 0) (exponent : Int) :
    (10 : ℚ) ^ (width coefficient + exponent - 1) ≤ coefficient * 10 ^ exponent ∧
      (coefficient * 10 ^ exponent : ℚ) < 10 ^ (width coefficient + exponent) := by
  obtain ⟨low, high⟩ := pow_width some
  have written : 0 < width coefficient := Nat.length_toDigits_pos
  have unit : (0 : ℚ) < 10 ^ exponent := zpow_pos (by norm_num) _
  constructor
  · have split : (width coefficient + exponent - 1 : Int) = (width coefficient - 1 : Nat) + exponent := by
      omega
    rw [split, zpow_add₀ (by norm_num), zpow_natCast]
    exact mul_le_mul_of_nonneg_right (by exact_mod_cast low) unit.le
  · rw [zpow_add₀ (by norm_num), zpow_natCast]
    exact mul_lt_mul_of_pos_right (by exact_mod_cast high) unit

/-- A decimal as a fraction of whole numbers. -/
theorem fraction_eq_decimal (coefficient : Nat) (exponent : Int) :
    (0 ≤ exponent → ((coefficient * Nat.pow 10 exponent.toNat : Nat) / (1 : Nat) : ℚ) =
        coefficient * 10 ^ exponent) ∧
      (exponent < 0 → (coefficient / (Nat.pow 10 (-exponent).toNat : Nat) : ℚ) =
        coefficient * 10 ^ exponent) := by
  constructor
  · intro up
    obtain ⟨places, rfl⟩ := Int.eq_ofNat_of_zero_le up
    rw [Int.toNat_natCast, Nat.pow_eq, zpow_natCast]
    push_cast
    rw [div_one]
  · intro down
    obtain ⟨places, isPlaces⟩ := Int.eq_ofNat_of_zero_le (by omega : 0 ≤ -exponent)
    obtain rfl : exponent = -(places : Int) := by omega
    rw [isPlaces, Int.toNat_natCast, Nat.pow_eq, zpow_neg, zpow_natCast, div_eq_mul_inv]
    push_cast
    rfl

/-- Zero is nearest to what is at most half of the least double. -/
theorem isNearest_zero {value : ℚ} (small : |value| ≤ 2 ^ (-1075 : Int)) : IsNearest value 0 := by
  refine ⟨isDouble_zero, fun other isDouble => ?_⟩
  by_cases same : other = 0
  · rw [same]
  · obtain ⟨negative, significand, exponent, -, low, -, rfl⟩ := isDouble
    have some : significand ≠ 0 := by
      rintro rfl
      exact same (by simp [fraction])
    have size : (2 : ℚ) ^ (-1074 : Int) ≤ |fraction negative significand exponent| := by
      rw [fraction, mul_assoc, ← signFactor, abs_signFactor_mul, abs_of_nonneg (by positivity)]
      calc (2 : ℚ) ^ (-1074 : Int) ≤ 2 ^ exponent := zpow_le_zpow_right₀ one_le_two low
        _ = 1 * 2 ^ exponent := (one_mul _).symm
        _ ≤ significand * 2 ^ exponent := by
          have atLeast : (1 : ℚ) ≤ significand := by exact_mod_cast Nat.one_le_iff_ne_zero.mpr some
          exact mul_le_mul_of_nonneg_right atLeast (zpow_pos two_pos _).le
    have twice : (2 : ℚ) ^ (-1074 : Int) = 2 * 2 ^ (-1075 : Int) := by
      rw [← zpow_one_add₀ two_ne_zero]
      norm_num
    have apart := abs_sub_abs_le_abs_sub (fraction negative significand exponent) value
    rw [abs_sub_comm] at apart
    rw [sub_zero]
    linarith

/-- **A decimal is rounded to a nearest double**, unless it is rounded beyond all. -/
theorem isNearest_nearest {decimal : Decimal} {negative : Bool} {significand : Nat} {exponent : Int}
    (found : nearest decimal = .finite negative significand exponent) :
    IsNearest decimal.value (fraction negative significand exponent) := by
  unfold nearest at found
  dsimp only at found
  split at found
  · next zero =>
    cases found
    simpa [Decimal.value, zero, fraction] using isDouble_zero.isNearest
  next some =>
  split at found
  · cases found
  split at found
  · next small =>
    cases found
    have less := (decimal_between some decimal.exponent).2
    have tiny : |decimal.value| ≤ 2 ^ (-1075 : Int) := by
      rw [Decimal.value, abs_signFactor_mul, abs_of_nonneg (by positivity)]
      calc (decimal.coefficient * 10 ^ decimal.exponent : ℚ)
          ≤ 10 ^ (width decimal.coefficient + decimal.exponent) := less.le
        _ ≤ 10 ^ (-324 : Int) := zpow_le_zpow_right₀ (by norm_num) small
        _ ≤ 2 ^ (-1075 : Int) := by
          rw [zpow_neg, zpow_neg]
          exact inv_anti₀ (by positivity) two_pow_le_ten_pow.2
    simpa [fraction] using isNearest_zero tiny
  split at found
  · next up =>
    rw [Decimal.value, ← (fraction_eq_decimal _ _).1 up]
    exact isNearest_nearestFraction (Nat.mul_pos (Nat.pos_of_ne_zero some) (Nat.pow_pos (by decide)))
      Nat.one_pos found
  · next down =>
    rw [Decimal.value, ← (fraction_eq_decimal _ _).2 (not_le.mp down)]
    exact isNearest_nearestFraction (Nat.pos_of_ne_zero some) (Nat.pow_pos (by decide)) found

/-- Decimals less than half the range of doubles are not rounded beyond it. -/
theorem nearest_finite {decimal : Decimal} (less : |decimal.value| < 2 ^ (1023 : Int)) :
    ∃ negative significand exponent, nearest decimal = .finite negative significand exponent := by
  have nonnegative : (0 : ℚ) ≤ decimal.coefficient * 10 ^ decimal.exponent :=
    mul_nonneg (Nat.cast_nonneg _) (zpow_pos (by norm_num) _).le
  rw [Decimal.value, abs_signFactor_mul, abs_of_nonneg nonnegative] at less
  unfold nearest
  dsimp only
  split
  · exact ⟨_, _, _, rfl⟩
  next some =>
  split
  · next large =>
    have least := (decimal_between some decimal.exponent).1
    have great : (10 : ℚ) ^ (308 : Int) ≤ 10 ^ (width decimal.coefficient + decimal.exponent - 1) :=
      zpow_le_zpow_right₀ (by norm_num) (by omega)
    exact absurd less (not_lt.mpr (two_pow_le_ten_pow.1.trans (great.trans least)))
  split
  · exact ⟨_, _, _, rfl⟩
  split
  · next up =>
    rw [← (fraction_eq_decimal _ _).1 up] at less
    exact ⟨_, nearestFraction_finite _ (Nat.mul_pos (Nat.pos_of_ne_zero some) (Nat.pow_pos (by decide)))
      Nat.one_pos less⟩
  · next down =>
    rw [← (fraction_eq_decimal _ _).2 (not_le.mp down)] at less
    exact ⟨_, nearestFraction_finite _ (Nat.pos_of_ne_zero some) (Nat.pow_pos (by decide)) less⟩

/-! ### Whole numbers among the doubles -/

/-- Whole numbers of up to 53 bits are doubles. -/
theorem isDouble_intCast {whole : Int} (small : whole.natAbs ≤ 2 ^ 53) : IsDouble whole := by
  have positive : IsDouble whole.natAbs := by
    have unscaled : IsDouble (whole.natAbs * 2 ^ (0 : Int)) :=
      isDouble_of_le small (by decide) (by decide) (by omega)
    rwa [zpow_zero, mul_one] at unscaled
  rcases Int.natAbs_eq whole with same | same
  · rw [same, Int.cast_natCast]
    exact positive
  · rw [same, Int.cast_neg, Int.cast_natCast]
    exact positive.neg

/-- A double is a whole number where its power of two is, or divides its significand. -/
theorem toWhole?_finite (negative : Bool) (significand : Nat) (exponent : Int) :
    toWhole? (.finite negative significand exponent) =
      (if 0 ≤ exponent then some (significand * 2 ^ exponent.toNat)
        else if significand % 2 ^ (-exponent).toNat = 0 then some (significand / 2 ^ (-exponent).toNat)
        else none : Option Nat).map fun size : Nat => if negative then -(size : Int) else size := by
  unfold toWhole?
  dsimp only
  by_cases up : 0 ≤ exponent
  · simp only [if_pos up]
    rfl
  by_cases divides : significand % Nat.pow 2 (-exponent).toNat = 0
  · simp only [if_neg up, if_pos divides, ← Nat.pow_eq]
    rfl
  · simp only [if_neg up, if_neg divides, ← Nat.pow_eq]
    rfl

/-- **The whole number of a double** is its value. -/
theorem toWhole?_eq_some {negative : Bool} {significand : Nat} {exponent whole : Int} :
    toWhole? (.finite negative significand exponent) = some whole ↔
      fraction negative significand exponent = whole := by
  -- The magnitude is that of the value, and the sign is put to it.
  have signed : ∀ size : ℕ, (if negative then -(size : Int) else size : Int) = whole ↔
      signFactor negative * size = whole := by
    intro size
    rw [← Int.cast_inj (α := ℚ)]
    cases negative <;> simp [signFactor]
  rw [fraction, mul_assoc, ← signFactor, toWhole?_finite, Option.map_eq_some_iff]
  split
  · next up =>
    obtain ⟨steps, rfl⟩ := Int.eq_ofNat_of_zero_le up
    simp only [Option.some.injEq, exists_eq_left', signed, Int.toNat_natCast, zpow_natCast]
    push_cast
    rfl
  next down =>
  obtain ⟨steps, isSteps⟩ := Int.eq_ofNat_of_zero_le (by omega : 0 ≤ -exponent)
  obtain rfl : exponent = -(steps : Int) := by omega
  rw [isSteps, Int.toNat_natCast, zpow_neg, zpow_natCast, ← div_eq_mul_inv]
  have unit : (2 : ℚ) ^ steps ≠ 0 := by positivity
  split
  · next divides =>
    obtain ⟨size, rfl⟩ := Nat.dvd_of_mod_eq_zero divides
    rw [Nat.mul_div_cancel_left _ (Nat.pow_pos two_pos)]
    simp only [Option.some.injEq, exists_eq_left', signed]
    push_cast
    rw [mul_div_cancel_left₀ _ unit]
  · next remains =>
    simp only [reduceCtorEq, false_and, exists_false, false_iff]
    intro isWhole
    have size : (significand / 2 ^ steps : ℚ) = whole.natAbs := by
      have sizes := congrArg abs isWhole
      rw [abs_signFactor_mul, abs_of_nonneg (by positivity)] at sizes
      rw [sizes, Nat.cast_natAbs, Int.cast_abs]
    rw [div_eq_iff unit, mul_comm] at size
    exact remains (Nat.mod_eq_zero_of_dvd ⟨whole.natAbs, by exact_mod_cast size⟩)

end Binary64

end ScatterGather
