/-
**Numbers in statements, as keys.**

A number that is spelled as a whole number of 64 bits is that key. Any other one is read as a double, and is a
key if the double is a whole number: which it may be where the number itself is none, because it is rounded.

* `ToldApart`: no whole number that a key may be is a double nearest to a number, but the number itself;
* `Numeral.toldApart` — which is so for numerals of **up to fifteen digits**;
* `keyNumber_nearest`: the key of a number **is the number**, or a double nearest to it;
* `keyNumber_whole` — a whole number of up to 53 bits **is one key**, however it is spelled;
* `numbers_bound` — the numbers of a statement are numerals, and their keys **their exact values**, where they
  are digits alone or told apart from whole numbers;
* `seven_mistaken`: which they are not where there are many digits behind the point.
-/
import ScatterGather.Proofs.Sql.Numbers
import ScatterGather.Routing.Bound

namespace ScatterGather

open Sql

/-- A number is told apart from every whole number that a key may be: none is a double nearest to it, but the
one that it is. -/
def ToldApart (value : ℚ) : Prop :=
  ∀ whole : Int, whole.natAbs ≤ maxExact → Binary64.IsNearest value whole → value = whole

/-- Doubles are told apart from whole numbers. -/
theorem toldApart_of_isDouble {value : ℚ} (isDouble : Binary64.IsDouble value) : ToldApart value :=
  fun _ _ nearest => (nearest.eq_of_isDouble isDouble).symm

section Fractions

variable {coefficient places : Nat}

/-- A fraction of three hundred places is none of the numbers that doubles have fewer digits for. -/
theorem least_le_div (some : 0 < coefficient) (near : places ≤ 300) :
    (2 : ℚ) ^ (-1022 : Int) ≤ coefficient / (10 ^ places : Nat) := by
  have unitValue : (0 : ℚ) < (10 ^ places : Nat) := Nat.cast_pos.mpr (Nat.pow_pos (by decide))
  have size : ((10 ^ places : Nat) : ℚ) ≤ 2 ^ (1000 : Int) := by
    calc ((10 ^ places : Nat) : ℚ) = 10 ^ (places : Int) := by
          rw [Nat.cast_pow, Nat.cast_ofNat, zpow_natCast]
      _ ≤ 10 ^ (3 * 100 : Int) := zpow_le_zpow_right₀ (by norm_num) (by omega)
      _ = (10 ^ (3 : Int)) ^ (100 : Int) := zpow_mul _ _ _
      _ ≤ (2 ^ (10 : Int)) ^ (100 : Int) := zpow_le_zpow_left₀ (by decide) (by positivity) (by norm_num)
      _ = 2 ^ (10 * 100 : Int) := (zpow_mul _ _ _).symm
  rw [le_div_iff₀ unitValue]
  calc (2 : ℚ) ^ (-1022 : Int) * (10 ^ places : Nat) ≤ 2 ^ (-1000 : Int) * 2 ^ (1000 : Int) :=
        mul_le_mul (zpow_le_zpow_right₀ one_le_two (by decide)) size unitValue.le (zpow_pos two_pos _).le
    _ = 1 := zpow_neg_mul_zpow_self _ two_ne_zero
    _ ≤ coefficient := by exact_mod_cast some

/-- A fraction of few digits is no more than doubles hold. -/
theorem div_lt_most (few : coefficient < 2 ^ 53) :
    (coefficient / (10 ^ places : Nat) : ℚ) < 2 ^ (1023 : Int) := by
  calc (coefficient / (10 ^ places : Nat) : ℚ) ≤ coefficient :=
        div_le_self (Nat.cast_nonneg _) (by exact_mod_cast Nat.pow_pos (by decide : 0 < 10))
    _ < 2 ^ (53 : Int) := by exact_mod_cast few
    _ ≤ 2 ^ (1023 : Int) := zpow_le_zpow_right₀ one_le_two (by decide)

/-- A fraction of few digits is told apart from whole numbers. -/
theorem toldApart_div (few : coefficient < 2 ^ 53) (near : places ≤ 300) :
    ToldApart (coefficient / (10 ^ places : Nat)) := by
  rcases Nat.eq_zero_or_pos coefficient with rfl | some
  · rw [Nat.cast_zero, zero_div]
    exact toldApart_of_isDouble Binary64.isDouble_zero
  have unit : 0 < 10 ^ places := Nat.pow_pos (by decide)
  have unitValue : (0 : ℚ) < (10 ^ places : Nat) := Nat.cast_pos.mpr unit
  intro whole _ nearest
  by_contra other
  obtain ⟨double, isDouble, close⟩ := Binary64.exists_isDouble_near some unit (least_le_div some near)
    (div_lt_most few)
  have rounded := (nearest.le double isDouble).trans close
  -- Whole numbers are at least one unit of the last place away.
  have apart : (1 : ℚ) ≤ |(coefficient : ℚ) - whole * (10 ^ places : Nat)| := by
    have := Int.one_le_abs (sub_ne_zero.mpr fun same : (coefficient : Int) = whole * (10 ^ places : Nat) =>
      other ((div_eq_iff unitValue.ne').mpr (by exact_mod_cast same)))
    exact_mod_cast this
  have measured : |(coefficient / (10 ^ places : Nat) : ℚ) - whole| * (10 ^ places : Nat) =
      |(coefficient : ℚ) - whole * (10 ^ places : Nat)| := by
    rw [Binary64.abs_sub_mul unitValue, div_mul_cancel₀ _ unitValue.ne']
  have small : |(coefficient / (10 ^ places : Nat) : ℚ) - whole| * (10 ^ places : Nat) < 1 := by
    calc |(coefficient / (10 ^ places : Nat) : ℚ) - whole| * (10 ^ places : Nat)
        ≤ coefficient / (10 ^ places : Nat) / 2 ^ 53 * (10 ^ places : Nat) :=
          mul_le_mul_of_nonneg_right rounded unitValue.le
      _ = coefficient / 2 ^ 53 := by rw [div_right_comm, div_mul_cancel₀ _ unitValue.ne']
      _ < 1 := by
        rw [div_lt_one (by positivity)]
        exact_mod_cast few
  rw [measured] at small
  exact absurd apart (not_le.mpr small)

end Fractions

/-- A whole number of few digits and some zeros is told apart from others. -/
theorem toldApart_mul {coefficient zeros : Nat} (few : coefficient < 2 ^ 53) :
    ToldApart (coefficient * 10 ^ zeros : Nat) := by
  rcases le_or_gt (coefficient * 10 ^ zeros) (2 ^ 53) with small | great
  · exact toldApart_of_isDouble (Binary64.isDouble_intCast (by exact_mod_cast small))
  · -- Beyond 53 bits there is a zero at the end, so that the next double is not exceeded either.
    intro whole bound nearest
    have beyond : (2 ^ 52 + 1) * 2 ≤ coefficient * 10 ^ zeros := by
      cases zeros with
      | zero => omega
      | succ more =>
        rw [pow_succ 10 more, ← mul_assoc coefficient] at great ⊢
        omega
    have isDouble : Binary64.IsDouble ((2 ^ 52 + 1 : Nat) * 2 ^ (1 : Int)) :=
      Binary64.isDouble_of_le (by decide) (by decide) (by decide) (by decide)
    have rounded := nearest.le_of_isDouble isDouble (by exact_mod_cast beyond)
    have least : (2 ^ 52 + 1) * 2 ≤ whole := by exact_mod_cast rounded
    unfold maxExact at bound
    omega

/-- **Numerals of up to fifteen digits are told apart from whole numbers**, if they have no more than three
hundred places. -/
theorem Numeral.toldApart {numeral : Numeral} (few : numeral.decimal.coefficient < 2 ^ 53)
    (near : -300 ≤ numeral.decimal.exponent) : ToldApart numeral.value := by
  rw [← numeral.value_decimal, Decimal.value, signFactor, if_neg (by exact Bool.false_ne_true), one_mul]
  rcases le_or_gt 0 numeral.decimal.exponent with up | down
  · obtain ⟨zeros, isZeros⟩ := Int.eq_ofNat_of_zero_le up
    rw [isZeros, zpow_natCast]
    exact_mod_cast toldApart_mul few
  · rw [← (Binary64.fraction_eq_decimal _ _).2 down]
    exact toldApart_div few (by omega)

/-- A whole number that is read as a double, and then as a key, is not changed. -/
theorem toInt_ofInt_of_natAbs_le {whole : Int} (small : whole.natAbs ≤ maxExact) :
    (Int64.ofInt whole).toInt = whole := by
  unfold maxExact at small
  exact Int64.toInt_ofInt_of_le (by omega) (by omega)

section Numerals

variable (numeral : Numeral)

/-- The key of a numeral that is no whole number of 64 bits is the double nearest to it, if that is whole. -/
theorem keyNumber_of_int64?_eq_none (long : Whole.int64? numeral.chars = none) :
    keyNumber numeral.text = match (Binary64.nearest numeral.decimal).toWhole? with
      | some whole =>
        if whole.natAbs ≤ maxExact then .integer (Int64.ofInt whole) else .text numeral.text
      | none => .text numeral.text := by
  rw [keyNumber, Numeral.toList_text, long, Numeral.read?_chars]
  rfl

/-- The whole number that a numeral is rounded to is a double nearest to it. -/
theorem isNearest_of_toWhole? {whole : Int}
    (rounded : (Binary64.nearest numeral.decimal).toWhole? = some whole) :
    Binary64.IsNearest numeral.value whole := by
  cases double : Binary64.nearest numeral.decimal with
  | nan => rw [double] at rounded; cases rounded
  | infinite negative => rw [double] at rounded; cases rounded
  | finite negative significand exponent =>
    rw [double] at rounded
    have nearest := Binary64.isNearest_nearest double
    rwa [Numeral.value_decimal, Binary64.toWhole?_eq_some.mp rounded] at nearest

/-- **The key of a number is the number**, or a double nearest to it. -/
theorem keyNumber_nearest {key : Int64} (bound : keyNumber numeral.text = .integer key) :
    numeral.value = key.toInt ∨
      Whole.int64? numeral.chars = none ∧ key.toInt.natAbs ≤ maxExact ∧
        Binary64.IsNearest numeral.value key.toInt := by
  cases read : Whole.int64? numeral.chars with
  | some value =>
    rw [keyNumber, Numeral.toList_text, read] at bound
    obtain rfl := KeyValue.integer.inj bound
    exact Or.inl (numeral.signed?_chars.mp (Whole.int64?_eq_some.mp read)).2
  | none =>
    rw [keyNumber_of_int64?_eq_none numeral read] at bound
    split at bound
    · next whole rounded =>
      split at bound
      · next small =>
        obtain rfl := KeyValue.integer.inj bound
        rw [toInt_ofInt_of_natAbs_le small]
        exact Or.inr ⟨rfl, small, isNearest_of_toWhole? numeral rounded⟩
      · cases bound
    · cases bound

/-- Digits alone that are no whole number of 64 bits are too great for a key. -/
theorem not_isNearest_of_isPlain {numeral : Numeral} (plain : numeral.IsPlain)
    (long : Whole.int64? numeral.chars = none) {whole : Int} (small : whole.natAbs ≤ maxExact) :
    ¬Binary64.IsNearest numeral.value whole := by
  intro nearest
  have read := numeral.signed?_chars.mpr ⟨plain, Numeral.value_of_isPlain plain⟩
  rw [Whole.int64?, read, Option.bind_some] at long
  split at long
  · cases long
  next great =>
  have atLeast : (2 : ℚ) ^ 53 * 2 ^ (10 : Int) ≤ numeral.value := by
    have size : 2 ^ 53 * 2 ^ 10 ≤ Nat.ofDigitChars 10 numeral.chars 0 := by
      omega
    rw [Numeral.value_of_isPlain plain]
    exact_mod_cast size
  have isDouble : Binary64.IsDouble ((2 ^ 53 : Nat) * 2 ^ (10 : Int)) :=
    Binary64.isDouble_of_le le_rfl (by decide) (by decide) (by decide)
  have rounded := nearest.le_of_isDouble isDouble (by exact_mod_cast atLeast)
  have least : 2 ^ 53 * 2 ^ 10 ≤ whole := by exact_mod_cast rounded
  unfold maxExact at small
  omega

/-- **A whole number of up to 53 bits is one key**, however it is spelled. -/
theorem keyNumber_whole {numeral : Numeral} {whole : Int} (small : whole.natAbs ≤ maxExact)
    (same : numeral.value = whole) : keyNumber numeral.text = .integer (Int64.ofInt whole) := by
  cases read : Whole.int64? numeral.chars with
  | some value =>
    have isValue := (numeral.signed?_chars.mp (Whole.int64?_eq_some.mp read)).2
    obtain rfl : whole = value.toInt := by exact_mod_cast same.symm.trans isValue
    rw [keyNumber, Numeral.toList_text, read, Int64.ofInt_toInt]
  | none =>
    have isDouble := Binary64.isDouble_intCast (small : whole.natAbs ≤ 2 ^ 53)
    have within : |numeral.decimal.value| < 2 ^ (1023 : Int) := by
      rw [Numeral.value_decimal, same, ← Int.cast_abs, Int.abs_eq_natAbs, Int.cast_natCast]
      calc (whole.natAbs : ℚ) ≤ 2 ^ (53 : Int) := by exact_mod_cast small
        _ < 2 ^ (1023 : Int) := zpow_lt_zpow_right₀ one_lt_two (by norm_num)
    obtain ⟨negative, significand, exponent, double⟩ := Binary64.nearest_finite within
    have nearest := Binary64.isNearest_nearest double
    rw [Numeral.value_decimal, same] at nearest
    have exact := nearest.eq_of_isDouble isDouble
    rw [keyNumber_of_int64?_eq_none numeral read, double, Binary64.toWhole?_eq_some.mpr exact]
    exact if_pos small

end Numerals

/-- **The numbers of a statement are bound as what they are.** Every number of a text is a numeral. If its key
is a whole number, the numeral is that number, provided that it is digits alone or told apart from whole
numbers; and if the numeral is a whole number of up to 53 bits, it has the key of that number, as any other
numeral for it. -/
theorem numbers_bound {chars : List Char} {tokens : List Token} (scanned : Token.scan chars = .ok tokens)
    {digits : String} {long : Bool} (inside : Token.number digits long ∈ tokens) :
    (∃ numeral : Numeral, numeral.text = digits) ∧ ∀ numeral : Numeral, numeral.text = digits →
      (∀ key, keyNumber digits = .integer key → numeral.IsPlain ∨ ToldApart numeral.value →
        numeral.value = key.toInt) ∧
      ∀ whole : Int, whole.natAbs ≤ maxExact → numeral.value = whole →
        keyNumber digits = .integer (Int64.ofInt whole) ∧
          ∀ other : Numeral, other.value = whole → keyNumber other.text = keyNumber digits := by
  refine ⟨Token.isNumeral_scan scanned _ inside, ?_⟩
  rintro numeral rfl
  refine ⟨fun key bound apart => ?_, fun whole small same => ?_⟩
  · rcases keyNumber_nearest numeral bound with same | ⟨beyond, small, nearest⟩
    · exact same
    rcases apart with plain | apart
    · exact absurd nearest (not_isNearest_of_isPlain plain beyond small)
    · exact apart _ small nearest
  · have bound := keyNumber_whole small same
    exact ⟨bound, fun other sameOther => (keyNumber_whole small sameOther).trans bound.symm⟩

/-- Twelve hundred is one key, with a power of ten and without. -/
theorem twelve_hundred_bound :
    let numeral : Numeral :=
      ⟨['1'], some ['2', '0'],
        some ⟨'e', none, ['3'], Or.inl rfl, nofun, List.cons_ne_nil _ _, List.all_eq_true.mp rfl⟩,
        List.all_eq_true.mp rfl, List.all_eq_true.mp rfl, List.cons_ne_nil _ _⟩
    let other : Numeral :=
      ⟨['1', '2', '0', '0'], none, none, List.all_eq_true.mp rfl, nofun, List.cons_ne_nil _ _⟩
    Token.scan "id = 1.20e3".toList =
        .ok [.word ⟨"id", none⟩ "ID", .symbol "=", .number numeral.text false] ∧
      keyNumber numeral.text = .integer 1200 ∧ ToldApart numeral.value ∧ numeral.value = 1200 ∧
        keyNumber other.text = keyNumber numeral.text := by
  intro numeral other
  have scanned : Token.scan "id = 1.20e3".toList =
      .ok [.word ⟨"id", none⟩ "ID", .symbol "=", .number numeral.text false] := by decide +kernel
  have bound : keyNumber numeral.text = .integer 1200 := by decide +kernel
  have apart : ToldApart numeral.value := Numeral.toldApart (by decide +kernel) (by decide +kernel)
  have sameOther : other.value = (1200 : Int) := by decide +kernel
  have inside : Token.number numeral.text false ∈
      [.word ⟨"id", none⟩ "ID", .symbol "=", .number numeral.text false] := by simp
  obtain ⟨exact, alike⟩ := (numbers_bound scanned inside).2 numeral rfl
  have same : numeral.value = (1200 : Int) := exact 1200 bound (Or.inr apart)
  exact ⟨scanned, bound, apart, same, (alike 1200 (by decide) same).2 other sameOther⟩

/-- **A number that is hardly more than seven is the key seven.** -/
theorem seven_mistaken :
    let numeral : Numeral :=
      ⟨['7'], some "00000000000000000001".toList, none, List.all_eq_true.mp rfl, List.all_eq_true.mp rfl,
        List.cons_ne_nil _ _⟩
    Token.scan "7.00000000000000000001".toList = .ok [.number numeral.text false] ∧
      keyNumber numeral.text = .integer 7 ∧ numeral.value ≠ 7 := by
  decide +kernel

/-- With a point behind it, the number after all those of 53 bits is the key before it. -/
example : keyNumber "9007199254740993" = .integer 9007199254740993 ∧
    keyNumber "9007199254740993.0" = .integer 9007199254740992 := by
  decide +kernel

end ScatterGather
