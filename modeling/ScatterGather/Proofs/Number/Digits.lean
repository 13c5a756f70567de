/-
**Digits and the numbers that they spell.**

* `digits?_eq_some`, `signed?_eq_some`, `int64?_eq_some`: what is read as a number is digits, and a sign
  before them if there is one; the number is that of the digits;
* `toDigits_ofDigitChars` — digits are **the spelling of their number**, unless zeros stand before others of
  them (`Unpadded`), which is so in no spelling of a number;
* `Plain`, `plain_iff` — a text that is read as a whole number is **the spelling of that number** exactly if
  it has no plus sign, no zeros before other digits, and no minus sign before zero.
-/
import ScatterGather.Number.Decimal
import Mathlib.Data.List.Induction

namespace ScatterGather.Whole

/-! ### What is read -/

theorem isDigit_of_digitsFrom? {value result : Nat} {chars : List Char}
    (read : digitsFrom? value chars = some result) : ∀ c ∈ chars, c.isDigit = true := by
  induction chars generalizing value with
  | nil => exact nofun
  | cons c rest ih =>
    rw [digitsFrom?] at read
    cases digit : digit? c with
    | none =>
      rw [digit] at read
      cases read
    | some d =>
      rw [digit] at read
      refine List.forall_mem_cons.mpr ⟨?_, ih read⟩
      by_contra other
      rw [digit?, if_neg other] at digit
      cases digit

/-- **A number is read** from digits, of which there is at least one. -/
theorem digits?_eq_some {chars : List Char} {value : Nat} : digits? chars = some value ↔
    chars ≠ [] ∧ (∀ c ∈ chars, c.isDigit = true) ∧ Nat.ofDigitChars 10 chars 0 = value := by
  cases chars with
  | nil => exact ⟨nofun, fun ⟨filled, _⟩ => absurd rfl filled⟩
  | cons c rest =>
    show digitsFrom? 0 (c :: rest) = some value ↔ _
    constructor
    · intro read
      have digits := isDigit_of_digitsFrom? read
      rw [digitsFrom?_eq_some digits] at read
      exact ⟨List.cons_ne_nil c rest, digits, Option.some.inj read⟩
    · rintro ⟨-, digits, rfl⟩
      exact digitsFrom?_eq_some digits 0

/-- A number with a sign before it, if there is one. -/
def withSign (negative : Bool) (size : Nat) : Int :=
  if negative then -(size : Int) else size

theorem signed?_eq_some {chars : List Char} {value : Int} : signed? chars = some value ↔
    ∃ size, digits? (splitSign chars).2 = some size ∧ withSign (splitSign chars).1 size = value := by
  have given : signed? chars =
      (digits? (splitSign chars).2).map fun size => withSign (splitSign chars).1 size := by
    unfold signed?
    rcases splitSign chars with ⟨negative, body⟩
    dsimp only
    cases digits? body <;> rfl
  rw [given, Option.map_eq_some_iff]

/-- A number that fits 64 bits is read as such. -/
theorem int64?_eq_some {chars : List Char} {value : Int64} :
    int64? chars = some value ↔ signed? chars = some value.toInt := by
  unfold int64?
  rw [Option.bind_eq_some_iff]
  constructor
  · rintro ⟨whole, read, given⟩
    split at given
    · next fits =>
      obtain rfl := Option.some.inj given
      rwa [Int64.toInt_ofInt_of_le fits.1 fits.2]
    · cases given
  · intro read
    refine ⟨value.toInt, read, ?_⟩
    rw [if_pos ⟨value.le_toInt, value.toInt_lt⟩, Int64.ofInt_toInt]

/-! ### Spellings -/

/-- No zero stands before other digits. -/
def Unpadded (digits : List Char) : Prop :=
  digits.head? = some '0' → digits = ['0']

instance (digits : List Char) : Decidable (Unpadded digits) :=
  inferInstanceAs (Decidable (_ → _))

theorem digitChar_of_isDigit {c : Char} (digit : c.isDigit = true) :
    (c.toNat - '0'.toNat).digitChar = c ∧ c.toNat - '0'.toNat < 10 := by
  have bounds : 48 ≤ c.toNat ∧ c.toNat ≤ 57 := by
    simpa [Char.isDigit, UInt32.le_iff_toNat_le] using digit
  have each : ∀ point ≤ 57, 48 ≤ point →
      (point - '0'.toNat).digitChar = Char.ofNat point ∧ point - '0'.toNat < 10 := by
    decide
  rw [← Char.ofNat_toNat c]
  simpa using each c.toNat bounds.2 bounds.1

/-- **Unpadded digits are the spelling of their number.** -/
theorem toDigits_ofDigitChars {chars : List Char} (filled : chars ≠ [])
    (digits : ∀ c ∈ chars, c.isDigit = true) (unpadded : Unpadded chars) :
    Nat.toDigits 10 (Nat.ofDigitChars 10 chars 0) = chars := by
  induction chars using List.reverseRecOn with
  | nil => exact absurd rfl filled
  | append_singleton before last ih =>
    obtain ⟨spelled, small⟩ := digitChar_of_isDigit (digits last (by simp))
    have single : Nat.toDigits 10 (last.toNat - '0'.toNat) = [last] := by
      rw [Nat.toDigits_of_lt_base small, spelled]
    rw [Nat.ofDigitChars_append, Nat.ofDigitChars_cons, Nat.ofDigitChars_nil]
    by_cases empty : before = []
    · subst empty
      simpa using single
    · -- The digits before the last one are not a zero, so they are the spelling of their number too.
      have notZero : before.head? ≠ some '0' := by
        intro zero
        have alone := unpadded (by rw [List.head?_append, zero, Option.some_or])
        have length := congrArg List.length alone
        rw [List.length_append, List.length_singleton, List.length_singleton] at length
        exact empty (List.eq_nil_of_length_eq_zero (by omega))
      have spelledBefore := ih empty (fun c inside => digits c (List.mem_append_left _ inside))
        (fun zero => absurd zero notZero)
      have positive : 0 < Nat.ofDigitChars 10 before 0 := by
        rcases Nat.eq_zero_or_pos (Nat.ofDigitChars 10 before 0) with zero | positive
        · rw [zero, Nat.toDigits_zero] at spelledBefore
          exact absurd (congrArg List.head? spelledBefore).symm notZero
        · exact positive
      rw [← Nat.toDigits_append_toDigits (by omega) positive small, spelledBefore, single]

/-- Numbers are spelled without zeros before other digits. -/
theorem unpadded_toDigits (value : Nat) : Unpadded (Nat.toDigits 10 value) := by
  intro zero
  induction value using Nat.strongRecOn with
  | ind value ih =>
    rw [Nat.toDigits_eq_if (by omega)] at zero ⊢
    split at zero
    · next small =>
      rw [if_pos small]
      exact congrArg (fun c => [c]) (Option.some.inj zero)
    · next large =>
      rw [List.head?_append, List.head?_eq_some_head Nat.toDigits_ne_nil, Option.some_or,
        ← List.head?_eq_some_head] at zero
      have tens := congrArg (Nat.ofDigitChars 10 · 0) (ih (value / 10) (by omega) zero)
      have none : value / 10 = 0 := Nat.ofDigitChars_ten_toDigits.symm.trans tens
      omega

theorem toList_toString_natCast (size : Nat) : (toString (size : Int)).toList = Nat.toDigits 10 size := by
  show (Nat.repr size).toList = _
  exact Nat.toList_repr

theorem toList_toString_neg {size : Nat} (positive : 0 < size) :
    (toString (-(size : Int))).toList = '-' :: Nat.toDigits 10 size := by
  obtain ⟨less, rfl⟩ := Nat.exists_eq_succ_of_ne_zero (Nat.pos_iff_ne_zero.mp positive)
  show ("-" ++ Nat.repr (less + 1)).toList = _
  rw [String.toList_append, Nat.toList_repr]
  rfl

/-- A text is plain: if it is a whole number, it is so without a plus sign, without zeros before other
digits, and without a minus sign before zero. -/
def Plain : List Char → Prop
  | '-' :: digits => digits.head? ≠ some '0'
  | '+' :: _ => False
  | digits => Unpadded digits

instance (chars : List Char) : Decidable (Plain chars) := by
  unfold Plain
  split <;> infer_instance

/-- **A whole number is plain exactly if it is spelled as numbers are printed.** -/
theorem plain_iff {chars : List Char} {value : Int} (read : signed? chars = some value) :
    Plain chars ↔ chars = (toString value).toList := by
  obtain ⟨size, digits, rfl⟩ := signed?_eq_some.mp read
  obtain ⟨filled, each, number⟩ := digits?_eq_some.mp digits
  unfold Plain
  split
  · next rest =>
    change rest ≠ [] at filled
    change ∀ c ∈ rest, c.isDigit = true at each
    change Nat.ofDigitChars 10 rest 0 = size at number
    change _ ↔ '-' :: rest = (toString (-(size : Int))).toList
    constructor
    · intro notZero
      have spelled := toDigits_ofDigitChars filled each fun zero => absurd zero notZero
      rw [number] at spelled
      have positive : 0 < size := by
        rcases Nat.eq_zero_or_pos size with zero | positive
        · rw [zero, Nat.toDigits_zero] at spelled
          exact absurd (congrArg List.head? spelled).symm notZero
        · exact positive
      rw [toList_toString_neg positive, spelled]
    · intro spelled zero
      rcases Nat.eq_zero_or_pos size with none | positive
      · rw [none] at spelled
        cases spelled
      · rw [toList_toString_neg positive] at spelled
        obtain rfl := List.tail_eq_of_cons_eq spelled
        have alone := unpadded_toDigits size zero
        rw [alone] at number
        exact absurd number (Nat.ne_of_lt positive)
  · next rest =>
    change _ ↔ '+' :: rest = (toString (size : Int)).toList
    refine ⟨False.elim, fun spelled => ?_⟩
    rw [toList_toString_natCast] at spelled
    exact absurd (isDigit_of_toDigits size '+' (spelled ▸ List.mem_cons_self)) (by decide)
  · next noMinus noPlus =>
    have whole : splitSign chars = (false, chars) := by
      unfold splitSign
      split
      · exact absurd rfl (noMinus _)
      · exact absurd rfl (noPlus _)
      · rfl
    rw [whole] at filled each number ⊢
    rw [withSign, if_neg Bool.false_ne_true, toList_toString_natCast]
    constructor
    · intro unpadded
      rw [← number, toDigits_ofDigitChars filled each unpadded]
    · intro spelled
      exact spelled ▸ unpadded_toDigits size

end ScatterGather.Whole
