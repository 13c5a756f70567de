/-
**Numerals by their parts.**

A numeral is digits, with a point among them or at an end of them, and a power of ten behind them, or without
these:

* `Power`, `Numeral`: the parts of a numeral, and `Numeral.chars` its characters;
* `Numeral.value`: the number that its digits are, **by the place in which each of them stands**;
* `readBody?_chars`, `value_decimal` — a numeral is read **as the decimal that it is**, and no digit is lost;
* `signed?_chars` — it is read as a whole number exactly if it is **digits alone**, and is that number.
-/
import ScatterGather.Proofs.Number.Digits
import ScatterGather.Proofs.Number.Nearest

namespace ScatterGather

/-! ### Parts -/

/-- The power of ten behind a numeral: its mark, its sign if there is one, and its digits. -/
structure Power where
  mark : Char
  sign : Option Char
  digits : List Char
  isMark : mark = 'e' ∨ mark = 'E'
  isSign : ∀ c ∈ sign, c = '+' ∨ c = '-'
  filled : digits ≠ []
  isDigits : ∀ c ∈ digits, c.isDigit = true

namespace Power

/-- The characters of a power of ten. -/
def chars (power : Power) : List Char :=
  power.mark :: (power.sign.toList ++ power.digits)

/-- The power of ten that is meant. -/
def value (power : Power) : Int :=
  Whole.withSign (power.sign == some '-') (Nat.ofDigitChars 10 power.digits 0)

end Power

/-- A numeral: the digits before its point, those behind the point if there is one, and the power of ten. -/
structure Numeral where
  whole : List Char
  fraction : Option (List Char)
  power : Option Power
  isWhole : ∀ c ∈ whole, c.isDigit = true
  isFraction : ∀ c ∈ fraction.getD [], c.isDigit = true
  filled : whole ++ fraction.getD [] ≠ []

namespace Numeral

/-- The characters of a numeral. -/
def chars (numeral : Numeral) : List Char :=
  numeral.whole ++ (numeral.fraction.elim [] ('.' :: ·) ++ numeral.power.elim [] Power.chars)

/-- The text of a numeral. -/
def text (numeral : Numeral) : String :=
  String.ofList numeral.chars

theorem toList_text (numeral : Numeral) : numeral.text.toList = numeral.chars :=
  String.toList_ofList

/-- The number that a numeral is: its digits before the point and those behind it, times a power of ten. -/
def value (numeral : Numeral) : ℚ :=
  let places := numeral.fraction.getD []
  (Nat.ofDigitChars 10 numeral.whole 0 + Nat.ofDigitChars 10 places 0 / 10 ^ places.length) *
    10 ^ numeral.power.elim 0 Power.value

/-- A numeral is digits alone, without a point and a power of ten. -/
def IsPlain (numeral : Numeral) : Prop :=
  numeral.fraction = none ∧ numeral.power = none

/-- The decimal that a numeral is read as. -/
def decimal (numeral : Numeral) : Decimal :=
  let places := numeral.fraction.getD []
  ⟨false, Nat.ofDigitChars 10 (numeral.whole ++ places) 0, numeral.power.elim 0 Power.value - places.length⟩

variable (numeral : Numeral)

/-- **The decimal that is read is the number.** -/
theorem value_decimal : numeral.decimal.value = numeral.value := by
  have ten : (10 : ℚ) ≠ 0 := by norm_num
  rw [Decimal.value, decimal, value]
  dsimp only
  rw [signFactor, if_neg Bool.false_ne_true, one_mul, Nat.ofDigitChars_append,
    Nat.ofDigitChars_eq_ofDigitChars_zero, zpow_sub₀ ten, zpow_natCast]
  push_cast
  field_simp

/-! ### Reading -/

/-- What follows the digits of a numeral begins with no digit. -/
theorem head_of_power {c : Char} {rest : List Char}
    (follows : numeral.power.elim [] Power.chars = c :: rest) : c = 'e' ∨ c = 'E' := by
  cases power : numeral.power with
  | none =>
    rw [power] at follows
    cases follows
  | some own =>
    rw [power] at follows
    obtain rfl : own.mark = c := (List.cons.inj follows).1
    exact own.isMark

theorem takeWhile_digits {digits rest : List Char} (isDigits : ∀ c ∈ digits, c.isDigit = true)
    (follows : ∀ c ∈ rest.head?, c.isDigit = false) :
    (digits ++ rest).takeWhile Char.isDigit = digits ∧ (digits ++ rest).dropWhile Char.isDigit = rest := by
  rw [List.takeWhile_append_of_pos isDigits, List.dropWhile_append_of_pos isDigits]
  cases rest with
  | nil => exact ⟨List.append_nil _, rfl⟩
  | cons c rest =>
    have other := follows c rfl
    rw [List.takeWhile_cons_of_neg (by rw [other]; exact Bool.false_ne_true),
      List.dropWhile_cons_of_neg (by rw [other]; exact Bool.false_ne_true)]
    exact ⟨List.append_nil _, rfl⟩

theorem not_isDigit_power : ∀ c ∈ (numeral.power.elim [] Power.chars).head?, c.isDigit = false := by
  intro c first
  obtain ⟨rest, follows⟩ := List.head?_eq_some_iff.mp first
  rcases numeral.head_of_power follows with rfl | rfl <;> decide

theorem splitDigits_chars : Decimal.splitDigits numeral.chars =
    (numeral.whole, numeral.fraction.getD [], numeral.power.elim [] Power.chars) := by
  rw [Decimal.splitDigits, chars]
  cases fraction : numeral.fraction with
  | none =>
    obtain ⟨digits, rest⟩ := takeWhile_digits numeral.isWhole numeral.not_isDigit_power
    simp only [Option.elim_none, List.nil_append, digits, rest]
    split
    · next after point =>
      rcases numeral.head_of_power point with mark | mark <;> cases mark
    · rfl
  | some places =>
    have isPlaces := numeral.isFraction
    rw [fraction] at isPlaces
    have point : ∀ c ∈ ('.' :: (places ++ numeral.power.elim [] Power.chars)).head?, c.isDigit = false :=
      fun c first => Option.some.inj first ▸ rfl
    obtain ⟨digits, rest⟩ := takeWhile_digits numeral.isWhole point
    obtain ⟨digitsBehind, restBehind⟩ := takeWhile_digits isPlaces numeral.not_isDigit_power
    simp only [Option.getD_some] at digitsBehind restBehind
    simp only [Option.elim_some, List.cons_append, digits, rest, digitsBehind, restBehind, Option.getD_some]

theorem exponentPart?_chars : Decimal.exponentPart? (numeral.power.elim [] Power.chars) =
    some (numeral.power.elim 0 Power.value) := by
  cases numeral.power with
  | none => rfl
  | some power =>
    have marked : (power.mark == 'e' || power.mark == 'E') = true := by
      rcases power.isMark with mark | mark <;> rw [mark] <;> rfl
    have digits : Whole.digits? power.digits = some (Nat.ofDigitChars 10 power.digits 0) :=
      Whole.digits?_eq_some.mpr ⟨power.filled, power.isDigits, rfl⟩
    show (if _ then Whole.signed? (power.sign.toList ++ power.digits) else none) = some power.value
    rw [if_pos marked, Whole.signed?_eq_some, Power.value]
    cases sign : power.sign with
    | none =>
      rw [Option.toList_none, List.nil_append, Whole.splitSign_of_isDigit power.isDigits]
      exact ⟨_, digits, rfl⟩
    | some c =>
      rcases power.isSign c sign with rfl | rfl <;> exact ⟨_, digits, rfl⟩

/-- A numeral begins with a digit or a point. -/
theorem exists_chars_eq : ∃ c rest, numeral.chars = c :: rest ∧ (c.isDigit = true ∨ c = '.') := by
  rw [chars]
  cases digits : numeral.whole with
  | cons digit rest =>
    exact ⟨digit, _, rfl, Or.inl (numeral.isWhole digit (digits ▸ List.mem_cons_self))⟩
  | nil =>
    have filled := numeral.filled
    cases fraction : numeral.fraction with
    | none =>
      rw [digits, fraction] at filled
      exact absurd rfl filled
    | some places => exact ⟨'.', _, rfl, Or.inr rfl⟩

/-- No sign is read before a numeral. -/
theorem splitSign_chars : Whole.splitSign numeral.chars = (false, numeral.chars) := by
  obtain ⟨c, rest, isChars, first⟩ := numeral.exists_chars_eq
  rw [isChars]
  unfold Whole.splitSign
  split
  · next minus =>
    obtain rfl := (List.cons.inj minus).1
    rcases first with first | first <;> cases first
  · next plus =>
    obtain rfl := (List.cons.inj plus).1
    rcases first with first | first <;> cases first
  · rfl

/-- **A numeral is read as the decimal that it is.** -/
theorem readBody?_chars (negative : Bool) :
    Decimal.readBody? negative numeral.chars = some { numeral.decimal with negative } := by
  have digits : Whole.digits? (numeral.whole ++ numeral.fraction.getD []) =
      some (Nat.ofDigitChars 10 (numeral.whole ++ numeral.fraction.getD []) 0) := by
    refine Whole.digits?_eq_some.mpr ⟨numeral.filled, fun c inside => ?_, rfl⟩
    rcases List.mem_append.mp inside with inWhole | inFraction
    · exact numeral.isWhole c inWhole
    · exact numeral.isFraction c inFraction
  rw [Decimal.readBody?, splitDigits_chars]
  simp only [digits, exponentPart?_chars, Option.bind_some, Option.map_some]
  rfl

/-- As a double a numeral is the one nearest to it. -/
theorem read?_chars : Binary64.read? numeral.chars = some (Binary64.nearest numeral.decimal) := by
  rw [Binary64.read?, splitSign_chars]
  simp only [readBody?_chars]
  rfl

/-- The characters of a numeral are digits exactly if it is digits alone. -/
theorem isDigit_chars_iff : (∀ c ∈ numeral.chars, c.isDigit = true) ↔ numeral.IsPlain := by
  constructor
  · intro digits
    constructor
    · cases fraction : numeral.fraction with
      | none => rfl
      | some places =>
        have point := digits '.' (by simp [chars, fraction])
        cases point
    · cases power : numeral.power with
      | none => rfl
      | some own =>
        have mark := digits own.mark (by simp [chars, power, Power.chars])
        rcases own.isMark with isMark | isMark <;> rw [isMark] at mark <;> cases mark
  · rintro ⟨noFraction, noPower⟩
    rw [chars, noFraction, noPower, Option.elim_none, Option.elim_none, List.append_nil, List.append_nil]
    exact numeral.isWhole

/-- The value of digits alone is the number that they spell. -/
theorem value_of_isPlain {numeral : Numeral} (plain : numeral.IsPlain) :
    numeral.value = Nat.ofDigitChars 10 numeral.chars 0 := by
  obtain ⟨noFraction, noPower⟩ := plain
  simp [value, chars, noFraction, noPower]

/-- **A numeral that is read as a whole number** is digits alone, and is that number. -/
theorem signed?_chars {whole : Int} :
    Whole.signed? numeral.chars = some whole ↔ numeral.IsPlain ∧ numeral.value = whole := by
  have filled : numeral.chars ≠ [] := by
    obtain ⟨c, rest, isChars, -⟩ := numeral.exists_chars_eq
    rw [isChars]
    exact List.cons_ne_nil c rest
  rw [Whole.signed?_eq_some, splitSign_chars, ← isDigit_chars_iff]
  dsimp only
  constructor
  · rintro ⟨size, digits, rfl⟩
    obtain ⟨-, isDigits, rfl⟩ := Whole.digits?_eq_some.mp digits
    refine ⟨isDigits, ?_⟩
    rw [value_of_isPlain (numeral.isDigit_chars_iff.mp isDigits)]
    rfl
  · rintro ⟨isDigits, same⟩
    refine ⟨_, Whole.digits?_eq_some.mpr ⟨filled, isDigits, rfl⟩, ?_⟩
    rw [value_of_isPlain (numeral.isDigit_chars_iff.mp isDigits)] at same
    exact_mod_cast same

end Numeral

/-- Digits alone are read as their number. -/
theorem readBody?_of_digits {body : List Char} {size : Nat} (digits : Whole.digits? body = some size)
    (negative : Bool) : Decimal.readBody? negative body = some ⟨negative, size, 0⟩ := by
  obtain ⟨filled, isDigits, rfl⟩ := Whole.digits?_eq_some.mp digits
  let numeral : Numeral := ⟨body, none, none, isDigits, nofun, by rwa [Option.getD_none, List.append_nil]⟩
  have alone : numeral.chars = body := List.append_nil body
  have read := numeral.readBody?_chars negative
  rw [alone] at read
  rw [read, Numeral.decimal]
  simp [numeral]

end ScatterGather
