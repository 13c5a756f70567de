/-
**Numbers in decimal text.**

* `Whole.digits?`: the value of a non-empty string of decimal digits;
* `Whole.signed?`: the same with an optional sign in front;
* `Whole.int64?`, `Whole.uint64?`: the readings that fit 64 bits, as key and as row count;
* `Whole.uint64?_toString`, `Whole.int64?_toString`: row counts and keys are read as they are spelled;
* `Decimal`: a sign, a whole coefficient and a power of ten;
* `Decimal.read?`: the numerals `12`, `1.50`, `.5`, `5.`, `1e3`, `-2.5E-7`, and nothing else.
-/

namespace ScatterGather

/-! ### Whole numbers -/

namespace Whole

/-- The value of a decimal digit. -/
def digit? (c : Char) : Option Nat :=
  if c.isDigit then some (c.toNat - 0x30) else none

/-- The value of decimal digits that continue a number already read. -/
def digitsFrom? (value : Nat) : List Char → Option Nat
  | [] => some value
  | c :: rest =>
    match digit? c with
    | some d => digitsFrom? (10 * value + d) rest
    | none => none

/-- The value of a non-empty string of decimal digits. -/
def digits? : List Char → Option Nat
  | [] => none
  | chars => digitsFrom? 0 chars

/-- A sign, if one is written, and the characters after it; `true` stands for minus. -/
def splitSign : List Char → Bool × List Char
  | '-' :: rest => (true, rest)
  | '+' :: rest => (false, rest)
  | chars => (false, chars)

/-- The value of decimal digits with an optional sign. -/
def signed? (chars : List Char) : Option Int :=
  let (negative, body) := splitSign chars
  (digits? body).map fun value => if negative then -(value : Int) else value

/-- A signed number that fits 64 bits. -/
def int64? (chars : List Char) : Option Int64 :=
  (signed? chars).bind fun value =>
    if -0x8000000000000000 ≤ value ∧ value < 0x8000000000000000 then some (Int64.ofInt value) else none

/-- An unsigned number that fits 64 bits. A plus sign may precede it, a minus sign may not. -/
def uint64? (chars : List Char) : Option Nat :=
  let (negative, body) := splitSign chars
  if negative then none
  else (digits? body).bind fun value => if value < 0x10000000000000000 then some value else none

/-- Digits continue a number by the number that they spell. -/
theorem digitsFrom?_eq_some {chars : List Char} (digits : ∀ c ∈ chars, c.isDigit = true)
    (value : Nat) : digitsFrom? value chars = some (Nat.ofDigitChars 10 chars value) := by
  induction chars generalizing value with
  | nil => rfl
  | cons c rest ih =>
    have first : digit? c = some (c.toNat - 0x30) := if_pos (digits c List.mem_cons_self)
    simp only [digitsFrom?, first]
    exact ih (fun other inside => digits other (List.mem_cons_of_mem _ inside)) _

theorem splitSign_of_isDigit {chars : List Char} (digits : ∀ c ∈ chars, c.isDigit = true) :
    splitSign chars = (false, chars) := by
  unfold splitSign
  split
  · exact absurd (digits _ List.mem_cons_self) (by decide)
  · exact absurd (digits _ List.mem_cons_self) (by decide)
  · rfl

theorem isDigit_of_toDigits (value : Nat) : ∀ c ∈ Nat.toDigits 10 value, c.isDigit = true :=
  fun _ inside => Nat.isDigit_of_mem_toDigits (by decide) (by decide) inside

theorem digits?_toDigits (value : Nat) : digits? (Nat.toDigits 10 value) = some value := by
  unfold digits?
  split
  · next none => exact absurd none Nat.toDigits_ne_nil
  · rw [digitsFrom?_eq_some (isDigit_of_toDigits value), Nat.ofDigitChars_ten_toDigits]

/-- **A row count is read as it is spelled**, if it fits. -/
theorem uint64?_toString {value : Nat} (fits : value < 0x10000000000000000) :
    uint64? (toString value).toList = some value := by
  rw [Nat.toString_eq_repr, Nat.toList_repr, uint64?, splitSign_of_isDigit (isDigit_of_toDigits value)]
  show (if false = true then none else (digits? (Nat.toDigits 10 value)).bind _) = _
  rw [if_neg Bool.false_ne_true, digits?_toDigits, Option.bind_some, if_pos fits]

theorem signed?_toString (value : Int) : signed? (toString value).toList = some value := by
  cases value with
  | ofNat size =>
    show signed? (Nat.repr size).toList = _
    rw [Nat.toList_repr, signed?, splitSign_of_isDigit (isDigit_of_toDigits size)]
    simp only [digits?_toDigits]
    rfl
  | negSucc size =>
    show signed? ("-" ++ Nat.repr (size + 1)).toList = _
    rw [String.toList_append, Nat.toList_repr]
    show signed? ('-' :: Nat.toDigits 10 (size + 1)) = _
    simp only [signed?, splitSign, digits?_toDigits]
    rfl

/-- **A key is read as it is spelled.** -/
theorem int64?_toString (value : Int64) : int64? (toString value).toList = some value := by
  have fits : -0x8000000000000000 ≤ value.toInt ∧ value.toInt < 0x8000000000000000 :=
    ⟨value.le_toInt, value.toInt_lt⟩
  show (signed? (toString value.toInt).toList).bind _ = _
  rw [signed?_toString, Option.bind_some, if_pos fits, Int64.ofInt_toInt]

end Whole

/-! ### Numerals -/

/-- The number `± coefficient · 10 ^ exponent`. -/
structure Decimal where
  negative : Bool
  coefficient : Nat
  exponent : Int
  deriving DecidableEq, Repr

namespace Decimal

/-- The power of ten that an exponent part adds: nothing, or `e` and a signed whole number. -/
def exponentPart? : List Char → Option Int
  | [] => some 0
  | mark :: rest => if mark == 'e' || mark == 'E' then Whole.signed? rest else none

/-- The whole digits of a numeral, its digits after the point, and the characters that follow. -/
def splitDigits (body : List Char) : List Char × List Char × List Char :=
  let whole := body.takeWhile Char.isDigit
  match body.dropWhile Char.isDigit with
  | '.' :: rest => (whole, rest.takeWhile Char.isDigit, rest.dropWhile Char.isDigit)
  | rest => (whole, [], rest)

/-- The value of an unsigned numeral: at least one digit before or after the point. -/
def readBody? (negative : Bool) (body : List Char) : Option Decimal :=
  let (whole, fraction, rest) := splitDigits body
  (Whole.digits? (whole ++ fraction)).bind fun coefficient =>
    (exponentPart? rest).map fun exponent =>
      ⟨negative, coefficient, exponent - fraction.length⟩

/-- The value of a numeral with an optional sign. -/
def read? (chars : List Char) : Option Decimal :=
  let (negative, body) := Whole.splitSign chars
  readBody? negative body

end Decimal

end ScatterGather
