/-
**Double precision numbers, exactly.**

* `Binary64`: a number `± significand · 2 ^ exponent`, an infinity, or not a number;
* `Binary64.nearest`: the double nearest to a decimal, ties to the even significand;
* `Binary64.times`: the product of two doubles;
* `Binary64.read?`: the double that a text denotes, the names of the infinities and of NaN
  included;
* `Binary64.compare?`: the order of doubles, in which NaN has no place;
* `Binary64.toWhole?`: the value of a double that is a whole number;
* `Scaled`, `Scaled.ofParts`: a whole number of 64 bits and the power of ten that it is scaled by, and a
  numeral by its parts, cut to the digits that fit 64 bits;
* `Scaled.isFinite`: whether such a number is within the range of doubles, the power of ten and the
  product being rounded one after the other. A number below the range counts as zero.

All arithmetic is on natural numbers, so nothing depends on the machine's floating point unit.
-/
import ScatterGather.Number.Decimal

namespace ScatterGather

/-- A double precision number by its value. -/
inductive Binary64 where
  | nan
  | infinite (negative : Bool)
  | finite (negative : Bool) (significand : Nat) (exponent : Int)
  deriving DecidableEq, Repr

namespace Binary64

/-! ### Rounding -/

/-- A quotient rounded to the nearest whole number, a tie to the even one. -/
def roundHalfEven (numerator denominator : Nat) : Nat :=
  let quotient := numerator / denominator
  let twice := 2 * (numerator % denominator)
  if denominator < twice ∨ (twice = denominator ∧ quotient % 2 = 1) then quotient + 1
  else quotient

/-- The fraction `numerator / denominator / 2 ^ exponent`, as numerator and denominator. -/
def scaleBy (numerator denominator : Nat) (exponent : Int) : Nat × Nat :=
  if 0 ≤ exponent then (numerator, denominator * Nat.pow 2 exponent.toNat)
  else (numerator * Nat.pow 2 (-exponent).toNat, denominator)

/-- The exponent at which a positive fraction has a significand of 53 bits, but never less than
that of the smallest double. -/
def exponentFor (numerator denominator : Nat) : Int :=
  let guess : Int := (Nat.log2 numerator : Int) - Nat.log2 denominator - 52
  let (top, bottom) := scaleBy numerator denominator guess
  let exact := if top / bottom < 0x10000000000000 then guess - 1 else guess
  max exact (-1074)

/-- The double nearest to a positive fraction; what rounds beyond the largest double is
infinite. -/
def nearestFraction (negative : Bool) (numerator denominator : Nat) : Binary64 :=
  let exponent := exponentFor numerator denominator
  let (top, bottom) := scaleBy numerator denominator exponent
  let significand := roundHalfEven top bottom
  if 971 < exponent ∨ (exponent = 971 ∧ significand = 0x20000000000000) then .infinite negative
  else .finite negative significand exponent

/-- The number of decimal digits of a coefficient. -/
def width (coefficient : Nat) : Nat :=
  (Nat.toDigits 10 coefficient).length

/-- The double nearest to a decimal. Numbers whose leading digit lies beyond the range of doubles
are settled by their size alone. -/
def nearest (decimal : Decimal) : Binary64 :=
  let magnitude : Int := width decimal.coefficient + decimal.exponent
  if decimal.coefficient = 0 then .finite decimal.negative 0 0
  else if 310 ≤ magnitude then .infinite decimal.negative
  else if magnitude ≤ -324 then .finite decimal.negative 0 0
  else if 0 ≤ decimal.exponent then
    nearestFraction decimal.negative (decimal.coefficient * Nat.pow 10 decimal.exponent.toNat) 1
  else nearestFraction decimal.negative decimal.coefficient (Nat.pow 10 (-decimal.exponent).toNat)

/-! ### Products -/

/-- The product of two doubles, rounded once. -/
def times : Binary64 → Binary64 → Binary64
  | .nan, _ => .nan
  | _, .nan => .nan
  | .infinite left, .infinite right => .infinite (left != right)
  | .infinite left, .finite right significand _ =>
    if significand = 0 then .nan else .infinite (left != right)
  | .finite left significand _, .infinite right =>
    if significand = 0 then .nan else .infinite (left != right)
  | .finite leftSign left leftExp, .finite rightSign right rightExp =>
    let negative := leftSign != rightSign
    let exponent := leftExp + rightExp
    if left * right = 0 then .finite negative 0 0
    else
      nearestFraction negative (left * right * Nat.pow 2 exponent.toNat)
        (Nat.pow 2 (-exponent).toNat)

/-! ### Reading -/

/-- The special values by name, letter case ignored. -/
def named? (negative : Bool) (body : List Char) : Option Binary64 :=
  let name := String.ofList (body.map Char.toLower)
  if name = "inf" ∨ name = "infinity" then some (.infinite negative)
  else if name = "nan" then some .nan
  else none

/-- The double that a text denotes. -/
def read? (chars : List Char) : Option Binary64 :=
  let (negative, body) := Whole.splitSign chars
  match Decimal.readBody? negative body with
  | some decimal => some (nearest decimal)
  | none => named? negative body

/-! ### Order and value -/

/-- The significand of a double, signed and shifted to a common exponent. -/
def shifted (negative : Bool) (significand : Nat) (exponent common : Int) : Int :=
  let size := Int.ofNat (significand * Nat.pow 2 (exponent - common).toNat)
  if negative then -size else size

/-- The order of two doubles by value; nothing where one of them is not a number. -/
def compare? : Binary64 → Binary64 → Option Ordering
  | .nan, _ => none
  | _, .nan => none
  | .infinite left, .infinite right =>
    some (if left = right then .eq else if left then .lt else .gt)
  | .infinite negative, .finite .. => some (if negative then .lt else .gt)
  | .finite .., .infinite negative => some (if negative then .gt else .lt)
  | .finite leftSign left leftExp, .finite rightSign right rightExp =>
    let common := min leftExp rightExp
    some (compare (shifted leftSign left leftExp common) (shifted rightSign right rightExp common))

/-- The value of a double that is a whole number. -/
def toWhole? : Binary64 → Option Int
  | .finite negative significand exponent =>
    let magnitude : Option Nat :=
      if 0 ≤ exponent then some (significand * Nat.pow 2 exponent.toNat)
      else if significand % Nat.pow 2 (-exponent).toNat = 0 then
        some (significand / Nat.pow 2 (-exponent).toNat)
      else none
    magnitude.map fun size => if negative then -(size : Int) else size
  | _ => none

end Binary64

/-! ### Numerals in 64 bits -/

/-- The number `significand · 10 ^ exponent`. -/
structure Scaled where
  significand : Nat
  exponent : Int
  deriving DecidableEq, Repr

namespace Scaled

/-- The number that digits continue as far as it fits 64 bits, and the digits from the first one
with which it would not. -/
def continued (significand : Nat) : List Char → Nat × List Char
  | [] => (significand, [])
  | c :: rest =>
    let next := 10 * significand + ((Whole.digit? c).getD 0)
    if next < 0x10000000000000000 then continued next rest else (significand, c :: rest)

/-- The number of a numeral by its whole digits, the digits behind its point and its exponent. A
whole digit that does not fit counts as a power of ten, a digit behind the point that does not fit
is left out with all that follow it. -/
def ofParts (whole fraction : List Char) (exponent : Int) : Scaled :=
  let (significand, beyond) := continued 0 whole
  let (significand, omitted) := continued significand fraction
  ⟨significand, exponent + beyond.length - (fraction.length - omitted.length : Nat)⟩

/-- The greatest power of ten that is a double. -/
def maxPower : Int := 308

/-- Tells whether the number is within the range of doubles. -/
def isFinite (scaled : Scaled) : Bool :=
  if scaled.significand = 0 ∨ scaled.exponent < 0 then true
  else if maxPower < scaled.exponent then false
  else
    let factor := Binary64.nearest ⟨false, scaled.significand, 0⟩
    let power := Binary64.nearest ⟨false, 1, scaled.exponent⟩
    match Binary64.times factor power with
    | .finite .. => true
    | _ => false

end Scaled

end ScatterGather
