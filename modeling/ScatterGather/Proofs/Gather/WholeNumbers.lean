/-
**Columns of whole numbers.**

The texts of a column of whole numbers are compared as the doubles that the numbers are rounded to. Up to 53
bits each number is a double of its own; of greater ones several may be rounded to the same double, and are then
not told apart:

* `Binary64.ofInt`, `rank_ofInt_mono` — the doubles of whole numbers are **in their order**, not strictly;
* `whole?`, `whole?_encode`, `SortKey.wholeAt`: the whole number that a cell spells, as it does if it is printed
  there; NULL is less than all of them;
* `SortKey.compare_eq_doubles` — rows of whole numbers are compared **by their doubles**;
* `SortKey.Collide`, `SortKey.not_collide_of_small`: rows of different numbers with the same double, which
  have more than 53 bits;
* `whole_numbers_sorted` — rows are taken **in the order of the whole numbers**, those of the same number as
  they came, if no two rows collide; and else no rows but colliding ones are out of order;
* `great_numbers_misplaced`: two rows that collide, the greater number first.
-/
import ScatterGather.Proofs.Gather.Comparison
import ScatterGather.Proofs.Number.Numeral
import ScatterGather.Proofs.Text.Encoded
import Mathlib.Data.Int.ConditionallyCompleteOrder

namespace ScatterGather

open Wire

/-! ### Whole numbers as doubles -/

namespace Binary64

/-- The double that a whole number is rounded to. -/
def ofInt (whole : Int) : Binary64 :=
  nearest ⟨decide (whole < 0), whole.natAbs, 0⟩

theorem value_decimal_ofInt (whole : Int) :
    (Decimal.mk (decide (whole < 0)) whole.natAbs 0).value = whole := by
  rw [Decimal.value]
  dsimp only
  rw [zpow_zero, mul_one, signFactor]
  by_cases negative : whole < 0
  · rw [if_pos (decide_eq_true negative), Nat.cast_natAbs, abs_of_neg negative]
    push_cast
    ring
  · rw [if_neg (by rw [decide_eq_false negative]; exact Bool.false_ne_true), Nat.cast_natAbs,
      abs_of_nonneg (not_lt.mp negative), one_mul]

/-- A whole number of 64 bits is rounded to a nearest double. -/
theorem exists_rank_ofInt {whole : Int} (fits : whole.natAbs ≤ 2 ^ 64) :
    ∃ double : ℚ, IsNearest whole double ∧
      (ofInt whole).rank = ((double : WithTop ℚ) : WithBot (WithTop ℚ)) := by
  have within : |(Decimal.mk (decide (whole < 0)) whole.natAbs 0).value| < 2 ^ (1023 : Int) := by
    rw [value_decimal_ofInt, ← Int.cast_abs, Int.abs_eq_natAbs, Int.cast_natCast]
    calc (whole.natAbs : ℚ) ≤ 2 ^ (64 : Int) := by exact_mod_cast fits
      _ < 2 ^ (1023 : Int) := zpow_lt_zpow_right₀ one_lt_two (by norm_num)
  obtain ⟨negative, significand, exponent, double⟩ := nearest_finite within
  have nearest := isNearest_nearest double
  rw [value_decimal_ofInt] at nearest
  exact ⟨_, nearest, by rw [ofInt, double, rank]⟩

/-- **Doubles of whole numbers are in their order.** -/
theorem rank_ofInt_mono {left right : Int} (fitsLeft : left.natAbs ≤ 2 ^ 64)
    (fitsRight : right.natAbs ≤ 2 ^ 64) (le : left ≤ right) : (ofInt left).rank ≤ (ofInt right).rank := by
  rcases le.lt_or_eq with less | rfl
  · obtain ⟨double, nearest, isDouble⟩ := exists_rank_ofInt fitsLeft
    obtain ⟨other, nearestOther, isOther⟩ := exists_rank_ofInt fitsRight
    rw [isDouble, isOther, WithBot.coe_le_coe, WithTop.coe_le_coe]
    exact nearest.mono nearestOther (Int.cast_lt.mpr less)
  · exact le_rfl

/-- Whole numbers of up to 53 bits are doubles of their own. -/
theorem rank_ofInt {whole : Int} (small : whole.natAbs ≤ 2 ^ 53) :
    (ofInt whole).rank = (((whole : ℚ) : WithTop ℚ) : WithBot (WithTop ℚ)) := by
  obtain ⟨double, nearest, isDouble⟩ := exists_rank_ofInt (small.trans (by decide))
  rw [isDouble, nearest.eq_of_isDouble (isDouble_intCast small)]

end Binary64

/-! ### Texts of whole numbers -/

/-- The whole number that bytes spell, if they are ASCII text. -/
def whole? (bytes : List UInt8) : Option Int :=
  if bytes.all (· < 0x80) then Whole.signed? (bytes.map fun byte => Char.ofNat byte.toNat) else none

/-- Whole numbers are printed in ASCII characters. -/
theorem ascii_toString (whole : Int) : ∀ c ∈ (toString whole).toList, c.toNat < 0x80 := by
  have digits : ∀ size, ∀ c ∈ Nat.toDigits 10 size, c.toNat < 0x80 := by
    intro size c inside
    have bounds : 48 ≤ c.toNat ∧ c.toNat ≤ 57 := by
      simpa [Char.isDigit, UInt32.le_iff_toNat_le] using Whole.isDigit_of_toDigits size c inside
    omega
  rcases Int.eq_nat_or_neg whole with ⟨size, rfl | rfl⟩
  · rw [Whole.toList_toString_natCast]
    exact digits size
  · rcases Nat.eq_zero_or_pos size with rfl | positive
    · exact digits 0
    · rw [Whole.toList_toString_neg positive]
      exact List.forall_mem_cons.mpr ⟨by decide, digits size⟩

/-- The bytes of ASCII characters are their code points. -/
theorem encode_ascii {chars : List Char} (ascii : ∀ c ∈ chars, c.toNat < 0x80) :
    (chars.flatMap Text.Utf8.encodeChar).all (· < 0x80) = true ∧
      (chars.flatMap Text.Utf8.encodeChar).map (fun byte => Char.ofNat byte.toNat) = chars := by
  induction chars with
  | nil => exact ⟨rfl, rfl⟩
  | cons c rest ih =>
    obtain ⟨here, later⟩ := List.forall_mem_cons.mp ascii
    obtain ⟨all, same⟩ := ih later
    have single : Text.Utf8.encodeChar c = [c.toNat.toUInt8] := if_pos here
    have byte : c.toNat.toUInt8.toNat = c.toNat := Text.Utf8.toNat_toUInt8 (by omega)
    rw [List.flatMap_cons, single, List.singleton_append, List.all_cons, List.map_cons, all, same, byte,
      Char.ofNat_toNat]
    exact ⟨by simpa [UInt8.lt_iff_toNat_lt, byte] using here, rfl⟩

/-- **The bytes of a whole number as it is printed spell the number.** -/
theorem whole?_encode (whole : Int) : whole? (Text.Utf8.encode (toString whole)) = some whole := by
  obtain ⟨small, chars⟩ := encode_ascii (ascii_toString whole)
  rw [whole?, Text.Utf8.encode, if_pos small, chars, Whole.signed?_toString]

/-- A sign and a size are rounded as the number that they are, with a sign before zero or without. -/
theorem rank_nearest_withSign (negative : Bool) (size : Nat) :
    (Binary64.nearest ⟨negative, size, 0⟩).rank = (Binary64.ofInt (Whole.withSign negative size)).rank := by
  rcases Nat.eq_zero_or_pos size with rfl | positive
  · cases negative <;>
      simp [Binary64.ofInt, Binary64.nearest, Whole.withSign, Binary64.rank, Binary64.fraction]
  · have sign : decide (Whole.withSign negative size < 0) = negative := by
      cases negative
      · exact decide_eq_false (by show ¬(size : Int) < 0; omega)
      · exact decide_eq_true (by show -(size : Int) < 0; omega)
    have magnitude : (Whole.withSign negative size).natAbs = size := by
      cases negative
      · exact Int.natAbs_natCast size
      · exact Int.natAbs_neg _
    rw [Binary64.ofInt, sign, magnitude]

/-- **A text of a whole number is read as its double.** -/
theorem numeral?_of_whole? {bytes : List UInt8} {whole : Int} (spelled : whole? bytes = some whole) :
    ∃ double, numeral? bytes = some double ∧ double.rank = (Binary64.ofInt whole).rank := by
  unfold whole? at spelled
  split at spelled
  · next ascii =>
    obtain ⟨size, digits, rfl⟩ := Whole.signed?_eq_some.mp spelled
    refine ⟨_, ?_, rank_nearest_withSign _ size⟩
    rw [numeral?, if_pos ascii, Binary64.read?]
    simp only [readBody?_of_digits digits]
  · cases spelled

/-! ### Columns of whole numbers -/

/-- The types of whole numbers. -/
def Column.wholeTypes : List UInt8 :=
  [0x01, 0x02, 0x03, 0x08, 0x09]

theorem Column.isNumeric_of_wholeTypes {column : Column} (isWhole : column.type ∈ wholeTypes) :
    column.isNumeric = true := by
  have numeric : wholeTypes ⊆ numericTypes := by decide
  exact List.contains_iff_mem.mpr (numeric isWhole)

namespace SortKey

variable (key : SortKey)

/-- The whole number in the cell of a row. NULL is less than all of them. -/
def wholeAt (row : Row) : WithBot Int :=
  (cell row key.column).bind whole?

/-- The double of the whole number in the cell of a row. -/
def doubleAt (row : Row) : WithBot (WithBot (WithTop ℚ)) :=
  (key.wholeAt row).map fun whole => (Binary64.ofInt whole).rank

/-- In some rows a column holds NULL or whole numbers of 64 bits, with a sign or without. -/
def IsWhole (rows : List Row) : Prop :=
  ∀ row ∈ rows, ∀ bytes ∈ cell row key.column,
    ∃ whole ∈ whole? bytes, -0x8000000000000000 ≤ whole ∧ whole < 0x10000000000000000

instance (rows : List Row) : Decidable (key.IsWhole rows) :=
  inferInstanceAs (Decidable (∀ row ∈ rows, _))

/-- A row stands in the order of the whole numbers before another. -/
def InOrder (first second : Row) : Prop :=
  if key.ascending then key.wholeAt first ≤ key.wholeAt second else key.wholeAt second ≤ key.wholeAt first

/-- Two rows collide: they hold different whole numbers, which are rounded to the same double. -/
def Collide (first second : Row) : Prop :=
  key.wholeAt first ≠ key.wholeAt second ∧ key.doubleAt first = key.doubleAt second

variable {key}

/-- A whole number of a column, and its double. -/
theorem IsWhole.spelled {rows : List Row} (whole : key.IsWhole rows) {row : Row} (inside : row ∈ rows)
    {bytes : List UInt8} (isCell : cell row key.column = some bytes) :
    ∃ number : Int, key.wholeAt row = number ∧ number.natAbs ≤ 2 ^ 64 ∧ Spelling.of bytes = .number ∧
      rankOf bytes = (Binary64.ofInt number).rank := by
  obtain ⟨number, spelled, low, high⟩ := whole row inside bytes isCell
  obtain ⟨double, read, same⟩ := numeral?_of_whole? spelled
  have fits : number.natAbs ≤ 2 ^ 64 := by omega
  refine ⟨number, ?_, fits, Spelling.of_eq_number.mpr ⟨double, ?_, read⟩, ?_⟩
  · rw [wholeAt, isCell]
    exact spelled
  · rintro rfl
    obtain ⟨value, -, finite⟩ := Binary64.exists_rank_ofInt fits
    rw [finite] at same
    cases same
  · rw [rankOf, read]
    exact same

theorem wholeAt_of_null {row : Row} (null : cell row key.column = none) : key.wholeAt row = ⊥ := by
  rw [wholeAt, null]
  rfl

theorem doubleAt_of_null {row : Row} (null : cell row key.column = none) : key.doubleAt row = ⊥ := by
  rw [doubleAt, wholeAt_of_null null, WithBot.map_bot]

theorem doubleAt_of_number {row : Row} {number : Int} (isNumber : key.wholeAt row = number) :
    key.doubleAt row = ((Binary64.ofInt number).rank : WithBot _) := by
  rw [doubleAt, isNumber, WithBot.map_coe]

section Rows

variable {rows : List Row} {first second : Row}

/-- Cells of whole numbers are compared by their doubles, NULL before all of them. -/
theorem IsWhole.compareCells_eq (whole : key.IsWhole rows) (inFirst : first ∈ rows)
    (inSecond : second ∈ rows) :
    nullFirst compareNumerals (cell first key.column) (cell second key.column) =
      Ord.compare (key.doubleAt first) (key.doubleAt second) := by
  symm
  cases isFirst : cell first key.column with
  | none =>
    rw [doubleAt_of_null isFirst]
    cases isSecond : cell second key.column with
    | none =>
      rw [doubleAt_of_null isSecond]
      exact compare_eq_iff_eq.mpr rfl
    | some others =>
      obtain ⟨other, isOther, -⟩ := whole.spelled inSecond isSecond
      rw [doubleAt_of_number isOther]
      exact compare_lt_iff_lt.mpr (WithBot.bot_lt_coe _)
  | some bytes =>
    obtain ⟨number, isNumber, -, spelled, rank⟩ := whole.spelled inFirst isFirst
    rw [doubleAt_of_number isNumber]
    cases isSecond : cell second key.column with
    | none =>
      rw [doubleAt_of_null isSecond]
      exact compare_gt_iff_gt.mpr (WithBot.bot_lt_coe _)
    | some others =>
      obtain ⟨other, isOther, -, spelledOther, rankOther⟩ := whole.spelled inSecond isSecond
      rw [doubleAt_of_number isOther, nullFirst, compareNumerals_eq spelled spelledOther, compareAs,
        compareOn, rank, rankOther, ← cmp_eq_compare, ← cmp_eq_compare, WithBot.coe_strictMono.cmp_map_eq]

/-- **Rows of whole numbers are compared by their doubles.** -/
theorem compare_eq_doubles (isWhole : key.column.type ∈ Column.wholeTypes) (whole : key.IsWhole rows)
    (inFirst : first ∈ rows) (inSecond : second ∈ rows) :
    compareRows [key] first second =
      if key.ascending then Ord.compare (key.doubleAt first) (key.doubleAt second)
      else Ord.compare (key.doubleAt second) (key.doubleAt first) := by
  have sole : compareRows [key] first second = key.compare first second := by
    rw [compareRows, compareRows]
    cases key.compare first second <;> rfl
  rw [sole, key.compare_eq, compareBy, texts, if_pos (Column.isNumeric_of_wholeTypes isWhole),
    whole.compareCells_eq inFirst inSecond]
  split
  · rfl
  · exact Std.OrientedCmp.eq_swap.symm

/-- Doubles of whole numbers are in their order. -/
theorem IsWhole.doubleAt_mono (whole : key.IsWhole rows) (inFirst : first ∈ rows) (inSecond : second ∈ rows)
    (le : key.wholeAt first ≤ key.wholeAt second) : key.doubleAt first ≤ key.doubleAt second := by
  cases isFirst : cell first key.column with
  | none =>
    rw [doubleAt_of_null isFirst]
    exact bot_le
  | some bytes =>
    obtain ⟨number, isNumber, fits, -⟩ := whole.spelled inFirst isFirst
    rw [isNumber] at le
    cases isSecond : cell second key.column with
    | none =>
      rw [wholeAt_of_null isSecond] at le
      exact absurd le (WithBot.not_coe_le_bot _)
    | some others =>
      obtain ⟨other, isOther, fitsOther, -⟩ := whole.spelled inSecond isSecond
      rw [isOther] at le
      rw [doubleAt_of_number isNumber, doubleAt_of_number isOther]
      exact WithBot.coe_le_coe.mpr (Binary64.rank_ofInt_mono fits fitsOther (WithBot.coe_le_coe.mp le))

theorem Collide.symm (collide : key.Collide first second) : key.Collide second first :=
  ⟨collide.1.symm, collide.2.symm⟩

/-- Whole numbers are in the order of their doubles, unless they collide. -/
theorem IsWhole.le_or_collide (whole : key.IsWhole rows) (inFirst : first ∈ rows) (inSecond : second ∈ rows)
    (ordered : (Ord.compare (key.doubleAt first) (key.doubleAt second)).isLE = true) :
    key.wholeAt first ≤ key.wholeAt second ∨ key.Collide first second := by
  have le := compare_le_iff_le.mp (Ordering.isLE_iff_ne_gt.mp ordered)
  rcases le_or_gt (key.wholeAt first) (key.wholeAt second) with inOrder | greater
  · exact Or.inl inOrder
  · exact Or.inr ⟨greater.ne', le.antisymm (whole.doubleAt_mono inSecond inFirst greater.le)⟩

/-- Rows in the order of their doubles are in the order of their whole numbers, unless they collide. -/
theorem IsWhole.inOrder_or_collide (isWhole : key.column.type ∈ Column.wholeTypes)
    (whole : key.IsWhole rows) (inFirst : first ∈ rows) (inSecond : second ∈ rows)
    (ordered : (compareRows [key] first second).isLE = true) :
    key.InOrder first second ∨ key.Collide first second := by
  rw [compare_eq_doubles isWhole whole inFirst inSecond] at ordered
  unfold InOrder
  split at ordered
  · next ascending =>
    rw [if_pos ascending]
    exact whole.le_or_collide inFirst inSecond ordered
  · next descending =>
    rw [if_neg descending]
    exact (whole.le_or_collide inSecond inFirst ordered).imp id Collide.symm

/-- Rows that do not collide are told apart by their whole numbers. -/
theorem IsWhole.compareRows_eq_iff (isWhole : key.column.type ∈ Column.wholeTypes)
    (whole : key.IsWhole rows) (inFirst : first ∈ rows) (inSecond : second ∈ rows)
    (apart : ¬key.Collide first second) :
    compareRows [key] first second = .eq ↔ key.wholeAt first = key.wholeAt second := by
  have doubles : compareRows [key] first second = .eq ↔ key.doubleAt first = key.doubleAt second := by
    rw [compare_eq_doubles isWhole whole inFirst inSecond]
    split
    · exact compare_eq_iff_eq
    · exact compare_eq_iff_eq.trans eq_comm
  rw [doubles]
  constructor
  · intro same
    by_contra different
    exact apart ⟨different, same⟩
  · intro same
    rw [doubleAt, same, doubleAt]

/-- Whole numbers of a column spell numbers, so that rows are ordered by it. -/
theorem IsWhole.totalOn (whole : key.IsWhole rows) : TotalOn (compareRows [key]) rows := by
  have spelled : ∀ row ∈ rows, ∀ bytes ∈ cell row key.column, Spelling.of bytes = .number := by
    intro row inside bytes isCell
    obtain ⟨-, -, -, spelled, -⟩ := whole.spelled inside isCell
    exact spelled
  exact totalOn_compareRows (List.forall_mem_singleton.mpr fun _ => ⟨.number, spelled⟩)

end Rows

/-- Rows of whole numbers of up to 53 bits do not collide. -/
theorem not_collide_of_small {first second : Row}
    (small : ∀ whole ∈ (cell first key.column).bind whole?, whole.natAbs ≤ 2 ^ 53)
    (smallOther : ∀ whole ∈ (cell second key.column).bind whole?, whole.natAbs ≤ 2 ^ 53) :
    ¬key.Collide first second := by
  rintro ⟨different, same⟩
  cases isFirst : key.wholeAt first with
  | bot =>
    cases isSecond : key.wholeAt second with
    | bot => exact different (isFirst.trans isSecond.symm)
    | coe other =>
      rw [doubleAt, isFirst, doubleAt_of_number isSecond] at same
      cases same
  | coe number =>
    cases isSecond : key.wholeAt second with
    | bot =>
      rw [doubleAt_of_number isFirst, doubleAt, isSecond] at same
      cases same
    | coe other =>
      rw [doubleAt_of_number isFirst, doubleAt_of_number isSecond,
        Binary64.rank_ofInt (small number isFirst), Binary64.rank_ofInt (smallOther other isSecond),
        WithBot.coe_inj, WithBot.coe_inj, WithTop.coe_inj, Int.cast_inj] at same
      rw [isFirst, isSecond, same] at different
      exact different rfl

end SortKey

/-- **Rows are taken in the order of their whole numbers.** However many there are and whichever the direction,
all of them are taken, and two of them are out of order only if they collide. If no rows collide, they are in
order, NULL before all numbers or behind them; none are not told apart but those of one number, and these stand
as they came. -/
theorem whole_numbers_sorted {gathering : Gathering} {key : SortKey} (sole : gathering.sortKeys = [key])
    (isWhole : key.column.type ∈ Column.wholeTypes) (whole : key.IsWhole gathering.rows) :
    let taken := gathering.take.1
    taken.Perm gathering.rows ∧
      taken.Pairwise (fun earlier later => key.InOrder earlier later ∨ key.Collide earlier later) ∧
      ((∀ first ∈ gathering.rows, ∀ second ∈ gathering.rows, ¬key.Collide first second) →
        taken.Pairwise key.InOrder ∧
          (∀ first ∈ gathering.rows, ∀ second ∈ gathering.rows,
            compareRows [key] first second = .eq ↔ key.wholeAt first = key.wholeAt second) ∧
          ∀ number, taken.filter (fun row => key.wholeAt row == number) =
            gathering.rows.filter fun row => key.wholeAt row == number) := by
  intro taken
  have total := whole.totalOn
  have merged := gathering.merged_mergedBy
  rw [sole] at merged
  have within : taken ⊆ gathering.rows := merged.perm.subset
  have ordered : taken.Pairwise fun earlier later =>
      key.InOrder earlier later ∨ key.Collide earlier later :=
    (merged.sorted total).imp_of_mem fun inFirst inSecond =>
      whole.inOrder_or_collide isWhole (within inFirst) (within inSecond)
  refine ⟨merged.perm, ordered, fun apart => ?_⟩
  have told : ∀ first ∈ gathering.rows, ∀ second ∈ gathering.rows,
      compareRows [key] first second = .eq ↔ key.wholeAt first = key.wholeAt second :=
    fun first inFirst second inSecond =>
      whole.compareRows_eq_iff isWhole inFirst inSecond (apart first inFirst second inSecond)
  refine ⟨ordered.imp_of_mem fun inFirst inSecond either => ?_, told, fun number => ?_⟩
  · exact either.resolve_right (apart _ (within inFirst) _ (within inSecond))
  · by_cases held : ∃ pivot ∈ gathering.rows, key.wholeAt pivot = number
    · obtain ⟨pivot, inside, rfl⟩ := held
      have same : ∀ row ∈ gathering.rows,
          (key.wholeAt row == key.wholeAt pivot) = (compareRows [key] pivot row == .eq) := by
        intro row inRow
        rw [Bool.eq_iff_iff, beq_iff_eq, beq_iff_eq, told pivot inside row inRow]
        exact eq_comm
      rw [List.filter_congr fun row inTaken => same row (within inTaken), List.filter_congr same]
      exact merged.stable total pivot inside
    · have none : ∀ row ∈ gathering.rows, ¬(key.wholeAt row == number) = true :=
        fun row inside found => held ⟨row, inside, beq_iff_eq.mp found⟩
      rw [List.filter_eq_nil_iff.mpr none,
        List.filter_eq_nil_iff.mpr fun row inTaken => none row (within inTaken)]

/-- Three numbers with a sign or without, and NULL, are taken in descending order. -/
theorem four_rows_descending :
    let key : SortKey := ⟨⟨0, 0x08⟩, false⟩
    let row := fun text : Option String => Row.mk [text.map Text.Utf8.encode]
    let gathering : Gathering := { window := {}, orderBy := [⟨"ID", false⟩], sortKeys := [key], rows :=
      [row (some "9"), row none, row (some "-40"), row (some "9007199254740992")] }
    key.IsWhole gathering.rows ∧
      (∀ first ∈ gathering.rows, ∀ second ∈ gathering.rows, ¬key.Collide first second) ∧
      gathering.take.1 = [row (some "9007199254740992"), row (some "9"), row (some "-40"), row none] ∧
      gathering.take.1.Pairwise key.InOrder := by
  intro key row gathering
  have whole : key.IsWhole gathering.rows := by decide +kernel
  have small : ∀ row ∈ gathering.rows,
      ∀ whole ∈ (SortKey.cell row key.column).bind whole?, whole.natAbs ≤ 2 ^ 53 := by decide +kernel
  have apart : ∀ first ∈ gathering.rows, ∀ second ∈ gathering.rows, ¬key.Collide first second :=
    fun first inFirst second inSecond =>
      SortKey.not_collide_of_small (small first inFirst) (small second inSecond)
  have sorted := @whole_numbers_sorted gathering key rfl (by decide) whole
  exact ⟨whole, apart, by decide +kernel, (sorted.2.2 apart).1⟩

/-- **Of two numbers beyond 53 bits the greater one is taken first**, because it came first. -/
theorem great_numbers_misplaced :
    let key : SortKey := ⟨⟨0, 0x08⟩, true⟩
    let row := fun text : String => Row.mk [some (Text.Utf8.encode text)]
    let gathering : Gathering := { window := {}, orderBy := [⟨"ID", true⟩], sortKeys := [key], rows :=
      [row "9007199254740993", row "9007199254740992"] }
    key.IsWhole gathering.rows ∧
      gathering.take.1 = [row "9007199254740993", row "9007199254740992"] ∧
      ¬key.wholeAt (row "9007199254740993") ≤ key.wholeAt (row "9007199254740992") := by
  decide +kernel

end ScatterGather
