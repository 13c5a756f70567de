/-
**The mean time of a shard's statements.**

A line of statistics tells times in words, in the largest unit of which there is one:

* `nanosOf?`, `nanosOf?_durationText` — a time in words tells **exactly** the nanoseconds that it was made of,
  since of its decimals only zeros at the end are left out (`exists_decimals`);
* `averageIn?`, `exists_line_iff` — a line tells **the average that there is**, and no other;
* `average?_eq_none`, `average?_eq_mean` — the number of statements divides modulo 2 ^ 32, so the average is
  the mean time up to that many statements, and beyond it only where both are zero;
* `average_told` — what the line of any shard tells, after any statements.
-/
import Mathlib.Data.List.DropRight
import ScatterGather.Number.Decimal
import ScatterGather.Proofs.Number.Numeral
import ScatterGather.Proofs.Statistics.Reordered

namespace ScatterGather

/-! ### Times in words -/

/-- The units of times, and the power of ten of nanoseconds that each of them is. -/
def timeUnits : List (String × Nat) :=
  [("s", 9), ("ms", 6), ("µs", 3), ("ns", 0)]

/-- The number of nanoseconds that a time in words tells: a numeral, and its unit behind it. -/
def nanosOf? (chars : List Char) : Option Nat :=
  let (whole, fraction, unit) := Decimal.splitDigits chars
  (timeUnits.lookup (String.ofList unit)).bind fun places =>
    if fraction.length ≤ places then
      (Whole.digits? (whole ++ fraction)).map fun value => value * 10 ^ (places - fraction.length)
    else none

/-- A point and the digits behind it, or nothing if there are none. -/
def pointed (digits : List Char) : List Char :=
  if digits.isEmpty then [] else '.' :: digits

/-! ### Decimals -/

/-- A fraction in as many digits as it has places, behind a one. -/
theorem exists_padded (places fraction : Nat) (small : fraction < 10 ^ places) :
    ∃ padded, Nat.toDigits 10 (10 ^ places + fraction) = '1' :: padded ∧ padded.length = places ∧
      (∀ c ∈ padded, c.isDigit = true) ∧
        ∀ value, Nat.ofDigitChars 10 padded value = 10 ^ places * value + fraction := by
  induction places generalizing fraction with
  | zero =>
    obtain rfl : fraction = 0 := by simpa using small
    exact ⟨[], rfl, rfl, nofun, fun value => by simp⟩
  | succ places ih =>
    rw [pow_succ] at small
    obtain ⟨padded, spelled, length, digits, number⟩ := ih (fraction / 10) (by omega)
    have last : fraction % 10 < 10 := Nat.mod_lt _ (by decide)
    have split : 10 ^ (places + 1) + fraction = 10 * (10 ^ places + fraction / 10) + fraction % 10 := by
      rw [pow_succ]
      omega
    refine ⟨padded ++ [(fraction % 10).digitChar], ?_, ?_, ?_, fun value => ?_⟩
    · rw [split, ← Nat.toDigits_append_toDigits (by decide) (by positivity) last, spelled,
        Nat.toDigits_of_lt_base last]
      rfl
    · rw [List.length_append, length, List.length_singleton]
    · rw [List.forall_mem_append, List.forall_mem_singleton]
      have single : (fraction % 10).digitChar ∈ Nat.toDigits 10 (fraction % 10) := by
        rw [Nat.toDigits_of_lt_base last]
        exact List.mem_singleton_self _
      exact ⟨digits, Whole.isDigit_of_toDigits _ _ single⟩
    · rw [Nat.ofDigitChars_append, number, Nat.ofDigitChars_cons_digitChar_of_lt_ten last,
        Nat.ofDigitChars_nil, pow_succ, mul_right_comm]
      have whole := Nat.div_add_mod fraction 10
      omega

/-- Digits are those before the zeros at their end, and these zeros. -/
theorem exists_zeros (digits : List Char) :
    ∃ zeros, digits.rdropWhile (· == '0') ++ List.replicate zeros '0' = digits := by
  let zeros := digits.rtakeWhile (· == '0')
  refine ⟨zeros.length, ?_⟩
  have alike : zeros = List.replicate zeros.length '0' :=
    List.eq_replicate_of_mem fun c inside => eq_of_beq (List.mem_rtakeWhile_imp (p := (· == '0')) inside)
  rw [← alike]
  exact List.rdropWhile_append_rtakeWhile

/-- **The decimals of a fraction** are digits that tell it exactly, in the places that they fill. -/
theorem exists_decimals {places fraction : Nat} (small : fraction < 10 ^ places) :
    ∃ kept, (decimals places fraction).toList = pointed kept ∧ kept.length ≤ places ∧
      (∀ c ∈ kept, c.isDigit = true) ∧
        ∀ value, Nat.ofDigitChars 10 kept value * 10 ^ (places - kept.length) =
          10 ^ places * value + fraction := by
  obtain ⟨padded, spelled, length, digits, number⟩ := exists_padded places fraction small
  obtain ⟨zeros, parts⟩ := exists_zeros padded
  refine ⟨padded.rdropWhile (· == '0'), ?_, ?_⟩
  · rw [decimals, Nat.pow_eq, Nat.toString_eq_repr, Nat.toList_repr, spelled]
    show (if (padded.rdropWhile (· == '0')).isEmpty then "" else _).toList = _
    rw [pointed]
    split
    · rfl
    · exact String.toList_ofList
  · generalize padded.rdropWhile (· == '0') = kept at parts
    subst parts
    rw [List.length_append, List.length_replicate] at length
    refine ⟨by omega, fun c inside => digits c (List.mem_append_left _ inside), fun value => ?_⟩
    -- Each zero that is left out stands for a factor of ten.
    have places_left : places - kept.length = zeros := by omega
    rw [← number, Nat.ofDigitChars_append, Nat.ofDigitChars_replicate_zero, mul_comm, places_left]

/-! ### Units -/

theorem splitDigits_append {whole fraction unit : List Char} (isWhole : ∀ c ∈ whole, c.isDigit = true)
    (isFraction : ∀ c ∈ fraction, c.isDigit = true)
    (follows : ∀ c ∈ unit.head?, c.isDigit = false ∧ c ≠ '.') :
    Decimal.splitDigits (whole ++ (pointed fraction ++ unit)) = (whole, fraction, unit) := by
  rw [Decimal.splitDigits]
  cases fraction with
  | nil =>
    obtain ⟨digits, rest⟩ := Numeral.takeWhile_digits isWhole fun c first => (follows c first).1
    have nothing : pointed [] ++ unit = unit := rfl
    rw [nothing, digits, rest]
    split
    · exact absurd rfl (follows '.' rfl).2
    · rfl
  | cons digit fraction =>
    have point : ∀ c ∈ (pointed (digit :: fraction) ++ unit).head?, c.isDigit = false :=
      fun c first => Option.some.inj first ▸ rfl
    obtain ⟨digits, rest⟩ := Numeral.takeWhile_digits isWhole point
    obtain ⟨digitsBehind, restBehind⟩ :=
      Numeral.takeWhile_digits isFraction fun c first => (follows c first).1
    rw [digits, rest]
    exact congrArg (whole, ·) (Prod.ext digitsBehind restBehind)

theorem toList_inUnit (places : Nat) (unit : String) (nanos : Nat) : ∃ fraction,
    (inUnit places unit nanos).toList =
        Nat.toDigits 10 (nanos / 10 ^ places) ++ (pointed fraction ++ unit.toList) ∧
      fraction.length ≤ places ∧ (∀ c ∈ fraction, c.isDigit = true) ∧
        ∀ value, Nat.ofDigitChars 10 fraction value * 10 ^ (places - fraction.length) =
          10 ^ places * value + nanos % 10 ^ places := by
  have positive : 0 < 10 ^ places := by positivity
  obtain ⟨fraction, spelled, told⟩ := exists_decimals (Nat.mod_lt nanos positive)
  refine ⟨fraction, ?_, told⟩
  rw [inUnit, String.toList_append, String.toList_append, Nat.pow_eq, spelled, Nat.toString_eq_repr,
    Nat.toList_repr, List.append_assoc]

/-- Every time is told in one of the units. -/
theorem exists_unit (nanos : Nat) :
    ∃ unit ∈ timeUnits, durationText nanos = inUnit unit.2 unit.1 nanos := by
  unfold durationText
  split
  · exact ⟨("s", 9), by decide +kernel, rfl⟩
  split
  · exact ⟨("ms", 6), by decide +kernel, rfl⟩
  split
  · exact ⟨("µs", 3), by decide +kernel, rfl⟩
  · exact ⟨("ns", 0), by decide +kernel, rfl⟩

/-- Each unit is known by its own name, which does not go on with a numeral and holds no comma. -/
theorem units_named : ∀ unit ∈ timeUnits, timeUnits.lookup unit.1 = some unit.2 ∧
    (unit.1.toList.head?.all fun c => !c.isDigit && c != '.') = true ∧ ',' ∉ unit.1.toList := by
  decide +kernel

/-- **A time in words tells exactly its number of nanoseconds.** -/
theorem nanosOf?_durationText (nanos : Nat) : nanosOf? (durationText nanos).toList = some nanos := by
  obtain ⟨⟨unit, places⟩, listed, worded⟩ := exists_unit nanos
  obtain ⟨known, leads, -⟩ := units_named _ listed
  have follows : ∀ c ∈ unit.toList.head?, c.isDigit = false ∧ c ≠ '.' := by
    simpa [Option.all_eq_true] using leads
  obtain ⟨fraction, spelled, short, digits, number⟩ := toList_inUnit places unit nanos
  have whole := Whole.isDigit_of_toDigits (nanos / 10 ^ places)
  have read : Whole.digits? (Nat.toDigits 10 (nanos / 10 ^ places) ++ fraction) =
      some (Nat.ofDigitChars 10 fraction (nanos / 10 ^ places)) := by
    refine Whole.digits?_eq_some.mpr ⟨?_, List.forall_mem_append.mpr ⟨whole, digits⟩, ?_⟩
    · exact List.append_ne_nil_of_left_ne_nil Nat.toDigits_ne_nil _
    · rw [Nat.ofDigitChars_append, Nat.ofDigitChars_ten_toDigits]
  rw [worded, spelled, nanosOf?, splitDigits_append whole digits follows]
  dsimp only
  rw [String.ofList_toList, known, Option.bind_some, if_pos short, read, Option.map_some, number,
    Nat.div_add_mod]

example : nanosOf? "1.05ms".toList = some 1050000 := by decide +kernel

/-! ### Lines -/

theorem comma_notMem_toDigits (value : Nat) : ',' ∉ Nat.toDigits 10 value :=
  fun inside => absurd (Whole.isDigit_of_toDigits value _ inside) (by decide)

theorem comma_notMem_durationText (nanos : Nat) : ',' ∉ (durationText nanos).toList := by
  obtain ⟨⟨unit, places⟩, listed, worded⟩ := exists_unit nanos
  obtain ⟨-, -, noComma⟩ := units_named _ listed
  obtain ⟨fraction, spelled, -, digits, -⟩ := toList_inUnit places unit nanos
  have behind : ',' ∉ pointed fraction := by
    rw [pointed]
    split
    · exact List.not_mem_nil
    · rw [List.mem_cons, not_or]
      exact ⟨by decide, fun inside => absurd (digits _ inside) (by decide)⟩
  rw [worded, spelled, List.mem_append, List.mem_append, not_or, not_or]
  exact ⟨comma_notMem_toDigits _, behind, noComma⟩

/-- What stands between the first comma of a line and the second one. -/
def betweenCommas (line : List Char) : List Char :=
  ((line.dropWhile (· != ',')).drop 1).takeWhile (· != ',')

theorem betweenCommas_append {before between : List Char} (noComma : ',' ∉ before) (single : ',' ∉ between)
    (behind : List Char) : betweenCommas (before ++ ',' :: (between ++ ',' :: behind)) = between := by
  have passes : ∀ {chars : List Char}, ',' ∉ chars → ∀ c ∈ chars, (c != ',') = true := by
    rintro chars missing c inside
    exact bne_iff_ne.mpr fun comma => missing (comma ▸ inside)
  rw [betweenCommas, List.dropWhile_append_of_pos (passes noComma), List.dropWhile_cons_of_neg (by decide),
    List.drop_one, List.tail_cons, List.takeWhile_append_of_pos (passes single),
    List.takeWhile_cons_of_neg (by decide), List.append_nil]

/-- The average that a line tells: the time behind its first comma and the word that stands for it. -/
def averageIn? (line : String) : Option Nat :=
  nanosOf? ((betweenCommas line.toList).drop " avg ".toList.length)

namespace ShardStats

variable {stats : ShardStats} {average : Nat}

/-- The line of a shard's statistics, by its commas. -/
theorem exists_line (mean : stats.average? = some average) : ∃ line before behind,
    stats.format? = some line ∧ ',' ∉ before ∧
      line.toList = before ++ ',' :: (" avg ".toList ++ (durationText average).toList ++ ',' :: behind) := by
  have first : " statement(s), avg ".toList = " statement(s)".toList ++ ',' :: " avg ".toList := by
    decide +kernel
  have second : ", ".toList = [','] ++ " ".toList := by decide +kernel
  have plain : ',' ∉ "Shard ".toList ∧ ',' ∉ ": ".toList ∧ ',' ∉ " statement(s)".toList := by
    decide +kernel
  refine ⟨_, "Shard ".toList ++ (toString stats.shard.toNat).toList ++ ": ".toList ++
    (toString stats.statements).toList ++ " statement(s)".toList,
    " max ".toList ++ (durationText stats.slowest).toList, congrArg (Option.map _) mean, ?_, ?_⟩
  · simp only [List.mem_append, not_or, Nat.toString_eq_repr, Nat.toList_repr]
    exact ⟨⟨⟨⟨plain.1, comma_notMem_toDigits _⟩, plain.2.1⟩, comma_notMem_toDigits _⟩, plain.2.2⟩
  · simp only [String.toList_append]
    show _ ++ " statement(s), avg ".toList ++ (durationText average).toList ++ ", ".toList ++ _ = _
    rw [first, second]
    simp only [List.append_assoc, List.cons_append]
    rfl

theorem averageIn?_of_average? (mean : stats.average? = some average) :
    ∃ line, stats.format? = some line ∧ averageIn? line = some average := by
  obtain ⟨line, before, behind, written, noComma, spelled⟩ := exists_line mean
  have single : ',' ∉ " avg ".toList ++ (durationText average).toList := by
    rw [List.mem_append, not_or]
    exact ⟨by decide +kernel, comma_notMem_durationText average⟩
  refine ⟨line, written, ?_⟩
  rw [averageIn?, spelled, betweenCommas_append noComma single, List.drop_left, nanosOf?_durationText]

/-- **The line tells the average that there is**, and no other. -/
theorem exists_line_iff : (∃ line, stats.format? = some line ∧ averageIn? line = some average) ↔
    stats.average? = some average := by
  refine ⟨?_, averageIn?_of_average?⟩
  rintro ⟨line, written, told⟩
  obtain ⟨own, mean, -⟩ := Option.map_eq_some_iff.mp written
  obtain ⟨same, again, tells⟩ := averageIn?_of_average? mean
  obtain rfl := Option.some.inj (written.symm.trans again)
  rw [mean, ← tells, told]

theorem format?_eq_none : stats.format? = none ↔ stats.average? = none :=
  Option.map_eq_none_iff

/-! ### The average and the mean -/

/-- Divided by a number and by at least twice as much, a total gives the same only if it gives zero. -/
theorem div_eq_div_iff {total small great : Nat} (positive : 0 < small) (twice : 2 * small ≤ great) :
    total / small = total / great ↔ total < small := by
  constructor
  · intro same
    by_contra least
    have one : 1 ≤ total / small := (Nat.one_le_div_iff positive).mpr (not_lt.mp least)
    have below : total < total := calc
      total < (total / small + 1) * small := Nat.lt_mul_of_div_lt (Nat.lt_succ_self _) positive
      _ ≤ (total / small + total / small) * small := Nat.mul_le_mul_right _ (by omega)
      _ = total / small * (2 * small) := by ring
      _ ≤ total / great * great := by
        rw [same]
        exact Nat.mul_le_mul_left _ twice
      _ ≤ total := Nat.div_mul_le_self total great
    exact lt_irrefl _ below
  · intro less
    rw [Nat.div_eq_of_lt less, Nat.div_eq_of_lt (by omega)]

/-- **There is no average** of a multiple of 2 ^ 32 statements, unless there are none. -/
theorem average?_eq_none :
    stats.average? = none ↔ stats.statements ≠ 0 ∧ 2 ^ 32 ∣ stats.statements := by
  rw [average?, Nat.dvd_iff_mod_eq_zero]
  by_cases empty : stats.statements = 0
  · simp [empty]
  · rw [if_neg empty]
    dsimp only
    by_cases whole : stats.statements % 0x100000000 = 0
    · simp [empty, whole]
    · simp [whole]

/-- **The average is the mean** of fewer than 2 ^ 32 statements, and where both of them are zero. -/
theorem average?_eq_mean : stats.average? = some (stats.total / stats.statements) ↔
    stats.statements < 2 ^ 32 ∨ stats.total < stats.statements % 2 ^ 32 := by
  by_cases none : stats.average? = none
  · obtain ⟨filled, whole⟩ := average?_eq_none.mp none
    have many : 2 ^ 32 ≤ stats.statements := Nat.le_of_dvd (Nat.pos_of_ne_zero filled) whole
    rw [none, Nat.mod_eq_zero_of_dvd whole]
    simp only [reduceCtorEq, false_iff, not_or, not_lt]
    exact ⟨many, Nat.zero_le _⟩
  by_cases empty : stats.statements = 0
  · simp [average?, empty]
  have part : stats.statements % 2 ^ 32 ≠ 0 := fun whole =>
    none (average?_eq_none.mpr ⟨empty, Nat.dvd_of_mod_eq_zero whole⟩)
  have mean : stats.average? = some (stats.total / (stats.statements % 2 ^ 32)) :=
    (if_neg empty).trans (if_neg part)
  rw [mean, Option.some.injEq]
  by_cases few : stats.statements < 2 ^ 32
  · rw [Nat.mod_eq_of_lt few]
    exact ⟨fun _ => Or.inl few, fun _ => rfl⟩
  · rw [div_eq_div_iff (Nat.pos_of_ne_zero part) (by omega)]
    exact (or_iff_right few).symm

/-- **The mean time of a shard's statements**, zero if there are none, is told exactly if fewer than 2 ^ 32 of
them have run, or if it is zero and what remains of their number modulo 2 ^ 32 still exceeds their time. There
is no line at all of a multiple of 2 ^ 32 statements. So it is after any statements, whose numbers and times
are those of the shard; and such statistics there are exactly if the times of each shard can be told. -/
theorem average_told (stats : ShardStats) :
    ((∃ line, stats.format? = some line ∧ averageIn? line = some (stats.total / stats.statements)) ↔
        stats.statements < 2 ^ 32 ∨ stats.total < stats.statements % 2 ^ 32) ∧
      (stats.format? = none ↔ stats.statements ≠ 0 ∧ 2 ^ 32 ∣ stats.statements) ∧
      (∀ timings, stats ∈ (Statistics.ofList timings).snapshot ↔
        stats.shard ∈ timings.map Timing.shard ∧ stats = ofTimings stats.shard timings) ∧
      ∀ timings statistics, Statistics.ofList? timings = some statistics ↔
        Statistics.Fits timings ∧ statistics = Statistics.ofList timings := by
  refine ⟨?_, ?_, fun timings => Statistics.mem_snapshot, fun timings statistics =>
    Statistics.ofList?_eq_some⟩
  · rw [exists_line_iff, average?_eq_mean]
  · rw [format?_eq_none, average?_eq_none]

/-- After 2 ^ 32 statements of a nanosecond there is no line, and after one more of them their mean is told as
more than four seconds. -/
theorem average_lost :
    (Statistics.ofList (List.replicate (2 ^ 32) ⟨0, 1⟩)).snapshot = [⟨0, 2 ^ 32, 2 ^ 32, 1⟩] ∧
      (⟨0, 2 ^ 32, 2 ^ 32, 1⟩ : ShardStats).format? = none ∧
      (Statistics.ofList (List.replicate (2 ^ 32 + 1) ⟨0, 1⟩)).snapshot =
        [⟨0, 2 ^ 32 + 1, 2 ^ 32 + 1, 1⟩] ∧
      (⟨0, 2 ^ 32 + 1, 2 ^ 32 + 1, 1⟩ : ShardStats).format? =
        some "Shard 0: 4294967297 statement(s), avg 4.294967297s, max 1ns" := by
  refine ⟨Statistics.snapshot_replicate (by decide) ⟨0, 1⟩, ?_,
    Statistics.snapshot_replicate (by decide) ⟨0, 1⟩, ?_⟩
  · decide +kernel
  · decide +kernel

end ShardStats

end ScatterGather
