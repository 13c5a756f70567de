/-
**Texts read back from their bytes.**

A character is one to four bytes: the first tells how many follow and has the highest bits of the code
point, each of the others has six bits more. Read one byte at a time, such bytes are the character again,
and nothing of them is left over:

* `lead_one`, `lead_two`, `lead_three`, `lead_four`: what the first byte of a character begins;
* `decodeFrom_more`, `decodeFrom_last`: what a byte of six more bits does, between others and as the last;
* `decodeFrom_encodeChar` — the bytes of a character **are the character**, whatever follows them;
* `decode_encode` — the bytes of a text **are the text**;
* `encode_decode_iff`: bytes that are no text are not written again as they were read.
-/
import ScatterGather.Text.Utf8

namespace ScatterGather.Text.Utf8

/-! ### First bytes -/

theorem toNat_toUInt8 {value : Nat} (small : value < 0x100) : value.toUInt8.toNat = value := by
  rw [Nat.toUInt8_eq, UInt8.toNat_ofNat', Nat.mod_eq_of_lt small]

theorem lead_one {point : Nat} (ascii : point < 0x80) :
    lead point.toUInt8 = ([Char.ofNat point], none) := by
  have value : point.toUInt8.toNat = point := toNat_toUInt8 (by omega)
  have less : point.toUInt8 < 0x80 := by
    rw [UInt8.lt_iff_toNat_lt, value]
    exact ascii
  rw [lead, if_pos less, value]

theorem lead_two : ∀ bits < 0x20, 2 ≤ bits →
    lead (0xC0 + bits).toUInt8 = ([], some ⟨1, 0x80, 0xBF, bits⟩) := by
  decide

/-- The first of three bytes. With the next one it must not spell a shorter character or a surrogate. -/
theorem lead_three : ∀ bits < 0x10, lead (0xE0 + bits).toUInt8 =
    ([], some ⟨2, if bits = 0 then 0xA0 else 0x80, if bits = 0xD then 0x9F else 0xBF, bits⟩) := by
  decide

/-- The first of four bytes. With the next one it must not spell a shorter character or one beyond the
last plane. -/
theorem lead_four : ∀ bits < 5, lead (0xF0 + bits).toUInt8 =
    ([], some ⟨3, if bits = 0 then 0x90 else 0x80, if bits = 4 then 0x8F else 0xBF, bits⟩) := by
  decide

/-! ### Bytes that follow -/

section Bounds

variable {edge : Prop} [Decidable edge] {bits : Nat}

/-- Any six bits are above the lowest byte that may follow, unless the first byte raises it. -/
theorem low_le {raised : UInt8} (short : edge → raised.toNat ≤ 0x80 + bits) :
    (if edge then raised else 0x80 : UInt8).toNat ≤ 0x80 + bits := by
  split
  · next raises => exact short raises
  · exact Nat.le_add_right 0x80 bits

theorem le_high (six : bits < 0x40) {lowered : UInt8} (long : edge → 0x80 + bits ≤ lowered.toNat) :
    0x80 + bits ≤ (if edge then lowered else 0xBF : UInt8).toNat := by
  split
  · next lowers => exact long lowers
  · show _ ≤ 0xBF
    omega

end Bounds

section Following

variable {owed point bits : Nat} {low high : UInt8}

/-- A byte within the bounds adds its six bits to the pending character. -/
theorem step_within (six : bits < 0x40) (above : low.toNat ≤ 0x80 + bits)
    (below : 0x80 + bits ≤ high.toNat) :
    step (some ⟨owed, low, high, point⟩) (0x80 + bits).toUInt8 =
      if owed ≤ 1 then ([Char.ofNat (point * 0x40 + bits)], none)
      else ([], some ⟨owed - 1, 0x80, 0xBF, point * 0x40 + bits⟩) := by
  have value : (0x80 + bits).toUInt8.toNat = 0x80 + bits := toNat_toUInt8 (by omega)
  have within : low ≤ (0x80 + bits).toUInt8 ∧ (0x80 + bits).toUInt8 ≤ high := by
    rw [UInt8.le_iff_toNat_le, UInt8.le_iff_toNat_le, value]
    exact ⟨above, below⟩
  rw [step, if_pos within, value, Nat.add_sub_cancel_left]

/-- After a byte that is not the last, the pending character owes one less. -/
theorem decodeFrom_more (rest : List UInt8) (six : bits < 0x40) (above : low.toNat ≤ 0x80 + bits)
    (below : 0x80 + bits ≤ high.toNat) :
    decodeFrom (some ⟨owed + 2, low, high, point⟩) ((0x80 + bits).toUInt8 :: rest) =
      decodeFrom (some ⟨owed + 1, 0x80, 0xBF, point * 0x40 + bits⟩) rest := by
  rw [decodeFrom, step_within six above below, if_neg (by omega)]
  rfl

/-- The last byte completes the pending character. -/
theorem decodeFrom_last (rest : List UInt8) (six : bits < 0x40) (above : low.toNat ≤ 0x80 + bits)
    (below : 0x80 + bits ≤ high.toNat) :
    decodeFrom (some ⟨1, low, high, point⟩) ((0x80 + bits).toUInt8 :: rest) =
      Char.ofNat (point * 0x40 + bits) :: decodeFrom none rest := by
  rw [decodeFrom, step_within six above below, if_pos (Nat.le_refl 1)]
  rfl

end Following

/-- A byte that begins a character leaves it pending. -/
theorem decodeFrom_lead {byte : UInt8} {pending : Pending} (begins : lead byte = ([], some pending))
    (rest : List UInt8) : decodeFrom none (byte :: rest) = decodeFrom (some pending) rest := by
  rw [decodeFrom, step, begins]
  rfl

/-! ### Characters and texts -/

section Character

variable {first second third last : Nat} (rest : List UInt8)

theorem decodeFrom_two (short : 2 ≤ first) (five : first < 0x20) (six : last < 0x40) :
    decodeFrom none ((0xC0 + first).toUInt8 :: (0x80 + last).toUInt8 :: rest) =
      Char.ofNat (first * 0x40 + last) :: decodeFrom none rest := by
  rw [decodeFrom_lead (lead_two first five short),
    decodeFrom_last rest six (by show 0x80 ≤ _; omega) (by show _ ≤ 0xBF; omega)]

theorem decodeFrom_three (short : first = 0 → 0x20 ≤ second) (surrogate : first = 0xD → second < 0x20)
    (four : first < 0x10) (six : second < 0x40) (sixLast : last < 0x40) :
    decodeFrom none
        ((0xE0 + first).toUInt8 :: (0x80 + second).toUInt8 :: (0x80 + last).toUInt8 :: rest) =
      Char.ofNat ((first * 0x40 + second) * 0x40 + last) :: decodeFrom none rest := by
  have above : (if first = 0 then 0xA0 else 0x80 : UInt8).toNat ≤ 0x80 + second :=
    low_le fun zero => by
      have long := short zero
      show 0xA0 ≤ _
      omega
  have below : 0x80 + second ≤ (if first = 0xD then 0x9F else 0xBF : UInt8).toNat :=
    le_high six fun before => by
      have less := surrogate before
      show _ ≤ 0x9F
      omega
  rw [decodeFrom_lead (lead_three first four), decodeFrom_more _ six above below,
    decodeFrom_last rest sixLast (by show 0x80 ≤ _; omega) (by show _ ≤ 0xBF; omega)]

theorem decodeFrom_four (short : first = 0 → 0x10 ≤ second) (beyond : first = 4 → second < 0x10)
    (three : first < 5) (six : second < 0x40) (sixThird : third < 0x40) (sixLast : last < 0x40) :
    decodeFrom none ((0xF0 + first).toUInt8 :: (0x80 + second).toUInt8 :: (0x80 + third).toUInt8 ::
        (0x80 + last).toUInt8 :: rest) =
      Char.ofNat (((first * 0x40 + second) * 0x40 + third) * 0x40 + last) ::
        decodeFrom none rest := by
  have above : (if first = 0 then 0x90 else 0x80 : UInt8).toNat ≤ 0x80 + second :=
    low_le fun zero => by
      have long := short zero
      show 0x90 ≤ _
      omega
  have below : 0x80 + second ≤ (if first = 4 then 0x8F else 0xBF : UInt8).toNat :=
    le_high six fun final => by
      have less := beyond final
      show _ ≤ 0x8F
      omega
  rw [decodeFrom_lead (lead_four first three), decodeFrom_more _ six above below,
    decodeFrom_more _ sixThird (by show 0x80 ≤ _; omega) (by show _ ≤ 0xBF; omega),
    decodeFrom_last rest sixLast (by show 0x80 ≤ _; omega) (by show _ ≤ 0xBF; omega)]

end Character

/-- **The bytes of a character are the character**, whatever follows them. -/
theorem decodeFrom_encodeChar (c : Char) (rest : List UInt8) :
    decodeFrom none (encodeChar c ++ rest) = c :: decodeFrom none rest := by
  -- A code point is none of the surrogates, and not beyond the last plane.
  have bounds : c.toNat < 0xD800 ∨ 0xDFFF < c.toNat ∧ c.toNat < 0x110000 := c.valid
  have whole : Char.ofNat c.toNat = c := Char.ofNat_toNat c
  rw [encodeChar]
  generalize c.toNat = point at bounds whole
  by_cases one : point < 0x80
  · simp only [if_pos one, List.singleton_append]
    rw [decodeFrom, step, lead_one one, whole]
    rfl
  · by_cases two : point < 0x800
    · have spelled : point / 0x40 * 0x40 + point % 0x40 = point := by omega
      simp only [if_neg one, if_pos two, List.cons_append, List.nil_append]
      rw [decodeFrom_two rest (by omega) (by omega) (by omega), spelled, whole]
    · by_cases three : point < 0x10000
      · have spelled :
            (point / 0x1000 * 0x40 + point / 0x40 % 0x40) * 0x40 + point % 0x40 = point := by
          omega
        simp only [if_neg one, if_neg two, if_pos three, List.cons_append, List.nil_append]
        rw [decodeFrom_three rest (by omega) (by omega) (by omega) (by omega) (by omega), spelled,
          whole]
      · have spelled : ((point / 0x40000 * 0x40 + point / 0x1000 % 0x40) * 0x40 +
            point / 0x40 % 0x40) * 0x40 + point % 0x40 = point := by
          omega
        simp only [if_neg one, if_neg two, if_neg three, List.cons_append, List.nil_append]
        rw [decodeFrom_four rest (by omega) (by omega) (by omega) (by omega) (by omega) (by omega),
          spelled, whole]

theorem decodeChars_flatMap (chars : List Char) : decodeChars (chars.flatMap encodeChar) = chars := by
  induction chars with
  | nil => rfl
  | cons c rest ih =>
    rw [decodeChars, List.flatMap_cons, decodeFrom_encodeChar, ← decodeChars, ih]

/-- **The bytes of a text are the text.** -/
theorem decode_encode (text : String) : decode (encode text) = text := by
  rw [decode, encode, decodeChars_flatMap, String.ofList_toList]

/-- Tells whether bytes are those of a text. -/
def IsText (bytes : List UInt8) : Prop :=
  ∃ text, encode text = bytes

/-- **Bytes that are read as a text and written again stay the same** if they are those of a text, and
not otherwise. -/
theorem encode_decode_iff {bytes : List UInt8} : encode (decode bytes) = bytes ↔ IsText bytes := by
  refine ⟨fun same => ⟨_, same⟩, ?_⟩
  rintro ⟨text, rfl⟩
  rw [decode_encode]

end ScatterGather.Text.Utf8
