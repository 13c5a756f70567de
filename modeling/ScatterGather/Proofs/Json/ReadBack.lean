/-
**What is written in JSON is read back.**

* `pieces?_escaped`, `text?_quoted`: a character and a text, escaped and read;
* `Ends`, `number?_toString`: what may stand behind a value, and a whole number before it;
* `isWhole`: the values whose numbers are whole ones of 64 bits;
* `value?_compact`: a value is read back from its characters, with what stands behind them left;
* `read?_written`: **a value is read back from its text**.
-/
import ScatterGather.Json.Compact
import ScatterGather.Proofs.Number.Digits

namespace ScatterGather.Json

/-! ### Texts -/

theorem escape?_of_escapeMark? {c mark : Char} (marked : escapeMark? c = some mark) :
    mark ≠ 'u' ∧ escape? mark = some c := by
  unfold escapeMark? at marked
  split at marked <;> cases marked <;> exact ⟨by decide, rfl⟩

theorem ne_of_escapeMark? {c : Char} (unmarked : escapeMark? c = none) : c ≠ '\x22' ∧ c ≠ '\x5c' := by
  constructor
  · rintro rfl
    cases unmarked
  · rintro rfl
    cases unmarked

theorem unit?_of_control {code : Nat} (control : code < 0x20) :
    unit? '0' '0' (code / 16).digitChar (code % 16).digitChar = some (.char (Char.ofNat code)) := by
  revert code
  decide

theorem pieces?_mark {mark c : Char} (named : mark ≠ 'u') (given : escape? mark = some c)
    (rest : List Char) : pieces? ('\x5c' :: mark :: rest) =
      (pieces? rest).map fun read => (.char c :: read.1, read.2) := by
  rw [pieces?]
  · rw [given]
    cases pieces? rest <;> rfl
  · exact fun _ _ _ _ _ number _ => named number

theorem pieces?_plain {c : Char} (plain : ¬c.toNat < 0x20) (noQuote : c ≠ '\x22')
    (noEscape : c ≠ '\x5c') (rest : List Char) : pieces? (c :: rest) =
      (pieces? rest).map fun read => (.char c :: read.1, read.2) := by
  rw [pieces?]
  · rw [if_neg plain]
    cases pieces? rest <;> rfl
  · exact noQuote
  · exact fun _ _ _ _ _ escape _ => noEscape escape
  · exact fun _ _ escape _ => noEscape escape

/-- **An escaped character is read back.** -/
theorem pieces?_escaped (c : Char) (rest : List Char) : pieces? (escaped c ++ rest) =
    (pieces? rest).map fun read => (.char c :: read.1, read.2) := by
  unfold escaped
  split
  · next mark marked =>
    obtain ⟨named, given⟩ := escape?_of_escapeMark? marked
    exact pieces?_mark named given rest
  · next unmarked =>
    by_cases control : c.toNat < 0x20
    · have piece := unit?_of_control control
      rw [Char.ofNat_toNat] at piece
      rw [if_pos control]
      show pieces? ('\x5c' :: 'u' :: '0' :: '0' :: _ :: _ :: rest) = _
      rw [pieces?, piece]
      cases pieces? rest <;> rfl
    · obtain ⟨noQuote, noEscape⟩ := ne_of_escapeMark? unmarked
      rw [if_neg control]
      exact pieces?_plain control noQuote noEscape rest

theorem pieces?_flatMap_escaped (chars rest : List Char) :
    pieces? (chars.flatMap escaped ++ '\x22' :: rest) = some (chars.map .char, rest) := by
  induction chars with
  | nil => rfl
  | cons c chars ih =>
    rw [List.flatMap_cons, List.append_assoc, pieces?_escaped, ih]
    rfl

theorem chars?_map_char (chars : List Char) : chars? (chars.map .char) = some chars := by
  induction chars with
  | nil => rfl
  | cons c chars ih =>
    show (chars? (chars.map .char)).map (c :: ·) = _
    rw [ih]
    rfl

/-- **A text is read back** behind its opening quote. -/
theorem text?_quoted (value : Option String) (rest : List Char) :
    ∃ behind, quoted value = '\x22' :: behind ∧ text? (behind ++ rest) = some (value, rest) := by
  cases value with
  | none =>
    refine ⟨_, rfl, ?_⟩
    have half : unit? 'd' '8' '0' '0' = some (.half 0xD800) := by decide
    show text? ('\x5c' :: 'u' :: 'd' :: '8' :: '0' :: '0' :: '\x22' :: rest) = _
    rw [text?, pieces?, half, pieces?]
    rfl
  | some value =>
    refine ⟨_, rfl, ?_⟩
    unfold text?
    rw [List.append_assoc]
    show (pieces? (_ ++ '\x22' :: rest)).bind _ = _
    rw [pieces?_flatMap_escaped]
    show some ((chars? (value.toList.map .char)).map String.ofList, rest) = _
    rw [chars?_map_char, Option.map_some, String.ofList_toList]

/-! ### Numbers -/

/-- What may stand behind a value: nothing, or one of the marks that end it. -/
def Ends : List Char → Prop
  | [] => True
  | c :: _ => c = ',' ∨ c = ']' ∨ c = '\x7d'

theorem Ends.head_not {rest : List Char} (ends : Ends rest) (holds : Char → Bool)
    (comma : holds ',' = false) (bracket : holds ']' = false) (brace : holds '\x7d' = false) :
    rest.takeWhile holds = [] ∧ rest.dropWhile holds = rest := by
  cases rest with
  | nil => exact ⟨rfl, rfl⟩
  | cons c rest =>
    have fails : holds c = false := by
      rcases ends with rfl | rfl | rfl
      · exact comma
      · exact bracket
      · exact brace
    rw [List.takeWhile_cons_of_neg (by simp [fails]), List.dropWhile_cons_of_neg (by simp [fails])]
    exact ⟨rfl, rfl⟩

theorem Ends.fractionPart? {rest : List Char} (ends : Ends rest) :
    fractionPart? rest = some ([], rest) := by
  cases rest with
  | nil => rfl
  | cons c rest => rcases ends with rfl | rfl | rfl <;> rfl

theorem Ends.exponentPart? {rest : List Char} (ends : Ends rest) :
    exponentPart? rest = some ([], rest) := by
  cases rest with
  | nil => rfl
  | cons c rest => rcases ends with rfl | rfl | rfl <;> rfl

/-- **Digits are the whole part** of a number, as numbers are spelled without zeros in front. -/
theorem wholePart?_toDigits (size : Nat) {rest : List Char} (ends : Ends rest) :
    wholePart? (Nat.toDigits 10 size ++ rest) = some (Nat.toDigits 10 size, rest) := by
  have digits := Whole.isDigit_of_toDigits size
  have unpadded := Whole.unpadded_toDigits size
  obtain ⟨noDigits, others⟩ := ends.head_not Char.isDigit rfl rfl rfl
  cases spelled : Nat.toDigits 10 size with
  | nil => exact absurd spelled Nat.toDigits_ne_nil
  | cons first more =>
    rw [spelled] at digits unpadded
    by_cases zero : first = '0'
    · subst zero
      obtain rfl : more = [] := List.tail_eq_of_cons_eq (unpadded rfl)
      rfl
    · rw [List.cons_append, wholePart?, if_pos (digits first List.mem_cons_self), ← List.cons_append,
        List.takeWhile_append_of_pos digits, List.dropWhile_append_of_pos digits, noDigits, others,
        List.append_nil]
      exact fun same => zero same

/-- **A whole number is read back**, if it is one of 64 bits. -/
theorem number?_toString {value : Int} (word : isWord value = true) {rest : List Char}
    (ends : Ends rest) :
    number? ((toString value).toList ++ rest) = some (.integer value, rest) := by
  have read := Whole.signed?_toString value
  by_cases negative : value < 0
  · obtain ⟨size, rfl⟩ : ∃ size : Nat, value = -size := ⟨value.natAbs, by omega⟩
    have notZero : (-(size : Int) == 0) = false := beq_false_of_ne (by omega)
    rw [Whole.toList_toString_neg (by omega)] at read ⊢
    simp only [number?, List.cons_append, Option.bind_eq_bind, wholePart?_toDigits size ends,
      Option.bind_some, ends.fractionPart?, ends.exponentPart?, ite_true, List.nil_append, read]
    exact if_pos ⟨rfl, rfl, word, by rw [notZero]; rfl⟩
  · obtain ⟨size, rfl⟩ : ∃ size : Nat, value = size := ⟨value.natAbs, by omega⟩
    rw [Whole.toList_toString_natCast] at read ⊢
    have whole := wholePart?_toDigits size ends
    generalize Nat.toDigits 10 size ++ rest = chars at whole ⊢
    unfold number?
    split
    next sign body parted =>
    split at parted
    · cases whole
    · cases parted
      simp only [Option.bind_eq_bind, whole, Option.bind_some, ends.fractionPart?, ends.exponentPart?]
      rw [if_neg Bool.false_ne_true, List.nil_append, read, Option.bind_some]
      exact if_pos ⟨rfl, rfl, word, rfl⟩

/-! ### Values -/

mutual

/-- Tells whether all numbers in a value are whole ones of 64 bits. -/
def isWhole : Json → Bool
  | integer value => isWord value
  | real _ => false
  | array items => areWholeItems items
  | object members => areWholeMembers members
  | _ => true

/-- Tells whether all numbers in items are whole. -/
def areWholeItems : List Json → Bool
  | [] => true
  | item :: rest => isWhole item && areWholeItems rest

/-- Tells whether all numbers in members are whole. -/
def areWholeMembers : List (Option String × Json) → Bool
  | [] => true
  | (_, value) :: rest => isWhole value && areWholeMembers rest

end

/-- What a value may begin with: white space is passed over, and a bracket would end an array. -/
def Begins (first : Char) : Prop :=
  first ∉ [' ', '\n', '\t', '\r', ']']

instance (first : Char) : Decidable (Begins first) :=
  inferInstanceAs (Decidable (_ ∉ _))

theorem Begins.skipBlanks {first : Char} (begins : Begins first) (behind : List Char) :
    skipBlanks (first :: behind) = first :: behind := by
  simp only [Begins, List.mem_cons, List.not_mem_nil, or_false, not_or] at begins
  exact List.dropWhile_cons_of_neg (by simp [begins])

/-- Digits and a minus sign begin a number. -/
theorem toString_head (value : Int) : ∃ first behind, (toString value).toList = first :: behind ∧
    (first = '-' ∨ first.isDigit = true) := by
  by_cases negative : value < 0
  · obtain ⟨size, rfl⟩ : ∃ size : Nat, value = -size := ⟨value.natAbs, by omega⟩
    exact ⟨_, _, Whole.toList_toString_neg (by omega), Or.inl rfl⟩
  · obtain ⟨size, rfl⟩ : ∃ size : Nat, value = size := ⟨value.natAbs, by omega⟩
    obtain ⟨first, behind, spelled⟩ := List.exists_cons_of_ne_nil (Nat.toDigits_ne_nil (n := size))
    refine ⟨first, behind, (Whole.toList_toString_natCast size).trans spelled, Or.inr ?_⟩
    exact Whole.isDigit_of_toDigits size first (spelled ▸ List.mem_cons_self)

theorem begins_of_number {first : Char} (numeric : first = '-' ∨ first.isDigit = true) :
    Begins first := by
  rcases numeric with rfl | digit
  · decide
  · intro blank
    simp only [List.mem_cons, List.not_mem_nil, or_false] at blank
    rcases blank with rfl | rfl | rfl | rfl | rfl <;> cases digit

theorem value?_number {first : Char} (numeric : first = '-' ∨ first.isDigit = true) (steps : Nat)
    (behind : List Char) : value? (steps + 1) (first :: behind) = number? (first :: behind) := by
  have other {mark : Char} (noMinus : mark ≠ '-') (noDigit : mark.isDigit = false) : first ≠ mark := by
    rintro rfl
    rcases numeric with minus | digit
    · exact noMinus minus
    · cases noDigit.symm.trans digit
  rw [value?, (begins_of_number numeric).skipBlanks]
  split
  all_goals first
    | rfl
    | next same => exact absurd (List.head_eq_of_cons_eq same) (other (by decide) rfl)

/-- A value begins as a value may. -/
theorem compact_head {json : Json} (whole : json.isWhole = true) :
    ∃ first behind, json.compact = first :: behind ∧ Begins first := by
  cases json with
  | null => exact ⟨_, _, rfl, by decide⟩
  | boolean value => cases value <;> exact ⟨_, _, rfl, by decide⟩
  | integer value =>
    obtain ⟨first, behind, spelled, numeric⟩ := toString_head value
    exact ⟨first, behind, spelled, begins_of_number numeric⟩
  | real spelling => cases whole
  | text value => cases value <;> exact ⟨_, _, rfl, by decide⟩
  | array items => exact ⟨_, _, rfl, by decide⟩
  | object members => exact ⟨_, _, rfl, by decide⟩

theorem value?_array {first : Char} (begins : Begins first) (steps : Nat) (behind : List Char) :
    value? (steps + 1) ('[' :: first :: behind) =
      (items? steps (first :: behind)).map fun read => (.array read.1, read.2) := by
  have opened : skipBlanks ('[' :: first :: behind) = '[' :: first :: behind := rfl
  simp only [value?, opened, begins.skipBlanks]
  split
  · next same =>
    obtain rfl := List.head_eq_of_cons_eq same
    exact absurd begins (by decide)
  · cases items? steps (first :: behind) <;> rfl

theorem value?_object (steps : Nat) (behind : List Char) :
    value? (steps + 1) ('\x7b' :: '\x22' :: behind) =
      (members? steps ('\x22' :: behind)).map fun read => (.object read.1, read.2) := by
  rw [value?]
  show (members? steps ('\x22' :: behind)).bind _ = _
  cases members? steps ('\x22' :: behind) <;> rfl

theorem value?_text (steps : Nat) (value : Option String) (rest : List Char) :
    value? (steps + 1) (quoted value ++ rest) = some (.text value, rest) := by
  obtain ⟨behind, spelled, read⟩ := text?_quoted value rest
  rw [spelled, value?]
  show (text? (behind ++ rest)).bind _ = _
  rw [read]
  rfl

theorem compactItems_head {item : Json} (items : List Json) (whole : item.isWhole = true) :
    ∃ first behind, compactItems (item :: items) = first :: behind ∧ Begins first := by
  obtain ⟨first, behind, spelled, begins⟩ := compact_head whole
  cases items with
  | nil => exact ⟨first, _, by rw [compactItems, spelled, List.cons_append], begins⟩
  | cons next items =>
    refine ⟨first, behind ++ ',' :: compactItems (next :: items), ?_, begins⟩
    rw [compactItems, spelled, List.cons_append]
    exact List.cons_ne_nil next items

theorem compactMembers_head (name : Option String) (value : Json)
    (members : List (Option String × Json)) :
    ∃ behind, compactMembers ((name, value) :: members) = '\x22' :: behind := by
  obtain ⟨behind, spelled, -⟩ := text?_quoted name []
  cases members with
  | nil => exact ⟨_, by rw [compactMembers, spelled, List.cons_append]⟩
  | cons next members =>
    refine ⟨behind ++ ':' :: (compact value ++ ',' :: compactMembers (next :: members)), ?_⟩
    rw [compactMembers, spelled, List.cons_append]
    exact List.cons_ne_nil next members

section Steps

variable {steps : Nat} {chars rest : List Char}

theorem items?_last {item : Json} (read : value? steps chars = some (item, ']' :: rest)) :
    items? (steps + 1) chars = some ([item], rest) := by
  rw [items?, read]
  rfl

theorem items?_more {item : Json} {items : List Json} {behind : List Char}
    (read : value? steps chars = some (item, ',' :: behind))
    (others : items? steps behind = some (items, rest)) :
    items? (steps + 1) chars = some (item :: items, rest) := by
  rw [items?, read]
  show (items? steps behind).bind _ = _
  rw [others]
  rfl

theorem members?_last {name : Option String} {value : Json}
    (read : value? steps chars = some (value, '\x7d' :: rest)) :
    members? (steps + 1) (quoted name ++ ':' :: chars) = some ([(name, value)], rest) := by
  obtain ⟨behind, spelled, named⟩ := text?_quoted name (':' :: chars)
  rw [spelled, members?]
  show (text? (behind ++ ':' :: chars)).bind _ = _
  rw [named]
  show (value? steps chars).bind _ = _
  rw [read]
  rfl

theorem members?_more {name : Option String} {value : Json} {members : List (Option String × Json)}
    {behind : List Char} (read : value? steps chars = some (value, ',' :: behind))
    (others : members? steps behind = some (members, rest)) :
    members? (steps + 1) (quoted name ++ ':' :: chars) = some ((name, value) :: members, rest) := by
  obtain ⟨after, spelled, named⟩ := text?_quoted name (':' :: chars)
  rw [spelled, members?]
  show (text? (after ++ ':' :: chars)).bind _ = _
  rw [named]
  show (value? steps chars).bind _ = _
  rw [read]
  show (members? steps behind).bind _ = _
  rw [others]
  rfl

end Steps

-- By induction on the value: a step is spent where it opens, and its parts are shorter by what was read.
mutual

/-- **A value is read back** from its characters, and leaves what stands behind them. Two steps for each
character are enough. -/
theorem value?_compact : ∀ (json : Json), json.isWhole = true → ∀ {steps : Nat} {rest : List Char},
    2 * json.compact.length ≤ steps → Ends rest →
      value? steps (json.compact ++ rest) = some (json, rest)
  | .null, _, steps + 1, _, _, _ => rfl
  | .boolean true, _, steps + 1, _, _, _ => rfl
  | .boolean false, _, steps + 1, _, _, _ => rfl
  | .integer value, whole, steps + 1, rest, _, ends => by
    obtain ⟨first, behind, spelled, numeric⟩ := toString_head value
    have read := number?_toString whole ends
    rw [spelled] at read
    rw [compact, spelled, List.cons_append, value?_number numeric]
    exact read
  | .text value, _, steps + 1, rest, _, _ => value?_text steps value rest
  | .array [], _, steps + 1, _, _, _ => rfl
  | .array (item :: items), whole, steps + 1, rest, enough, _ => by
    rw [compact, List.length_cons] at enough
    have read : items? steps (compactItems (item :: items) ++ rest) = some (item :: items, rest) :=
      items?_compact item items whole (by omega)
    rw [isWhole, areWholeItems, Bool.and_eq_true] at whole
    obtain ⟨first, behind, spelled, begins⟩ := compactItems_head items whole.1
    rw [spelled] at read
    rw [compact, spelled]
    show value? (steps + 1) ('[' :: first :: (behind ++ rest)) = _
    rw [value?_array begins]
    show (items? steps (first :: behind ++ rest)).map _ = _
    rw [read]
    rfl
  | .object [], _, steps + 1, _, _, _ => rfl
  | .object ((name, value) :: members), whole, steps + 1, rest, enough, _ => by
    rw [compact, List.length_cons] at enough
    have read : members? steps (compactMembers ((name, value) :: members) ++ rest) =
        some ((name, value) :: members, rest) :=
      members?_compact name value members whole (by omega)
    obtain ⟨behind, spelled⟩ := compactMembers_head name value members
    rw [spelled] at read
    rw [compact, spelled]
    show value? (steps + 1) ('\x7b' :: '\x22' :: (behind ++ rest)) = _
    rw [value?_object]
    show (members? steps ('\x22' :: behind ++ rest)).map _ = _
    rw [read]
    rfl
  | json, whole, 0, _, enough, _ => by
    obtain ⟨first, behind, spelled, -⟩ := compact_head whole
    rw [spelled, List.length_cons] at enough
    omega

/-- Items are read back up to the end of their array. -/
theorem items?_compact : ∀ (item : Json) (items : List Json), areWholeItems (item :: items) = true →
    ∀ {steps : Nat} {rest : List Char}, 2 * (compactItems (item :: items)).length + 1 ≤ steps →
      items? steps (compactItems (item :: items) ++ rest) = some (item :: items, rest)
  | item, [], whole, steps + 1, rest, enough => by
    rw [areWholeItems, Bool.and_eq_true] at whole
    rw [compactItems, List.length_append, List.length_singleton] at enough
    rw [compactItems, List.append_assoc]
    exact items?_last (value?_compact item whole.1 (by omega) (.inr (.inl rfl)))
  | item, next :: items, whole, steps + 1, rest, enough => by
    rw [areWholeItems, Bool.and_eq_true] at whole
    rw [compactItems, List.length_append, List.length_cons] at enough
    rw [compactItems, List.append_assoc]
    · exact items?_more (value?_compact item whole.1 (by omega) (.inl rfl))
        (items?_compact next items whole.2 (by omega))
    all_goals exact List.cons_ne_nil next items

/-- Members are read back up to the end of their object. -/
theorem members?_compact : ∀ (name : Option String) (value : Json)
    (members : List (Option String × Json)), areWholeMembers ((name, value) :: members) = true →
    ∀ {steps : Nat} {rest : List Char},
    2 * (compactMembers ((name, value) :: members)).length + 1 ≤ steps →
      members? steps (compactMembers ((name, value) :: members) ++ rest) =
        some ((name, value) :: members, rest)
  | name, value, [], whole, steps + 1, rest, enough => by
    rw [areWholeMembers, Bool.and_eq_true] at whole
    rw [compactMembers] at enough ⊢
    simp only [List.length_append, List.length_cons, List.length_nil] at enough
    simp only [List.append_assoc, List.cons_append]
    exact members?_last (value?_compact value whole.1 (by omega) (.inr (.inr rfl)))
  | name, value, (nextName, nextValue) :: members, whole, steps + 1, rest, enough => by
    rw [areWholeMembers, Bool.and_eq_true] at whole
    rw [compactMembers] at enough ⊢
    · simp only [List.length_append, List.length_cons] at enough
      simp only [List.append_assoc, List.cons_append]
      exact members?_more (value?_compact value whole.1 (by omega) (.inl rfl))
        (members?_compact nextName nextValue members whole.2 (by omega))
    all_goals exact List.cons_ne_nil _ members

end

/-- **A value is read back from its text**, if its numbers are whole ones of 64 bits. -/
theorem read?_written {json : Json} (whole : json.isWhole = true) : read? json.written = some json := by
  have read : value? (2 * json.compact.length + 2) (json.compact ++ []) = some (json, []) :=
    value?_compact json whole (Nat.le_add_right _ _) trivial
  rw [List.append_nil] at read
  unfold read? written
  rw [String.toList_ofList]
  show (value? (2 * json.compact.length + 2) json.compact).bind _ = _
  rw [read]
  rfl

end ScatterGather.Json
