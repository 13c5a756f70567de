/-
**The numbers of a text are numerals.**

* `Token.IsNumeral`: a token is the text of a numeral, if it is a number at all;
* `exists_power`, `exists_fraction`, `isNumeral_numeric`: what is read from a digit or a point on is one;
* `isNumeral_scanOne`, `isNumeral_scan` — and so is **every number of a text**, wherever it stands.
-/
import ScatterGather.Proofs.Number.Numeral
import ScatterGather.Sql.Token.Scan

namespace ScatterGather.Sql.Token

/-- If a token is a number, it is the text of a numeral. -/
def IsNumeral : Token → Prop
  | number digits _ => ∃ numeral : Numeral, numeral.text = digits
  | _ => True

/-! ### One number -/

theorem isDigit_of_mem_takeWhile {chars : List Char} :
    ∀ c ∈ chars.takeWhile Char.isDigit, c.isDigit = true :=
  List.all_eq_true.mp List.all_takeWhile

theorem takeWhile_dropWhile_isDigit (chars : List Char) :
    (chars.dropWhile Char.isDigit).takeWhile Char.isDigit = [] := by
  have other := List.head?_dropWhile_not Char.isDigit chars
  cases follows : chars.dropWhile Char.isDigit with
  | nil => rfl
  | cons c rest =>
    rw [follows, List.head?_cons] at other
    exact List.takeWhile_cons_of_neg (by rw [other]; exact Bool.false_ne_true)

/-- The power of ten that is read is one, or nothing. -/
theorem exists_power (chars : List Char) :
    ∃ power : Option Power, power.elim [] Power.chars = (exponent chars).2.1 := by
  unfold exponent
  split
  · next mark rest =>
    split
    · next marked =>
      split
      next sign body signed =>
      have isSign : ∃ written : Option Char, written.toList = sign ∧ ∀ c ∈ written, c = '+' ∨ c = '-' := by
        split at signed <;> obtain ⟨rfl, -⟩ := Prod.mk.inj signed
        · exact ⟨some '+', rfl, fun c same => Or.inl (Option.some.inj same).symm⟩
        · exact ⟨some '-', rfl, fun c same => Or.inr (Option.some.inj same).symm⟩
        · exact ⟨none, rfl, nofun⟩
      obtain ⟨written, rfl, signs⟩ := isSign
      split
      · exact ⟨none, rfl⟩
      · next filled =>
        have isMark : mark = 'e' ∨ mark = 'E' := by simpa using marked
        exact ⟨some ⟨mark, written, _, isMark, signs, filled, isDigit_of_mem_takeWhile⟩, rfl⟩
    · exact ⟨none, rfl⟩
  · exact ⟨none, rfl⟩

section Mantissa

variable {first : Char} {rest point behind : List Char}

/-- Behind the digits that are read first there is a point, and the digits after it; or there is no point, and
there are no more digits. -/
theorem exists_fraction (begins : first.isDigit = true ∨ first = '.')
    (pointed : (match (first :: rest).dropWhile Char.isDigit with
      | '.' :: rest => (['.'], rest)
      | rest => ([], rest)) = (point, behind)) :
    let whole := (first :: rest).takeWhile Char.isDigit
    ∃ fraction : Option (List Char),
      whole ++ fraction.elim [] ('.' :: ·) = whole ++ point ++ behind.takeWhile Char.isDigit ∧
        (∀ c ∈ fraction.getD [], c.isDigit = true) ∧ (whole = [] → fraction ≠ none) := by
  intro whole
  split at pointed <;> obtain ⟨rfl, rfl⟩ := Prod.mk.inj pointed
  · next behindPoint _ =>
    refine ⟨some (behindPoint.takeWhile Char.isDigit), ?_, isDigit_of_mem_takeWhile, nofun⟩
    exact List.append_cons whole '.' _
  · next noPoint =>
    refine ⟨none, ?_, nofun, fun noDigit => ?_⟩
    · rw [takeWhile_dropWhile_isDigit, Option.elim_none, List.append_nil, List.append_nil]
    · rcases begins with digit | rfl
      · exact absurd (noDigit.symm.trans (List.takeWhile_cons_of_pos digit)) (List.cons_ne_nil _ _).symm
      · exact absurd rfl (noPoint rest)

/-- What begins with a digit or a point is a numeral, if it is a number. -/
theorem isNumeral_numeric (begins : first.isDigit = true ∨ first = '.') :
    (numeric (first :: rest)).1.IsNumeral := by
  unfold numeric
  extract_lets whole
  split
  · trivial
  · next afterWhole _ _ =>
    split
    next point afterPoint pointed =>
    extract_lets mantissa behind
    obtain ⟨fraction, isMantissa, isFraction, pointOrDigit⟩ := exists_fraction begins pointed
    split
    · trivial
    next notPoint =>
    split
    next begun power afterPower isPower =>
    have filled : whole ++ fraction.getD [] ≠ [] := by
      intro empty
      obtain ⟨noDigit, noPlaces⟩ := List.append_eq_nil_iff.mp empty
      cases fraction with
      | none => exact pointOrDigit noDigit rfl
      | some places =>
        obtain rfl : places = [] := noPlaces
        exact notPoint (isMantissa.symm.trans (congrArg (· ++ ['.']) noDigit))
    have isNumeral : ∃ numeral : Numeral, numeral.text = String.ofList (mantissa ++ power) := by
      obtain ⟨written, isWritten⟩ := exists_power behind
      rw [isPower] at isWritten
      refine ⟨⟨whole, fraction, written, isDigit_of_mem_takeWhile, isFraction, filled⟩, ?_⟩
      show String.ofList (whole ++ (fraction.elim [] ('.' :: ·) ++ written.elim [] Power.chars)) = _
      rw [← List.append_assoc, isMantissa, isWritten]
    split
    · trivial
    · extract_lets digits
      split
      · exact isNumeral
      · exact isNumeral

end Mantissa

/-! ### All numbers -/

section Parts

variable {build : String → Token} {quote : Char} {escapes : Bool} {rest after : List Char} {token : Token}

theorem isNumeral_quotedWith (other : ∀ text, (build text).IsNumeral)
    (read : quotedWith build quote escapes rest = .ok (some token, after)) : token.IsNumeral := by
  unfold quotedWith at read
  split at read
  · cases read
    exact other _
  · cases read

theorem isNumeral_letterOrLiteral {letter mark : Char} {quotes : List Char}
    (read : letterOrLiteral letter mark quotes escapes rest = .ok (some token, after)) :
    token.IsNumeral := by
  unfold letterOrLiteral at read
  split at read
  · split at read
    · refine isNumeral_quotedWith ?_ read
      exact fun _ => trivial
    · cases read
      trivial
  · cases read
    trivial

theorem isNumeral_letterOrEscaped {letter : Char}
    (read : letterOrEscaped letter rest = .ok (some token, after)) : token.IsNumeral := by
  unfold letterOrEscaped at read
  split at read
  · cases read
    trivial
  · split at read
    · split at read <;> cases read
      trivial
    · cases read
      trivial

theorem isNumeral_atSign : (atSign rest).1.IsNumeral := by
  unfold atSign
  split <;> trivial

theorem isNumeral_symbolic {first : Char} : (symbolic first rest).1.IsNumeral := by
  unfold symbolic
  split <;> trivial

end Parts

/-- The first token of a text is a numeral, if it is a number. -/
theorem isNumeral_scanOne {first : Char} {rest after : List Char} {token : Token}
    (read : scanOne first rest = .ok (some token, after)) : token.IsNumeral := by
  unfold scanOne at read
  split at read
  · cases read
  split at read
  case h_1 | h_2 | h_5 | h_6 | h_7 | h_8 => exact isNumeral_letterOrLiteral read
  case h_3 | h_4 => exact isNumeral_letterOrEscaped read
  case h_9 | h_10 => cases read
  case h_11 => split at read <;> cases read
  case h_12 =>
    cases read
    exact isNumeral_atSign
  case h_13 =>
    cases read
    trivial
  case h_14 =>
    split at read
    · refine isNumeral_quotedWith ?_ read
      exact fun _ => trivial
    split at read
    · refine isNumeral_quotedWith ?_ read
      exact fun _ => trivial
    split at read
    · next begins =>
      cases read
      refine isNumeral_numeric ?_
      simpa using begins
    split at read
    · cases read
      trivial
    split at read <;> cases read
    exact isNumeral_symbolic

/-- **Every number of a text is a numeral.** -/
theorem isNumeral_scan {chars : List Char} {tokens : List Token} (scanned : scan chars = .ok tokens) :
    ∀ token ∈ tokens, token.IsNumeral := by
  have within : ∀ steps chars tokens, scanWithin steps chars = .ok tokens →
      ∀ token ∈ tokens, token.IsNumeral := by
    intro steps
    induction steps with
    | zero =>
      intro chars tokens scanned
      cases chars <;> cases scanned
      exact nofun
    | succ steps ih =>
      intro chars tokens scanned
      cases chars with
      | nil =>
        cases scanned
        exact nofun
      | cons first rest =>
        rw [scanWithin] at scanned
        split at scanned
        · cases scanned
        · exact ih _ _ scanned
        · next token after read =>
          split at scanned
          · next more scannedMore =>
            cases scanned
            exact List.forall_mem_cons.mpr ⟨isNumeral_scanOne read, ih _ _ scannedMore⟩
          · cases scanned
  exact within _ _ _ scanned

end ScatterGather.Sql.Token
