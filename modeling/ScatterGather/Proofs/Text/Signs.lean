/-
**Signs in uppercase.**

Points and quotes are looked for in names whose letter case does not matter, so it must not matter either
whether they are looked for before or after a name is put in uppercase:

* `IsSign`: characters of ASCII that are no letters;
* `upperChar_sign`, `eq_of_sign_mem_upperChar`: uppercase leaves a sign alone, and makes one of **no other
  character**;
* `sign_mem_upper`: a text has a sign if its uppercase form does;
* `Passes`, `Passes.takeWhile`, `Passes.dropWhile` — what is cut at signs may be put in uppercase **before
  or after that**.
-/
import ScatterGather.Sql.Token
import ScatterGather.Text.Case

namespace ScatterGather.Text

/-! ### Characters -/

/-- A character that uppercase leaves alone, and that comes from no other one: any of ASCII but its
letters. -/
def IsSign (c : Char) : Prop :=
  0 < c.toNat ∧ c.toNat < 0x80 ∧ c.isAlpha = false

instance (c : Char) : Decidable (IsSign c) :=
  inferInstanceAs (Decidable (_ ∧ _ ∧ _))

theorem eq_of_ofNat {code : Nat} {sign : Char} (isSign : IsSign sign) (same : Char.ofNat code = sign) :
    code = sign.toNat := by
  by_cases valid : code.isValidChar
  · rw [← same, Char.ofNat, dif_pos valid]
    rfl
  · rw [Char.ofNat, dif_neg valid] at same
    obtain rfl := same
    exact absurd isSign (by decide)

/-- The tables lead to letters, or beyond ASCII. -/
theorem tables_signless :
    (∀ entry ∈ Uppercase.expansions, ∀ code ∈ entry.2, (Char.ofNat code).isAlpha = true ∨ 0x80 ≤ code) ∧
      ∀ run ∈ Uppercase.runs, (0x41 : Int) ≤ run.1 + run.2.2.2 ∧ run.2.1 + run.2.2.2 ≤ 0x5A ∨
        (0x80 : Int) ≤ run.1 + run.2.2.2 := by
  decide +kernel

theorem upperChar_sign {sign : Char} (isSign : IsSign sign) : upperChar sign = [sign] := by
  have all : ∀ code < 0x80, (Char.ofNat code).isAlpha = false →
      (Char.ofNat code).toUpper = Char.ofNat code := by decide
  have here := all sign.toNat isSign.2.1
  rw [Char.ofNat_toNat] at here
  rw [upperChar, if_pos isSign.2.1, here isSign.2.2]

/-- **No other character becomes a sign** in uppercase. -/
theorem eq_of_sign_mem_upperChar {c sign : Char} (isSign : IsSign sign) (inside : sign ∈ upperChar c) :
    c = sign := by
  unfold upperChar at inside
  split at inside
  · next ascii =>
    have all : ∀ code < 0x80, (Char.ofNat code).toUpper.isAlpha = true ∨
        (Char.ofNat code).toUpper = Char.ofNat code := by decide
    have here := all c.toNat ascii
    rw [Char.ofNat_toNat, ← List.mem_singleton.mp inside, isSign.2.2] at here
    exact (here.resolve_left Bool.false_ne_true).symm
  · unfold upperBeyondAscii at inside
    split at inside
    · next codes found =>
      obtain ⟨code, isCode, same⟩ := List.mem_map.mp inside
      obtain ⟨before, after, whole, -⟩ := List.lookup_eq_some_iff.mp found
      have listed : (c.toNat, codes) ∈ Uppercase.expansions := by simp [whole]
      have low := isSign.2.1
      rw [← eq_of_ofNat isSign same] at low
      rcases tables_signless.1 _ listed code isCode with letter | above
      · rw [same, isSign.2.2] at letter
        cases letter
      · omega
    · dsimp only at inside
      split at inside
      · next first last step offset found =>
        have listed := List.mem_of_find?_eq_some found
        have within := List.find?_some found
        simp only [Bool.and_eq_true, decide_eq_true_eq] at within
        have image := eq_of_ofNat isSign (List.mem_singleton.mp inside).symm
        have low := isSign.2.1
        rcases tables_signless.2 _ listed with ⟨above, below⟩ | beyond
        · have letters : ∀ code < 0x80, 0x41 ≤ code → code ≤ 0x5A →
              (Char.ofNat code).isAlpha = true := by decide
          have here := letters sign.toNat low
          rw [Char.ofNat_toNat, isSign.2.2] at here
          dsimp only at above below
          exact absurd (here (by omega) (by omega)) Bool.false_ne_true
        · dsimp only at beyond
          omega
      · exact (List.mem_singleton.mp inside).symm

theorem upperChar_ne_nil (c : Char) : upperChar c ≠ [] := by
  unfold upperChar upperBeyondAscii
  have filled : ∀ entry ∈ Uppercase.expansions, entry.2 ≠ [] := by decide +kernel
  split
  · exact List.cons_ne_nil _ _
  · split
    · next codes found =>
      obtain ⟨before, after, whole, -⟩ := List.lookup_eq_some_iff.mp found
      have listed : (c.toNat, codes) ∈ Uppercase.expansions := by simp [whole]
      exact fun none => filled _ listed (List.map_eq_nil_iff.mp none)
    · dsimp only
      split <;> exact List.cons_ne_nil _ _

/-! ### Texts -/

theorem toList_upper (text : String) : (upper text).toList = text.toList.flatMap upperChar :=
  String.toList_ofList

theorem upper_append (left right : String) : upper (left ++ right) = upper left ++ upper right := by
  apply String.toList_injective
  simp only [toList_upper, String.toList_append, List.flatMap_append]

/-- Uppercase neither puts signs into a text nor takes any out of it. -/
theorem sign_mem_upper {sign : Char} (isSign : IsSign sign) {text : String} :
    sign ∈ (upper text).toList ↔ sign ∈ text.toList := by
  rw [toList_upper, List.mem_flatMap]
  constructor
  · rintro ⟨c, inside, made⟩
    exact eq_of_sign_mem_upperChar isSign made ▸ inside
  · intro inside
    exact ⟨sign, inside, upperChar_sign isSign ▸ List.mem_cons_self⟩

/-- Uppercase puts no points into a text. -/
theorem not_mem_upper {text : String} (none : '.' ∉ text.toList) : '.' ∉ (upper text).toList :=
  mt (sign_mem_upper (by decide)).mp none

section Cuts

variable {test : Char → Bool} {change : Char → List Char}

/-- A change of characters that leaves those alone which are cut at, and makes none of the others one. -/
structure Passes (change : Char → List Char) (test : Char → Bool) : Prop where
  alone : ∀ c, test c = true → change c = [c]
  filled : ∀ c, change c ≠ []
  apart : ∀ c, test c = false → ∀ d ∈ change c, test d = false

theorem passes_upperChar (signs : ∀ c, test c = true → IsSign c) : Passes upperChar test where
  alone := fun c isSign => upperChar_sign (signs c isSign)
  filled := upperChar_ne_nil
  apart := fun c other d made => Bool.eq_false_iff.mpr fun isSign => by
    obtain rfl := eq_of_sign_mem_upperChar (signs d isSign) made
    rw [isSign] at other
    cases other

theorem Passes.reverse (passes : Passes change test) : Passes (List.reverse ∘ change) test where
  alone := fun c isSign => congrArg List.reverse (passes.alone c isSign)
  filled := fun c none => passes.filled c (List.reverse_eq_nil_iff.mp none)
  apart := fun c other d made => passes.apart c other d (List.mem_reverse.mp made)

theorem Passes.takeWhile (passes : Passes change test) (chars : List Char) :
    (chars.flatMap change).takeWhile (!test ·) = (chars.takeWhile (!test ·)).flatMap change := by
  induction chars with
  | nil => rfl
  | cons c rest ih =>
    rw [List.flatMap_cons]
    cases isSign : test c with
    | true =>
      rw [passes.alone c isSign, List.takeWhile_cons_of_neg (by simp [isSign]), List.singleton_append,
        List.takeWhile_cons_of_neg (by simp [isSign])]
      rfl
    | false =>
      rw [List.takeWhile_cons_of_pos (by simp [isSign]), List.flatMap_cons, ← ih]
      exact List.takeWhile_append_of_pos fun d made => by simp [passes.apart c isSign d made]

theorem Passes.dropWhile (passes : Passes change test) (chars : List Char) :
    (chars.flatMap change).dropWhile test = (chars.dropWhile test).flatMap change := by
  induction chars with
  | nil => rfl
  | cons c rest ih =>
    rw [List.flatMap_cons]
    cases isSign : test c with
    | true =>
      rw [passes.alone c isSign, List.singleton_append, List.dropWhile_cons_of_pos isSign,
        List.dropWhile_cons_of_pos isSign, ih]
    | false =>
      obtain ⟨first, others, made⟩ := List.exists_cons_of_ne_nil (passes.filled c)
      have kept : ¬ test first = true := by
        rw [passes.apart c isSign first (made ▸ List.mem_cons_self)]
        exact Bool.false_ne_true
      rw [List.dropWhile_cons_of_neg (by simp [isSign]), List.flatMap_cons, made, List.cons_append,
        List.dropWhile_cons_of_neg kept]

end Cuts

end ScatterGather.Text

namespace ScatterGather.Sql

/-! ### Joined names -/

/-- The parts of a name in uppercase. -/
def spelled (path : List Ident) : List String :=
  path.map fun part => Text.upper part.name

theorem upper_pathName (path : List Ident) :
    Text.upper (pathName path) = joined "." (spelled path) := by
  unfold pathName spelled joined
  induction path with
  | nil => rfl
  | cons part rest ih =>
    cases rest with
    | nil => simp
    | cons next rest =>
      simp only [List.map_cons, String.intercalate_cons_cons] at ih ⊢
      rw [Text.upper_append, Text.upper_append, ih]
      rfl

/-- **Joined names are the same only if their parts are**, where no part has a point of its own. -/
theorem joined_injective {parts others : List String} (given : parts ≠ []) (givenOther : others ≠ [])
    (plain : ∀ part ∈ parts, '.' ∉ part.toList) (plainOther : ∀ part ∈ others, '.' ∉ part.toList)
    (same : joined "." parts = joined "." others) : parts = others := by
  have split : ∀ {names : List String}, names ≠ [] → (∀ name ∈ names, '.' ∉ name.toList) →
      (joined "." names).toList.splitOn '.' = names.map String.toList := by
    intro names given plain
    rw [joined, String.toList_intercalate]
    refine List.splitOn_intercalate '.' (fun name inside => ?_) (by simpa using given)
    obtain ⟨part, isPart, rfl⟩ := List.mem_map.mp inside
    exact plain part isPart
  have lists : parts.map String.toList = others.map String.toList := by
    rw [← split given plain, ← split givenOther plainOther, same]
  exact (List.map_inj_right fun _ _ equal => String.toList_injective equal).mp lists

/-- A joined name that has no point is that of its last part. -/
theorem getLast?_of_joined {parts : List String} {part : String} (given : parts ≠ [])
    (plain : ∀ part ∈ parts, '.' ∉ part.toList) (dotless : '.' ∉ part.toList)
    (same : joined "." parts = part) : parts.getLast? = some part := by
  have single : joined "." [part] = part := by simp [joined]
  rw [joined_injective given (List.cons_ne_nil part []) plain (by simpa using dotless)
    (same.trans single.symm)]
  rfl

end ScatterGather.Sql
