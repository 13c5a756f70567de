/-
**What stands before a statement.**

The kind of a statement is told by its first word, and white space, comments and opening parentheses may stand
before it:

* `IsPiece`, `IsNoise`: one of them, and any number of them in any order; a comment is one that **ends, and
  not before its end**;
* `IsUnclosed`: a comment that does not end;
* `skip_piece`, `skip_noise` — a piece of noise is skipped as a whole, and what stands behind it is read as if
  it stood alone;
* `exists_pieces` — **every text** is some pieces and a rest that is no noise, or that is a comment without an
  end;
* `classify_behind_noise` — the kind of a statement **with and without noise**.
-/
import ScatterGather.Sql.Kind

namespace ScatterGather.Sql.Kind

/-! ### Noise -/

/-- The end of a comment that goes on over lines. -/
def commentEnd : List Char := ['*', '/']

/-- A character of white space, a whole comment, or an opening parenthesis. -/
inductive IsPiece : List Char → Prop
  | blank {c : Char} : Text.isBlank c = true → IsPiece [c]
  | comment {body : List Char} : ¬ commentEnd <:+: body → IsPiece ('/' :: '*' :: (body ++ commentEnd))
  | dashes {body : List Char} : '\n' ∉ body → IsPiece ('-' :: '-' :: (body ++ ['\n']))
  | hash {body : List Char} : '\n' ∉ body → IsPiece ('#' :: (body ++ ['\n']))
  | parenthesis : IsPiece ['(']

/-- A comment that does not end. -/
inductive IsUnclosed : List Char → Prop
  | comment {body : List Char} : ¬ commentEnd <:+: body → IsUnclosed ('/' :: '*' :: body)
  | dashes {body : List Char} : '\n' ∉ body → IsUnclosed ('-' :: '-' :: body)
  | hash {body : List Char} : '\n' ∉ body → IsUnclosed ('#' :: body)

/-- White space, whole comments and opening parentheses, in any number and order. -/
def IsNoise (chars : List Char) : Prop :=
  ∃ pieces : List (List Char), (∀ piece ∈ pieces, IsPiece piece) ∧ pieces.flatten = chars

/-- Tells whether a text begins with white space, a comment or an opening parenthesis. -/
def opensNoise : List Char → Bool
  | '/' :: '*' :: _ | '-' :: '-' :: _ | '#' :: _ | '(' :: _ => true
  | c :: _ => Text.isBlank c
  | [] => false

theorem IsPiece.ne_nil {piece : List Char} (isPiece : IsPiece piece) : piece ≠ [] := by
  cases isPiece <;> exact List.cons_ne_nil _ _

/-! ### Comments -/

theorem skip_comment_cons {c : Char} {rest : List Char} (goesOn : ¬ commentEnd <+: c :: rest) :
    skip .comment (c :: rest) = skip .comment rest := by
  rw [skip.eq_def]
  split <;> try contradiction
  · next ends => exact absurd ⟨_, ends.symm⟩ goesOn
  · next same => rw [(List.cons.inj same).2]

/-- A comment is skipped up to its end. -/
theorem skip_comment {body : List Char} (whole : ¬ commentEnd <:+: body) (rest : List Char) :
    skip .comment (body ++ commentEnd ++ rest) = skip .between rest := by
  induction body with
  | nil => rfl
  | cons c body ih =>
    rw [List.infix_cons_iff, not_or] at whole
    rw [List.cons_append, List.cons_append, skip_comment_cons, ih whole.2]
    -- An end that begins here would have to go on in the body, or into the end itself.
    intro ends
    cases body with
    | nil => simp [commentEnd] at ends
    | cons d body => exact whole.1 (by simpa [commentEnd] using ends)

/-- A comment without an end is never left. -/
theorem skip_unended {body : List Char} (unended : ¬ commentEnd <:+: body) :
    skip .comment body = none := by
  induction body with
  | nil => rfl
  | cons c body ih =>
    rw [List.infix_cons_iff, not_or] at unended
    rw [skip_comment_cons unended.1, ih unended.2]

theorem skip_line_cons {c : Char} (other : '\n' ≠ c) (rest : List Char) :
    skip .line (c :: rest) = skip .line rest := by
  rw [skip.eq_def]
  split <;> try contradiction
  · next ends => exact absurd (List.cons.inj ends).1.symm other
  · next same => rw [(List.cons.inj same).2]

/-- A comment in a line is skipped up to the end of the line. -/
theorem skip_line {body : List Char} (whole : '\n' ∉ body) (rest : List Char) :
    skip .line (body ++ ['\n'] ++ rest) = skip .between rest := by
  induction body with
  | nil => rfl
  | cons c body ih =>
    rw [List.mem_cons, not_or] at whole
    rw [List.cons_append, List.cons_append, skip_line_cons whole.1, ih whole.2]

theorem skip_last_line {body : List Char} (unended : '\n' ∉ body) : skip .line body = none := by
  induction body with
  | nil => rfl
  | cons c body ih =>
    rw [List.mem_cons, not_or] at unended
    rw [skip_line_cons unended.1, ih unended.2]

/-! ### Pieces -/

theorem skip_blank {c : Char} (blank : Text.isBlank c = true) (rest : List Char) :
    skip .between (c :: rest) = skip .between rest := by
  have apart : ∀ other : Char, Text.isBlank other = false → c ≠ other := by
    rintro _ solid rfl
    rw [blank] at solid
    cases solid
  rw [skip.eq_def]
  split <;> try contradiction
  · next same => exact absurd (List.cons.inj same).1 (apart '/' (by decide))
  · next same => exact absurd (List.cons.inj same).1 (apart '-' (by decide))
  · next same => exact absurd (List.cons.inj same).1 (apart '#' (by decide))
  · next same => exact absurd (List.cons.inj same).1 (apart '(' (by decide))
  · next same =>
    obtain ⟨rfl, rfl⟩ := List.cons.inj same
    exact if_pos blank

/-- **A piece of noise is skipped**, and what stands behind it is read as if it stood alone. -/
theorem skip_piece {piece : List Char} (isPiece : IsPiece piece) (rest : List Char) :
    skip .between (piece ++ rest) = skip .between rest := by
  cases isPiece with
  | blank blank => exact skip_blank blank rest
  | comment whole => exact skip_comment whole rest
  | dashes whole => exact skip_line whole rest
  | hash whole => exact skip_line whole rest
  | parenthesis => rfl

/-- **Noise is skipped**, however many pieces it has. -/
theorem skip_noise {noise : List Char} (isNoise : IsNoise noise) (rest : List Char) :
    afterNoise (noise ++ rest) = afterNoise rest := by
  obtain ⟨pieces, each, rfl⟩ := isNoise
  induction pieces with
  | nil => rfl
  | cons piece others ih =>
    obtain ⟨first, behind⟩ := List.forall_mem_cons.mp each
    rw [List.flatten_cons, List.append_assoc, afterNoise, skip_piece first]
    exact ih behind

/-- Behind a comment that does not end there is nothing. -/
theorem afterNoise_unclosed {comment : List Char} (isUnclosed : IsUnclosed comment) :
    afterNoise comment = none := by
  cases isUnclosed with
  | comment unended => exact skip_unended unended
  | dashes unended => exact skip_last_line unended
  | hash unended => exact skip_last_line unended

/-- A text that begins with no noise is left as it is. -/
theorem afterNoise_bare {rest : List Char} (bare : opensNoise rest = false) :
    afterNoise rest = some rest := by
  rw [afterNoise, skip.eq_def]
  split <;> try contradiction
  · rfl
  · next =>
    unfold opensNoise at bare
    split at bare <;> try contradiction
    · next same =>
      obtain ⟨rfl, rfl⟩ := List.cons.inj same
      exact if_neg (Bool.eq_false_iff.mp bare)

/-! ### Every text -/

/-- A comment ends somewhere for the first time, or it does not end. -/
theorem exists_comment_or (chars : List Char) :
    (∃ body rest, ¬ commentEnd <:+: body ∧ chars = body ++ commentEnd ++ rest) ∨
      ¬ commentEnd <:+: chars := by
  induction chars with
  | nil => exact Or.inr (by decide)
  | cons c chars ih =>
    by_cases ends : commentEnd <+: c :: chars
    · obtain ⟨rest, same⟩ := ends
      exact Or.inl ⟨[], rest, by decide, same.symm⟩
    · rcases ih with ⟨body, rest, whole, rfl⟩ | unended
      · refine Or.inl ⟨c :: body, rest, ?_, rfl⟩
        rw [List.infix_cons_iff, not_or]
        refine ⟨fun begins => ends ?_, whole⟩
        exact begins.trans (by simp only [List.append_assoc]; exact List.prefix_append (c :: body) _)
      · exact Or.inr (by rw [List.infix_cons_iff, not_or]; exact ⟨ends, unended⟩)

theorem exists_line_or (chars : List Char) :
    (∃ body rest, '\n' ∉ body ∧ chars = body ++ ['\n'] ++ rest) ∨ '\n' ∉ chars := by
  by_cases ends : '\n' ∈ chars
  · obtain ⟨body, rest, rfl, whole⟩ := List.eq_append_cons_of_mem ends
    exact Or.inl ⟨body, rest, whole, by rw [List.append_assoc]; rfl⟩
  · exact Or.inr ends

/-- **A text begins with a piece of noise, with a comment that does not end, or with neither.** -/
theorem piece_or_rest (chars : List Char) :
    (∃ piece rest, IsPiece piece ∧ chars = piece ++ rest) ∨ IsUnclosed chars ∨
      opensNoise chars = false := by
  unfold opensNoise
  split
  · next tail =>
    rcases exists_comment_or tail with ⟨body, rest, whole, rfl⟩ | unended
    · exact Or.inl ⟨_, rest, .comment whole, rfl⟩
    · exact Or.inr (Or.inl (.comment unended))
  · next tail =>
    rcases exists_line_or tail with ⟨body, rest, whole, rfl⟩ | unended
    · exact Or.inl ⟨_, rest, .dashes whole, rfl⟩
    · exact Or.inr (Or.inl (.dashes unended))
  · next tail =>
    rcases exists_line_or tail with ⟨body, rest, whole, rfl⟩ | unended
    · exact Or.inl ⟨_, rest, .hash whole, rfl⟩
    · exact Or.inr (Or.inl (.hash unended))
  · next tail => exact Or.inl ⟨_, tail, .parenthesis, rfl⟩
  · next c tail _ _ _ _ =>
    by_cases blank : Text.isBlank c = true
    · exact Or.inl ⟨_, tail, .blank blank, rfl⟩
    · exact Or.inr (Or.inr (Bool.eq_false_iff.mpr blank))
  · exact Or.inr (Or.inr rfl)

/-- **The noise of every text ends**, after as many pieces as the text has characters at most: there is
then a comment that does not end, or a rest that begins with no noise. -/
theorem exists_pieces (chars : List Char) : ∃ (pieces : List (List Char)) (rest : List Char),
    (∀ piece ∈ pieces, IsPiece piece) ∧ chars = pieces.flatten ++ rest ∧
      pieces.length ≤ chars.length ∧ (IsUnclosed rest ∨ opensNoise rest = false) := by
  induction size : chars.length using Nat.strongRecOn generalizing chars with
  | ind size ih =>
    rcases piece_or_rest chars with ⟨piece, behind, isPiece, rfl⟩ | stops
    · -- Every piece takes a character at least, so that what stands behind it is shorter.
      have filled : 0 < piece.length := List.length_pos_iff.mpr isPiece.ne_nil
      rw [List.length_append] at size
      obtain ⟨pieces, rest, each, rfl, few, stops⟩ := ih behind.length (by omega) behind rfl
      refine ⟨piece :: pieces, rest, ?_, ?_, ?_, stops⟩
      · exact List.forall_mem_cons.mpr ⟨isPiece, each⟩
      · rw [List.flatten_cons, List.append_assoc]
      · rw [List.length_cons]
        omega
    · exact ⟨[], chars, nofun, rfl, Nat.zero_le _, stops⟩

/-- **The kind of a statement is told behind the noise.** White space, whole comments and opening
parentheses before a text do not change its kind. Every text is a number of them, not greater than that of
its characters, and a rest: either the rest begins with none of them, and is what stands behind the noise,
or it is a comment that does not end, and nothing does. Behind noise, such a comment is of no kind. -/
theorem classify_behind_noise :
    (∀ noise text : String, IsNoise noise.toList → classify (noise ++ text) = classify text) ∧
      (∀ text : String, ∃ (pieces : List (List Char)) (rest : List Char),
        (∀ piece ∈ pieces, IsPiece piece) ∧ text.toList = pieces.flatten ++ rest ∧
          pieces.length ≤ text.length ∧
          (opensNoise rest = false ∧ afterNoise text.toList = some rest ∨
            IsUnclosed rest ∧ afterNoise text.toList = none)) ∧
      ∀ noise comment : String, IsNoise noise.toList → IsUnclosed comment.toList →
        classify (noise ++ comment) = .other := by
  have behind : ∀ noise text : String, IsNoise noise.toList →
      afterNoise (noise ++ text).toList = afterNoise text.toList := by
    intro noise text isNoise
    rw [String.toList_append, skip_noise isNoise]
  refine ⟨fun noise text isNoise => ?_, fun text => ?_, fun noise comment isNoise isUnclosed => ?_⟩
  · rw [classify, behind noise text isNoise, classify]
  · obtain ⟨pieces, rest, each, whole, few, stops⟩ := exists_pieces text.toList
    refine ⟨pieces, rest, each, whole, few, ?_⟩
    rw [whole, skip_noise ⟨pieces, each, rfl⟩]
    rcases stops with isUnclosed | bare
    · exact Or.inr ⟨isUnclosed, afterNoise_unclosed isUnclosed⟩
    · exact Or.inl ⟨bare, afterNoise_bare bare⟩
  · rw [classify, behind noise comment isNoise, afterNoise_unclosed isUnclosed]

/-- White space, a comment with stars and other openings in it, parentheses, and two comments in their lines;
and a comment that does not end. -/
theorem selection_behind_noise :
    let noise := "  /* a ** / ( -- # /* */((-- note */\n#\n\t"
    let comment := "/* no end * /"
    IsNoise noise.toList ∧ classify (noise ++ "select 1") = .select ∧
      IsUnclosed comment.toList ∧ classify (noise ++ comment) = .other := by
  intro noise comment
  have isNoise : IsNoise noise.toList := by
    refine ⟨[[' '], [' '], '/' :: '*' :: (" a ** / ( -- # /* ".toList ++ commentEnd), ['('], ['('],
      '-' :: '-' :: (" note */".toList ++ ['\n']), '#' :: ([] ++ ['\n']), ['\t']], ?_, by decide +kernel⟩
    simp only [List.forall_mem_cons]
    exact ⟨.blank rfl, .blank rfl, .comment (by decide +kernel), .parenthesis, .parenthesis,
      .dashes (by decide +kernel), .hash nofun, .blank rfl, nofun⟩
  have body : comment.toList = '/' :: '*' :: " no end * /".toList := by decide +kernel
  have isUnclosed : IsUnclosed comment.toList := body ▸ .comment (by decide +kernel)
  obtain ⟨same, -, unclosed⟩ := classify_behind_noise
  have alone : classify "select 1" = .select := by decide +kernel
  exact ⟨isNoise, (same noise "select 1" isNoise).trans alone, isUnclosed,
    unclosed noise comment isNoise isUnclosed⟩

end ScatterGather.Sql.Kind
