/-
**The shortest form of a number.**

The first byte of a number tells how many more bytes the number has. Two first bytes are left to others: one
stands for NULL, one begins a failure.

* `length_lengthNumber`: in how many bytes a number is written;
* `number_eq_ok`, `lengthNumber_eq_ok`: which bytes are read as a number;
* `length_le_of_read` — unless they begin with one of the two, **no fewer bytes than are written** of a number
  are read as it;
* `eq_of_append_eq`: numbers with bytes behind them are told apart;
* `cell_not_null`, `failure_not_read` — what begins with a number is read **neither as NULL nor as a
  failure**;
* `numbers_are_prefix_code`: all of it.
-/
import ScatterGather.Proofs.Wire.Framed
import ScatterGather.Proofs.Wire.Truncated
import ScatterGather.Proofs.Wire.Written

namespace ScatterGather.Wire

/-! ### Writing -/

/-- In how many bytes a number is written. -/
theorem length_lengthNumber (value : UInt64) :
    (lengthNumber value).length =
      if value.toNat ≤ 250 then 1 else if value.toNat ≤ 0xffff then 3
      else if value.toNat ≤ 0xffffff then 4 else 9 := by
  unfold lengthNumber
  by_cases one : value.toNat ≤ 250
  · simp [one]
  · by_cases two : value.toNat ≤ 0xffff
    · simp [one, two, length_littleEndian]
    · by_cases three : value.toNat ≤ 0xffffff <;> simp [one, two, three, length_littleEndian]

/-! ### Reading -/

namespace Decoder

/-- What is read as a number of some bytes are these bytes. -/
theorem number_eq_ok {width value : Nat} {bytes left : List UInt8}
    (read : number width bytes = .ok (value, left)) :
    ∃ body, bytes = body ++ left ∧ body.length = width ∧ value = ofLittleEndian body := by
  change (splitBytes width bytes).bind (fun found => .ok (ofLittleEndian found.1, found.2)) = _ at read
  rw [splitBytes_eq] at read
  split at read
  · next enough =>
    obtain ⟨rfl, rfl⟩ := Prod.mk.inj (Except.ok.inj read)
    exact ⟨_, (List.take_append_drop width bytes).symm, List.length_take_of_le enough, rfl⟩
  · cases read

/-- What is read behind a mark is a number of as many bytes as the mark tells. -/
theorem marked_eq_ok {width : Nat} {bytes left : List UInt8} {value : UInt64}
    (read : (number width >>= fun found => pure (UInt64.ofNat found)) bytes = .ok (value, left)) :
    bytes.length = width + left.length ∧ value.toNat < Nat.pow 256 width := by
  change (number width bytes).bind (fun found => .ok (UInt64.ofNat found.1, found.2)) = _ at read
  cases inside : number width bytes with
  | error cause =>
    rw [inside] at read
    cases read
  | ok found =>
    obtain ⟨number, behind⟩ := found
    rw [inside] at read
    obtain ⟨rfl, rfl⟩ := Prod.mk.inj (Except.ok.inj read)
    obtain ⟨body, rfl, rfl, rfl⟩ := number_eq_ok inside
    refine ⟨List.length_append, ?_⟩
    rw [UInt64.toNat_ofNat']
    exact Nat.lt_of_le_of_lt (Nat.mod_le _ _) (ofLittleEndian_lt body)

/-- **Which bytes are read as a number**: a mark and as many bytes as it tells, or any other byte, which is
the number. -/
theorem lengthNumber_eq_ok {first : UInt8} {bytes left : List UInt8} {value : UInt64}
    (read : lengthNumber (first :: bytes) = .ok (value, left)) :
    (first = twoByteMark ∧ bytes.length = 2 + left.length ∧ value.toNat < Nat.pow 256 2) ∨
      (first = threeByteMark ∧ bytes.length = 3 + left.length ∧ value.toNat < Nat.pow 256 3) ∨
      (first = eightByteMark ∧ bytes.length = 8 + left.length) ∨
      (first ∉ [twoByteMark, threeByteMark, eightByteMark] ∧ bytes = left ∧ value.toNat = first.toNat) := by
  by_cases two : first = twoByteMark
  · subst two
    exact Or.inl ⟨rfl, marked_eq_ok ((lengthNumber_marked bytes).1 ▸ read)⟩
  by_cases three : first = threeByteMark
  · subst three
    exact Or.inr (Or.inl ⟨rfl, marked_eq_ok ((lengthNumber_marked bytes).2.1 ▸ read)⟩)
  by_cases eight : first = eightByteMark
  · subst eight
    exact Or.inr (Or.inr (Or.inl ⟨rfl, (marked_eq_ok ((lengthNumber_marked bytes).2.2 ▸ read)).1⟩))
  · change (if first = twoByteMark then _ else if first = threeByteMark then _
      else if first = eightByteMark then _ else pure first.toUInt64 : Decoder UInt64) bytes = _ at read
    rw [if_neg two, if_neg three, if_neg eight] at read
    obtain ⟨rfl, rfl⟩ := Prod.mk.inj (Except.ok.inj read)
    exact Or.inr (Or.inr (Or.inr ⟨by simp [two, three, eight], rfl, UInt8.toNat_toUInt64 first⟩))

/-- **No fewer bytes are read as a number** than are written of it, unless they begin with a byte that is
never written first. -/
theorem length_le_of_read {bytes left : List UInt8} {value : UInt64}
    (read : lengthNumber bytes = .ok (value, left)) (notNull : bytes.head? ≠ some Row.nullMark)
    (notFailure : bytes.head? ≠ some ErrReply.marker) :
    (Wire.lengthNumber value).length + left.length ≤ bytes.length := by
  cases bytes with
  | nil => cases read
  | cons first behind =>
    rw [length_lengthNumber, List.length_cons]
    obtain ⟨-, long, small⟩ | ⟨-, long, small⟩ | ⟨-, long⟩ | ⟨noMark, rfl, same⟩ := lengthNumber_eq_ok read
    · have two : value.toNat ≤ 0xffff := Nat.le_of_lt_succ small
      grind
    · have three : value.toNat ≤ 0xffffff := Nat.le_of_lt_succ small
      grind
    · grind
    · -- All bytes above 250 are marks, or are the two that are left out.
      have apart : ∀ byte ∈ [twoByteMark, threeByteMark, eightByteMark, Row.nullMark, ErrReply.marker],
          first.toNat ≠ byte.toNat := by
        simp_all [UInt8.toNat_inj]
      have small : first.toNat ≤ 250 := by
        have most : first.toNat < 256 := first.toNat_lt
        simp [twoByteMark, threeByteMark, eightByteMark, Row.nullMark, ErrReply.marker] at apart
        omega
      rw [if_pos (same ▸ small)]
      omega

end Decoder

/-! ### Numbers beside each other -/

/-- Numbers with bytes behind them are the same if all the bytes are. -/
theorem eq_of_append_eq {value other : UInt64} {rest more : List UInt8}
    (same : lengthNumber value ++ rest = lengthNumber other ++ more) : value = other ∧ rest = more := by
  have read := Decoder.reads_lengthNumber value rest
  rw [same, Decoder.reads_lengthNumber other more] at read
  obtain ⟨rfl, rfl⟩ := Prod.mk.inj (Except.ok.inj read)
  exact ⟨rfl, rfl⟩

/-- A cell that begins with a number is not NULL. -/
theorem cell_not_null (value : UInt64) (rest left : List UInt8) :
    Row.cellDecoder (lengthNumber value ++ rest) ≠ .ok (none, left) := by
  intro isNull
  change (if (lengthNumber value ++ rest).head? = some Row.nullMark then _
    else Decoder.lengthBytes >>= fun bytes => pure (some bytes) : Decoder _) _ = _ at isNull
  rw [if_neg (Decoder.nullMark_ne_head value rest)] at isNull
  change (Decoder.lengthBytes (lengthNumber value ++ rest)).bind
    (fun found => .ok (some found.1, found.2)) = _ at isNull
  cases found : Decoder.lengthBytes (lengthNumber value ++ rest) <;> rw [found] at isNull <;> cases isNull

/-- Another byte than the marker of a kind is refused. -/
theorem marker_refused {expected first : UInt8} (other : first ≠ expected) (rest : List UInt8) :
    Decoder.marker expected (first :: rest) = .error (.unexpectedMarker first) := by
  unfold Decoder.marker
  rw [show first :: rest = [first] ++ rest from rfl, (Decoder.reads_byte first).bind_append, if_neg other]
  rfl

/-- What begins with a number is read as no failure. -/
theorem failure_not_read (value : UInt64) (rest : List UInt8) (reply : ErrReply) :
    ErrReply.read (lengthNumber value ++ rest) ≠ .ok reply := by
  have notFailure : (lengthNumber value ++ rest).head? ≠ some ErrReply.marker :=
    Decoder.head_ne (by decide) (by decide) value rest
  obtain ⟨first, behind, written, -⟩ := Decoder.exists_first value
  rw [written, List.cons_append, List.head?_cons] at notFailure
  have other : first ≠ ErrReply.marker := fun same => notFailure (congrArg some same)
  have refused : ErrReply.decoder (first :: (behind ++ rest)) = .error (.unexpectedMarker first) := by
    show (Decoder.marker ErrReply.marker (first :: (behind ++ rest))).bind _ = _
    rw [marker_refused other]
    rfl
  rw [written, List.cons_append, ErrReply.read, Decoder.run, refused]
  intro given
  cases given

/-- **Numbers are a prefix code.** A number is read as it was written, whatever stands behind it, which is
left. No fewer bytes are read as it, unless they begin with the byte of NULL or that of a failure. None is
written in the beginning of another one. The byte that is written first is none of the two, so that neither a
cell nor a packet that begins with a number is taken for NULL or for a failure. -/
theorem numbers_are_prefix_code (value : UInt64) :
    (∀ rest, Decoder.lengthNumber (lengthNumber value ++ rest) = .ok (value, rest)) ∧
      (∀ bytes left, Decoder.lengthNumber bytes = .ok (value, left) →
        bytes.head? ≠ some 0xfb → bytes.head? ≠ some 0xff →
          (lengthNumber value).length + left.length ≤ bytes.length) ∧
      (∀ other, lengthNumber value <+: lengthNumber other → value = other) ∧
      ∀ rest, (lengthNumber value ++ rest).head? ≠ some 0xfb ∧
        (lengthNumber value ++ rest).head? ≠ some 0xff ∧
        (∀ left, Row.cellDecoder (lengthNumber value ++ rest) ≠ .ok (none, left)) ∧
        ∀ reply, ErrReply.read (lengthNumber value ++ rest) ≠ .ok reply := by
  refine ⟨Decoder.reads_lengthNumber value, fun bytes left read notNull notFailure => ?_, ?_,
    fun rest => ⟨?_, ?_, cell_not_null value rest, failure_not_read value rest⟩⟩
  · exact Decoder.length_le_of_read read notNull notFailure
  · rintro other ⟨behind, same⟩
    rw [← List.append_nil (lengthNumber other)] at same
    exact (eq_of_append_eq same).1
  · exact Decoder.head_ne (by decide) (by decide) value rest
  · exact Decoder.head_ne (by decide) (by decide) value rest

/-- A number behind the mark of the greatest ones, where a shorter form is written, and one byte behind it. -/
theorem long_form_of_251 :
    let long : List UInt8 := [0xfe, 251, 0, 0, 0, 0, 0, 0, 0, 7]
    Decoder.lengthNumber long = .ok (251, [7]) ∧ long.head? ≠ some 0xfb ∧ long.head? ≠ some 0xff ∧
      (lengthNumber 251).length + 1 ≤ long.length ∧
        ∀ other, lengthNumber 251 <+: lengthNumber other → 251 = other := by
  intro long
  have read : Decoder.lengthNumber long = .ok (251, [7]) := rfl
  obtain ⟨-, shortest, apart, -⟩ := numbers_are_prefix_code 251
  exact ⟨read, by decide, by decide, shortest long [7] read (by decide) (by decide), apart⟩

/-- The byte of NULL would be read as a number, and is shorter than what is written of it. -/
example : Decoder.lengthNumber [0xfb] = .ok (251, []) ∧ (lengthNumber 251).length = 3 := ⟨rfl, rfl⟩

end ScatterGather.Wire
