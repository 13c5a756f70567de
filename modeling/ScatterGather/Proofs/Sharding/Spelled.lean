/-
**Keys in different spellings.**

A key may be written as a number, as a text or as a truth value. What a rule sees of it is its text:

* `KeyValue.hashText_eq_of_bytes`: keys with the same bytes have the same text;
* `KeyValue.asInteger?_eq`: a key is a whole number if **its text spells one**;
* `SameBytes`: sets of keys that differ in nothing but the spelling of their keys; so do their unions,
  and their intersections as far as the keys in both are `SpelledAlike`;
* `ranged_congr`, `place_congr`, `placeAll_congr`: keys that are the same number are placed alike by ranges,
  keys with the same bytes by every rule, and so are such sets;
* `placed_congr` — **a table places them on the same shards**, or refuses both.
-/
import ScatterGather.Proofs.Sharding.Placed
import ScatterGather.Proofs.Text.Encoded
import ScatterGather.Routing.Route

namespace ScatterGather

/-! ### Texts of keys -/

namespace Text

theorem trim_of_not_blank {chars : List Char} (filled : ∀ c ∈ chars, isBlank c = false) :
    trim chars = chars := by
  have left : ∀ {chars : List Char}, (∀ c ∈ chars, isBlank c = false) →
      chars.dropWhile isBlank = chars := by
    intro chars filled
    cases chars with
    | nil => rfl
    | cons c rest => rw [List.dropWhile_cons, if_neg (by simp [filled c])]
  rw [trim, trimLeft, left filled, left (by simpa using filled), List.reverse_reverse]

end Text

namespace KeyValue

theorem not_blank_of_isDigit {c : Char} (digit : c.isDigit = true) : Text.isBlank c = false := by
  simp only [Char.isDigit, Bool.and_eq_true, decide_eq_true_eq, ge_iff_le,
    UInt32.le_iff_toNat_le] at digit
  have low : 48 ≤ c.toNat := digit.1
  have high : c.toNat ≤ 57 := digit.2
  simp [Text.isBlank]
  omega

theorem not_blank_of_integer (value : Int64) :
    ∀ c ∈ (toString value).toList, Text.isBlank c = false := by
  intro c inside
  have digits := Whole.isDigit_of_toDigits
  change c ∈ (Int.repr value.toInt).toList at inside
  cases whole : value.toInt with
  | ofNat size =>
    rw [whole] at inside
    change c ∈ (Nat.repr size).toList at inside
    rw [Nat.toList_repr] at inside
    exact not_blank_of_isDigit (digits size c inside)
  | negSucc size =>
    rw [whole] at inside
    change c ∈ ("-" ++ Nat.repr (size + 1)).toList at inside
    rw [String.toList_append, Nat.toList_repr, List.mem_append] at inside
    rcases inside with sign | inside
    · obtain rfl : c = '-' := List.mem_singleton.mp sign
      decide
    · exact not_blank_of_isDigit (digits (size + 1) c inside)

/-- **A key is the whole number that its text spells**, if it does. -/
theorem asInteger?_eq (key : KeyValue) :
    key.asInteger? = Whole.int64? (Text.trim key.hashText.toList) := by
  cases key with
  | null => decide
  | integer value =>
    show some value = Whole.int64? (Text.trim (toString value).toList)
    rw [Text.trim_of_not_blank (not_blank_of_integer value), Whole.int64?_toString]
  | text value => rfl
  | boolean value => cases value <;> decide

theorem hashText_eq_of_bytes {key other : KeyValue} (same : key.bytes = other.bytes) :
    key.hashText = other.hashText := by
  have decoded := congrArg Text.Utf8.decode same
  rwa [bytes, bytes, Text.Utf8.decode_encode, Text.Utf8.decode_encode] at decoded

end KeyValue

/-! ### Values placed alike -/

namespace Placement

/-- Keys that are the same whole number, or none, are placed alike by ranges. -/
theorem ranged_congr (bounds : List (Int64 × ShardId)) {key other : KeyValue}
    (same : key.asInteger? = other.asInteger?) :
    ((range bounds).place key).toOption = ((range bounds).place other).toOption := by
  simp only [place, ranged, same]
  cases other.asInteger? with
  | none => rfl
  | some whole =>
    dsimp only
    cases bounds[Bounds.position (bounds.map Prod.fst) whole]? <;> rfl

/-- **Keys with the same bytes are placed alike.** -/
theorem place_congr (placement : Placement) {key other : KeyValue} (same : key.bytes = other.bytes) :
    (placement.place key).toOption = (placement.place other).toOption := by
  cases placement with
  | hash shards => rw [place, place, hashed?, hashed?, same]
  | range bounds =>
    refine ranged_congr bounds ?_
    rw [KeyValue.asInteger?_eq, KeyValue.asInteger?_eq, KeyValue.hashText_eq_of_bytes same]

end Placement

/-- Two sets of keys of which each has the bytes of every key in the other one. -/
def SameBytes (keys others : List KeyValue) : Prop :=
  ∀ bytes, (∃ key ∈ keys, key.bytes = bytes) ↔ ∃ key ∈ others, key.bytes = bytes

namespace SameBytes

theorem refl (keys : List KeyValue) : SameBytes keys keys :=
  fun _ => Iff.rfl

theorem symm {keys others : List KeyValue} (same : SameBytes keys others) : SameBytes others keys :=
  fun bytes => (same bytes).symm

theorem isEmpty_eq {keys others : List KeyValue} (same : SameBytes keys others) :
    keys.isEmpty = others.isEmpty := by
  have empty : ∀ {keys others : List KeyValue}, SameBytes keys others → keys = [] → others = [] := by
    intro keys others same none
    refine List.eq_nil_iff_forall_not_mem.mpr fun key inside => ?_
    obtain ⟨other, isOther, -⟩ := (same key.bytes).mpr ⟨key, inside, rfl⟩
    rw [none] at isOther
    cases isOther
  rw [Bool.eq_iff_iff, List.isEmpty_iff, List.isEmpty_iff]
  exact ⟨empty same, empty same.symm⟩

theorem union {keys others left right : List KeyValue} (same : SameBytes keys others)
    (alike : SameBytes left right) :
    SameBytes (Ascending.union keys left) (Ascending.union others right) := by
  intro bytes
  simp only [Ascending.mem_union, or_and_right, exists_or]
  exact or_congr (alike bytes) (same bytes)

theorem ofList {keys others : List KeyValue}
    (each : List.Forall₂ (fun key other => key.bytes = other.bytes) keys others) :
    SameBytes (Ascending.ofList keys) (Ascending.ofList others) := by
  intro bytes
  simp only [Ascending.mem_ofList]
  constructor
  · rintro ⟨key, inside, rfl⟩
    obtain ⟨other, isOther, same⟩ := exists_of_mem_members each inside
    exact ⟨other, isOther, same.symm⟩
  · rintro ⟨other, inside, rfl⟩
    exact exists_of_mem_results each inside

end SameBytes

/-- Two sets of keys that spell the keys which they have in common alike. -/
def SpelledAlike (keys others : List KeyValue) : Prop :=
  ∀ key ∈ keys, ∀ other ∈ others, key.bytes = other.bytes → key = other

instance (keys others : List KeyValue) : Decidable (SpelledAlike keys others) :=
  inferInstanceAs
    (Decidable (∀ key ∈ keys, ∀ other ∈ others, key.bytes = other.bytes → key = other))

/-- The bytes in the intersection of sets that are spelled alike are those in both of them. -/
theorem SpelledAlike.mem_inter {keys others : List KeyValue} (alike : SpelledAlike keys others)
    (bytes : List UInt8) : (∃ key ∈ Ascending.inter keys others, key.bytes = bytes) ↔
      (∃ key ∈ keys, key.bytes = bytes) ∧ ∃ other ∈ others, other.bytes = bytes := by
  constructor
  · rintro ⟨key, inside, same⟩
    obtain ⟨isKey, isOther⟩ := Ascending.mem_inter.mp inside
    exact ⟨⟨key, isKey, same⟩, key, isOther, same⟩
  · rintro ⟨⟨key, isKey, same⟩, other, isOther, also⟩
    obtain rfl := alike key isKey other isOther (same.trans also.symm)
    exact ⟨key, Ascending.mem_inter.mpr ⟨isKey, isOther⟩, same⟩

theorem SameBytes.inter {keys others left right : List KeyValue} (same : SameBytes keys others)
    (also : SameBytes left right) (alike : SpelledAlike keys left)
    (alikeOthers : SpelledAlike others right) :
    SameBytes (Ascending.inter keys left) (Ascending.inter others right) := by
  intro bytes
  rw [alike.mem_inter, alikeOthers.mem_inter, same, also]

namespace Placement

theorem placeAll_ok_of_sameBytes {placement : Placement} {keys others : List KeyValue}
    (same : SameBytes keys others) {placed : List ShardId}
    (whole : placement.placeAll keys = .ok placed) : placement.placeAll others = .ok placed := by
  have alike : ∀ {key other : KeyValue} {place : Option ShardId}, key.bytes = other.bytes →
      placement.place key = .ok place → placement.place other = .ok place := by
    intro key other place bytes isPlace
    have options := place_congr placement bytes
    rw [isPlace] at options
    cases given : placement.place other with
    | error cause => simp [given, Except.toOption] at options
    | ok found => simpa [given, Except.toOption] using options.symm
  obtain ⟨each, ascending, members⟩ := placeEach_eq_ok.mp whole
  refine placeEach_eq_ok.mpr ⟨fun other inside => ?_, ascending, fun shard => ?_⟩
  · obtain ⟨key, isKey, bytes⟩ := (same other.bytes).mpr ⟨other, inside, rfl⟩
    obtain ⟨place, isPlace⟩ := each key isKey
    exact ⟨place, alike bytes isPlace⟩
  · rw [members]
    constructor
    · rintro ⟨key, isKey, isPlace⟩
      obtain ⟨other, isOther, bytes⟩ := (same key.bytes).mp ⟨key, isKey, rfl⟩
      exact ⟨other, isOther, alike bytes.symm isPlace⟩
    · rintro ⟨other, isOther, isPlace⟩
      obtain ⟨key, isKey, bytes⟩ := (same other.bytes).mpr ⟨other, isOther, rfl⟩
      exact ⟨key, isKey, alike bytes.symm isPlace⟩

/-- **Sets of keys with the same bytes are placed alike**, or not at all. -/
theorem placeAll_congr (placement : Placement) {keys others : List KeyValue}
    (same : SameBytes keys others) :
    (placement.placeAll keys).toOption = (placement.placeAll others).toOption := by
  cases whole : placement.placeAll keys with
  | ok placed => rw [placeAll_ok_of_sameBytes same whole]
  | error cause =>
    cases other : placement.placeAll others with
    | error cause => rfl
    | ok placed =>
      rw [placeAll_ok_of_sameBytes same.symm other] at whole
      cases whole

end Placement

/-- **A table places sets of keys with the same bytes on the same shards**, or refuses both. -/
theorem Routing.placed_congr (table : Table) {keys others : List KeyValue}
    (same : SameBytes keys others) :
    (placed table keys).toOption = (placed table others).toOption := by
  unfold placed
  cases table.rule with
  | none => rfl
  | some rule =>
    dsimp only
    have alike := rule.placement.placeAll_congr same
    cases whole : rule.placement.placeAll keys with
    | ok shards => rw [Placement.placeAll_ok_of_sameBytes same whole]
    | error cause =>
      cases other : rule.placement.placeAll others with
      | error cause => rfl
      | ok shards =>
        rw [whole, other] at alike
        cases alike

end ScatterGather
