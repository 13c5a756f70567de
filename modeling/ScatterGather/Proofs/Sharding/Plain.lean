/-
**Whole numbers as keys, in every spelling.**

Of a key that is a whole number a rule by ranges sees the number, and a rule by hash the text. A number has
one text in which it is printed, and others that are read as it:

* `KeyValue.Plain`, `KeyValue.hashText_eq_iff` — the text of a key is the one in which its number is printed
  exactly if the key is **spelled plainly**;
* `same_number_same_shard` — keys that are the same number and **plainly spelled** are on the same shard, by
  hash as well as by ranges;
* `padded_seven_misplaced`: which they are not with zeros before the number.
-/
import ScatterGather.Proofs.Number.Digits
import ScatterGather.Proofs.Sharding.Spelled

namespace ScatterGather

namespace KeyValue

/-- A key is spelled plainly: if it is a text, then without white space at its ends, and as numbers are
printed. -/
def Plain : KeyValue → Prop
  | text value => Text.trim value.toList = value.toList ∧ Whole.Plain value.toList
  | _ => True

instance (key : KeyValue) : Decidable key.Plain := by
  cases key <;> unfold Plain <;> infer_instance

/-- **A key that is a whole number has its text exactly if it is spelled plainly.** -/
theorem hashText_eq_iff {key : KeyValue} {whole : Int64} (isWhole : key.asInteger? = some whole) :
    key.hashText = toString whole ↔ key.Plain := by
  cases key with
  | null => cases isWhole
  | integer value =>
    obtain rfl : value = whole := Option.some.inj isWhole
    exact iff_of_true rfl trivial
  | boolean value =>
    obtain rfl : (if value then 1 else 0) = whole := Option.some.inj isWhole
    cases value <;> exact iff_of_true (by decide) trivial
  | text value =>
    have read := Whole.int64?_eq_some.mp isWhole
    have spelling : (toString whole).toList = (toString whole.toInt).toList := rfl
    show value = toString whole ↔ Text.trim value.toList = value.toList ∧ Whole.Plain value.toList
    constructor
    · rintro rfl
      have trimmed := Text.trim_of_not_blank (not_blank_of_integer whole)
      rw [trimmed] at read
      exact ⟨trimmed, (Whole.plain_iff read).mpr spelling⟩
    · rintro ⟨trimmed, plain⟩
      rw [trimmed] at read
      exact String.toList_inj.mp (((Whole.plain_iff read).mp plain).trans spelling.symm)

theorem bytes_eq_iff {key other : KeyValue} : key.bytes = other.bytes ↔ key.hashText = other.hashText :=
  ⟨hashText_eq_of_bytes, congrArg Text.Utf8.encode⟩

end KeyValue

namespace Placement

/-- A rule by hash over some shards has a shard for every key. -/
theorem exists_place_ofShards {shards : List ShardId} (filled : shards ≠ []) (key : KeyValue) :
    ∃ shard ∈ shards, (ofShards shards).place key = .ok (some shard) := by
  obtain ⟨first, rest, rfl⟩ := List.exists_cons_of_ne_nil filled
  have member : first ∈ Ascending.ofList (first :: rest) := Ascending.mem_ofList.mpr List.mem_cons_self
  have inside := Nat.mod_lt (SeaHash.hash key.bytes).toNat (List.length_pos_of_mem member)
  refine ⟨_, Ascending.mem_ofList.mp (List.getElem_mem inside), ?_⟩
  rw [ofShards, place, hashed?, List.getElem?_eq_getElem inside]

end Placement

/-- **The same number is on the same shard.** Keys that are the same whole number are placed alike by every
rule by ranges. Of such a key, what is hashed are the bytes of the number exactly if the key is spelled
plainly; and keys that are, or that have the same text, are on the same shard by every rule by hash. -/
theorem same_number_same_shard {key other : KeyValue} {whole : Int64}
    (isKey : key.asInteger? = some whole) (isOther : other.asInteger? = some whole) :
    (∀ bounds, ((Placement.range bounds).place key).toOption =
        ((Placement.range bounds).place other).toOption) ∧
      (key.bytes = (KeyValue.integer whole).bytes ↔ key.Plain) ∧
      (key.Plain ∧ other.Plain ∨ key.hashText = other.hashText → ∀ shards : List ShardId, shards ≠ [] →
        ∃ shard ∈ shards, (Placement.ofShards shards).place key = .ok (some shard) ∧
          (Placement.ofShards shards).place other = .ok (some shard)) := by
  refine ⟨fun bounds => ?_, ?_, fun spelled shards filled => ?_⟩
  · exact Placement.ranged_congr bounds (isKey.trans isOther.symm)
  · rw [KeyValue.bytes_eq_iff]
    exact KeyValue.hashText_eq_iff isKey
  · have same : key.hashText = other.hashText := by
      rcases spelled with ⟨plain, plainOther⟩ | same
      · rw [(KeyValue.hashText_eq_iff isKey).mpr plain, (KeyValue.hashText_eq_iff isOther).mpr plainOther]
      · exact same
    obtain ⟨shard, inside, placed⟩ := Placement.exists_place_ofShards filled key
    refine ⟨shard, inside, placed, ?_⟩
    rw [← placed, Placement.ofShards, Placement.place, Placement.place, Placement.hashed?,
      Placement.hashed?, KeyValue.bytes_eq_iff.mpr same]

/-- A negative number in quotes and without them is on the same one of three shards. -/
theorem minus_forty_on_one_shard :
    let key := KeyValue.text "-40"
    let other := KeyValue.integer (-40)
    let rule := Placement.ofShards [5, 0, 2]
    key.asInteger? = some (-40) ∧ other.asInteger? = some (-40) ∧ key.Plain ∧ other.Plain ∧
      ∃ shard ∈ [5, 0, 2], rule.place key = .ok (some shard) ∧ rule.place other = .ok (some shard) := by
  intro key other rule
  have isKey : key.asInteger? = some (-40) := by decide +kernel
  have isOther : other.asInteger? = some (-40) := rfl
  have plain : key.Plain ∧ other.Plain := by decide +kernel
  exact ⟨isKey, isOther, plain.1, plain.2,
    (same_number_same_shard isKey isOther).2.2 (Or.inl plain) [5, 0, 2] (by decide)⟩

/-- **A number in another spelling is on another shard**: with zeros before it a seven is still a seven to a
rule by ranges, but not to a rule by hash. -/
theorem padded_seven_misplaced :
    let key := KeyValue.text "007"
    let other := KeyValue.integer 7
    let rule := Placement.ofShards [0, 1, 2, 3]
    key.asInteger? = some 7 ∧ other.asInteger? = some 7 ∧ rule.place key = .ok (some 2) ∧
      rule.place other = .ok (some 3) := by
  decide +kernel

end ScatterGather
