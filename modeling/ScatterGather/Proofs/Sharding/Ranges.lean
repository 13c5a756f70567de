/-
**Values in ranges of whole numbers.**

A rule by ranges finds the place of a key among its bounds by halving. However many bounds there are,

* `Bounds.Parts`, `Bounds.Narrowed`: a place that parts the bounds at a key, and what is known of it while
  the bounds are halved;
* `Bounds.position_parts` — the place that is found **parts the bounds** into those at most equal to the key
  and those greater, as the one that a scan finds does;
* `Bounds.InRange`, `Bounds.inRange_iff`: a key is in the range at its place, and in **no other one**;
* `Placement.Placeable`, `Placement.Refused`, `Placement.ranged_eq_ok`, `Placement.ranged_eq_error`: when a
  value is placed, and why it is not;
* `values_in_ranges` — a set of values is placed on the shards **of the ranges of its keys**, or refused for
  the first of them that has none.
-/
import ScatterGather.Proofs.Sharding.Placed

namespace ScatterGather

/-! ### The place of a key -/

namespace Bounds

variable {bounds : List Int64} {key : Int64}

/-- Of increasing bounds, a later one is not less. -/
theorem le_of_le (increasing : bounds.Pairwise (· < ·)) {i j : Nat} {lower upper : Int64}
    (first : bounds[i]? = some lower) (second : bounds[j]? = some upper) (order : i ≤ j) :
    lower ≤ upper := by
  obtain ⟨inI, rfl⟩ := List.getElem?_eq_some_iff.mp first
  obtain ⟨inJ, rfl⟩ := List.getElem?_eq_some_iff.mp second
  rcases Nat.eq_or_lt_of_le order with rfl | less
  · exact Int64.le_refl _
  · exact Int64.le_of_lt (List.pairwise_iff_getElem.mp increasing i j inI inJ less)

/-- A place parts bounds at a key: the bounds before it are at most equal to the key, and no others. -/
def Parts (bounds : List Int64) (key : Int64) (place : Nat) : Prop :=
  place ≤ bounds.length ∧ ∀ i upper, bounds[i]? = some upper → (upper ≤ key ↔ i < place)

/-- A greater key has no smaller place. -/
theorem Parts.mono {other : Int64} {place place' : Nat} (one : Parts bounds key place)
    (two : Parts bounds other place') (order : key ≤ other) : place ≤ place' := by
  by_contra less
  have inside : place' < bounds.length := by
    have := one.1
    omega
  have here := List.getElem?_eq_getElem inside
  have below := (one.2 _ _ here).mpr (by omega)
  exact absurd ((two.2 _ _ here).mp (Int64.le_trans below order)) (Nat.lt_irrefl _)

theorem Parts.unique {place other : Nat} (one : Parts bounds key place)
    (two : Parts bounds key other) : place = other :=
  Nat.le_antisymm (one.mono two (Int64.le_refl _)) (two.mono one (Int64.le_refl _))

/-- A place parts bounds before the last one exactly if the last one is greater than the key. -/
theorem Parts.lt_length_iff {place : Nat} (parts : Parts bounds key place) :
    place < bounds.length ↔ ∃ last ∈ bounds.getLast?, key < last := by
  simp only [List.getLast?_eq_getElem?, Option.mem_def]
  have whole := parts.1
  constructor
  · intro inside
    have here : bounds[bounds.length - 1]? = some bounds[bounds.length - 1] :=
      List.getElem?_eq_getElem (by omega)
    refine ⟨_, here, Int64.not_le.mp fun notGreater => ?_⟩
    have := (parts.2 _ _ here).mp notGreater
    omega
  · rintro ⟨last, here, greater⟩
    have notBefore : ¬ bounds.length - 1 < place := fun before =>
      Int64.not_le.mpr greater ((parts.2 _ _ here).mpr before)
    have := (List.getElem?_eq_some_iff.mp here).1
    omega

/-! ### Halving -/

/-- While bounds are halved: those before `base` are at most equal to the key, and those behind the next
`size` are greater. -/
structure Narrowed (bounds : List Int64) (key : Int64) (base size : Nat) : Prop where
  inside : base + size ≤ bounds.length
  below : ∀ i upper, bounds[i]? = some upper → i < base → upper ≤ key
  above : ∀ i upper, bounds[i]? = some upper → base + size ≤ i → key < upper

/-- Halving keeps the half in which the key belongs. -/
theorem Narrowed.halve (increasing : bounds.Pairwise (· < ·)) {base size : Nat}
    (narrowed : Narrowed bounds key base size) (several : ¬ size ≤ 1) :
    Narrowed bounds key (if bounds[base + size / 2]?.any (· ≤ key) then base + size / 2 else base)
      (size - size / 2) := by
  have inside := narrowed.inside
  cases middle : bounds[base + size / 2]? with
  | none =>
    have := List.getElem?_eq_none_iff.mp middle
    omega
  | some pivot =>
    by_cases less : pivot ≤ key
    · rw [if_pos (by simpa using less)]
      refine ⟨by omega, fun i upper here before => ?_, fun i upper here later => ?_⟩
      · exact Int64.le_trans (le_of_le increasing here middle (by omega)) less
      · exact narrowed.above i upper here (by omega)
    · rw [if_neg (by simpa using less)]
      refine ⟨by omega, narrowed.below, fun i upper here later => ?_⟩
      exact Int64.lt_of_lt_of_le (Int64.not_le.mp less) (le_of_le increasing middle here (by omega))

/-- A single bound that is left is compared with the key. -/
theorem Narrowed.last {base size : Nat} (narrowed : Narrowed bounds key base size)
    (single : size ≤ 1) :
    Parts bounds key (if bounds[base]?.any (· ≤ key) then base + 1 else base) := by
  have inside := narrowed.inside
  cases here : bounds[base]? with
  | none =>
    have beyond := List.getElem?_eq_none_iff.mp here
    rw [Option.any_none, if_neg Bool.false_ne_true]
    refine ⟨by omega, fun i upper found => ⟨fun _ => ?_, narrowed.below i upper found⟩⟩
    have := (List.getElem?_eq_some_iff.mp found).1
    omega
  | some pivot =>
    have before := (List.getElem?_eq_some_iff.mp here).1
    by_cases less : pivot ≤ key
    · rw [if_pos (by simpa using less)]
      refine ⟨by omega, fun i upper found => ⟨fun notGreater => ?_, fun earlier => ?_⟩⟩
      · by_contra later
        exact Int64.not_le.mpr (narrowed.above i upper found (by omega)) notGreater
      · rcases Nat.lt_succ_iff_lt_or_eq.mp earlier with earlier | rfl
        · exact narrowed.below i upper found earlier
        · exact Option.some.inj (here.symm.trans found) ▸ less
    · rw [if_neg (by simpa using less)]
      refine ⟨by omega, fun i upper found => ⟨fun notGreater => ?_, narrowed.below i upper found⟩⟩
      by_contra later
      rcases Nat.eq_or_lt_of_le (Nat.le_of_not_lt later) with rfl | later
      · exact less (Option.some.inj (here.symm.trans found) ▸ notGreater)
      · exact Int64.not_le.mpr (narrowed.above i upper found (by omega)) notGreater

/-- **Halving ends at the place that parts the bounds.** -/
theorem search_parts (increasing : bounds.Pairwise (· < ·)) (base size : Nat)
    (narrowed : Narrowed bounds key base size) :
    Parts bounds key (search bounds.toArray key base size) := by
  induction size using Nat.strongRecOn generalizing base with
  | ind size ih =>
    rw [search]
    simp only [List.getElem?_toArray]
    by_cases single : size ≤ 1
    · rw [if_pos single]
      exact narrowed.last single
    · rw [if_neg single]
      exact ih _ (by omega) _ (narrowed.halve increasing single)

theorem position_parts (increasing : bounds.Pairwise (· < ·)) (key : Int64) :
    Parts bounds key (position bounds key) := by
  refine search_parts increasing 0 bounds.length
    ⟨by omega, fun _ _ _ before => ?_, fun i upper here later => ?_⟩
  · exact absurd before (Nat.not_lt_zero _)
  · have := (List.getElem?_eq_some_iff.mp here).1
    omega

/-- A scan from the first bound on ends at the place that parts the bounds. -/
theorem findIdx_parts (increasing : bounds.Pairwise (· < ·)) (key : Int64) :
    Parts bounds key (bounds.findIdx (key < ·)) := by
  refine ⟨List.findIdx_le_length, fun i upper here => ⟨fun notGreater => ?_, fun before => ?_⟩⟩
  · by_contra later
    have inside : bounds.findIdx (key < ·) < bounds.length := by
      have := (List.getElem?_eq_some_iff.mp here).1
      omega
    have greater : key < bounds[bounds.findIdx (key < ·)] := by
      simpa using List.findIdx_getElem (p := (key < ·)) (w := inside)
    have order := le_of_le increasing (List.getElem?_eq_getElem inside) here (by omega)
    exact Int64.not_le.mpr greater (Int64.le_trans order notGreater)
  · obtain ⟨-, rfl⟩ := List.getElem?_eq_some_iff.mp here
    simpa using List.not_of_lt_findIdx before

/-! ### Ranges -/

/-- A key is in the range of the bound at `i`: it is less than this bound, and not less than the one before
it, if there is one. -/
structure InRange (bounds : List Int64) (key : Int64) (i : Nat) : Prop where
  below : ∃ upper ∈ bounds[i]?, key < upper
  above : ∀ before, before + 1 = i → ∀ lower ∈ bounds[before]?, lower ≤ key

/-- **A key is in the range at its place**, and in no other one. -/
theorem inRange_iff (increasing : bounds.Pairwise (· < ·)) {i : Nat} :
    InRange bounds key i ↔ position bounds key = i ∧ i < bounds.length := by
  obtain ⟨-, parts⟩ := position_parts increasing key
  constructor
  · rintro ⟨⟨upper, here, less⟩, above⟩
    have inside := (List.getElem?_eq_some_iff.mp here).1
    have notLater : ¬ i < position bounds key := fun later =>
      Int64.not_le.mpr less ((parts i upper here).mpr later)
    refine ⟨?_, inside⟩
    cases i with
    | zero => omega
    | succ before =>
      have earlier : bounds[before]? = some bounds[before] := List.getElem?_eq_getElem (by omega)
      have := (parts before _ earlier).mp (above before rfl _ earlier)
      omega
  · rintro ⟨rfl, inside⟩
    have here := List.getElem?_eq_getElem inside
    refine ⟨⟨_, here, Int64.not_le.mp fun notGreater => ?_⟩, fun before next lower found => ?_⟩
    · exact absurd ((parts _ _ here).mp notGreater) (Nat.lt_irrefl _)
    · exact (parts before lower found).mpr (by omega)

end Bounds

/-! ### Values -/

namespace Placement

variable {bounds : List (Int64 × ShardId)} {value : KeyValue}

/-- A value can be placed: it is a whole number in some spelling, and less than the last bound. -/
def Placeable (bounds : List (Int64 × ShardId)) (value : KeyValue) : Prop :=
  ∃ key, value.asInteger? = some key ∧ ∃ last ∈ bounds.getLast?, key < last.1

/-- A value is refused for a cause: it is no whole number, or not less than the last bound. -/
def Refused (bounds : List (Int64 × ShardId)) (value : KeyValue) (cause : PlacementError) : Prop :=
  (value.asInteger? = none ∧
      cause = .notAnInteger value.display (describe (.range bounds))) ∨
    ∃ key, value.asInteger? = some key ∧ (∀ last ∈ bounds.getLast?, last.1 ≤ key) ∧
      cause = .outOfRange value.display (describe (.range bounds))

/-- A value that is refused cannot be placed. -/
theorem Refused.not_placeable {cause : PlacementError} (refused : Refused bounds value cause) :
    ¬ Placeable bounds value := by
  rintro ⟨key, whole, last, isLast, less⟩
  rcases refused with ⟨none, -⟩ | ⟨other, alsoWhole, beyond, -⟩
  · rw [whole] at none
    cases none
  · obtain rfl : key = other := Option.some.inj (whole.symm.trans alsoWhole)
    exact Int64.not_le.mpr less (beyond last isLast)

/-- The place of a key is one of a bound exactly if the key is less than the last one. -/
theorem position_lt_iff (increasing : (bounds.map Prod.fst).Pairwise (· < ·)) (key : Int64) :
    Bounds.position (bounds.map Prod.fst) key < bounds.length ↔
      ∃ last ∈ bounds.getLast?, key < last.1 := by
  have parts := (Bounds.position_parts increasing key).lt_length_iff
  rw [List.length_map, List.getLast?_map] at parts
  rw [parts]
  simp only [Option.mem_def, Option.map_eq_some_iff]
  constructor
  · rintro ⟨_, ⟨last, isLast, rfl⟩, less⟩
    exact ⟨last, isLast, less⟩
  · rintro ⟨last, isLast, less⟩
    exact ⟨_, ⟨last, isLast, rfl⟩, less⟩

/-- **A value is placed on the shard of the range that its key is in.** -/
theorem ranged_eq_ok (increasing : (bounds.map Prod.fst).Pairwise (· < ·)) {shard : ShardId} :
    ranged bounds value = .ok shard ↔ ∃ key, value.asInteger? = some key ∧
      ∃ i, Bounds.InRange (bounds.map Prod.fst) key i ∧ bounds[i]?.map Prod.snd = some shard := by
  unfold ranged
  cases whole : value.asInteger? with
  | none => exact ⟨nofun, fun ⟨_, found, _⟩ => by cases found⟩
  | some key =>
    simp only [Bounds.inRange_iff increasing, Option.some.injEq, exists_eq_left', List.length_map]
    cases here : bounds[Bounds.position (bounds.map Prod.fst) key]? with
    | none =>
      refine ⟨nofun, ?_⟩
      rintro ⟨i, ⟨rfl, -⟩, found⟩
      rw [here] at found
      cases found
    | some range =>
      constructor
      · intro given
        obtain rfl : range.2 = shard := Except.ok.inj given
        exact ⟨_, ⟨rfl, (List.getElem?_eq_some_iff.mp here).1⟩, by rw [here, Option.map_some]⟩
      · rintro ⟨i, ⟨rfl, -⟩, found⟩
        rw [here, Option.map_some] at found
        exact congrArg Except.ok (Option.some.inj found)

/-- **A value is refused** if its key is in no range, or if it has none. -/
theorem ranged_eq_error (increasing : (bounds.map Prod.fst).Pairwise (· < ·))
    {cause : PlacementError} (refused : ranged bounds value = .error cause) :
    Refused bounds value cause := by
  unfold ranged at refused
  cases whole : value.asInteger? with
  | none =>
    rw [whole] at refused
    exact Or.inl ⟨whole, (Except.error.inj refused).symm⟩
  | some key =>
    simp only [whole] at refused
    cases here : bounds[Bounds.position (bounds.map Prod.fst) key]? with
    | some range =>
      rw [here] at refused
      cases refused
    | none =>
      rw [here] at refused
      have beyond := Nat.not_lt.mpr (List.getElem?_eq_none_iff.mp here)
      refine Or.inr ⟨key, whole, fun last isLast => Int64.not_lt.mp fun less => ?_,
        (Except.error.inj refused).symm⟩
      exact beyond ((position_lt_iff increasing key).mpr ⟨last, isLast, less⟩)

/-- A value can be placed exactly if it is. -/
theorem exists_place_iff (increasing : (bounds.map Prod.fst).Pairwise (· < ·)) :
    (∃ place, (Placement.range bounds).place value = .ok place) ↔ Placeable bounds value := by
  constructor
  · rintro ⟨place, given⟩
    obtain ⟨shard, given, -⟩ := map_eq_ok.mp given
    obtain ⟨key, whole, i, inRange, -⟩ := (ranged_eq_ok increasing).mp given
    obtain ⟨rfl, inside⟩ := (Bounds.inRange_iff increasing).mp inRange
    rw [List.length_map] at inside
    exact ⟨key, whole, (position_lt_iff increasing key).mp inside⟩
  · intro placeable
    cases given : ranged bounds value with
    | ok shard => exact ⟨some shard, map_eq_ok.mpr ⟨shard, given, rfl⟩⟩
    | error cause => exact absurd placeable (ranged_eq_error increasing given).not_placeable

end Placement

/-! ### Sets of values -/

section Ranges

variable {bounds : List (Int64 × ShardId)}

/-- **Values in ranges.** However many bounds a rule has, if they increase, a set of values is placed exactly
if each of them is a whole number less than the last bound. Then its shards are those of the ranges that its
keys are in, in order and each once; otherwise it is refused for the least of its values that cannot be
placed. Every key less than the last bound is in one range and in no other; its place is the one that a scan
for the first greater bound ends at, and a greater key has no smaller place. -/
theorem values_in_ranges (increasing : (bounds.map Prod.fst).Pairwise (· < ·)) {values : List KeyValue}
    (ascending : values.Pairwise fun before after => compare before after = .lt) :
    let keys := bounds.map Prod.fst
    let outcome := (Placement.range bounds).placeAll values
    ((∃ placed, outcome = .ok placed) ↔ ∀ value ∈ values, Placement.Placeable bounds value) ∧
      (∀ placed, outcome = .ok placed → placed.Pairwise (· < ·) ∧ ∀ shard, shard ∈ placed ↔
        ∃ value ∈ values, ∃ key, value.asInteger? = some key ∧
          ∃ i, Bounds.InRange keys key i ∧ bounds[i]?.map Prod.snd = some shard) ∧
      (∀ cause, outcome = .error cause → ∃ value ∈ values, Placement.Refused bounds value cause ∧
        ∀ other ∈ values, ¬ Placement.Placeable bounds other →
          value = other ∨ compare value other = .lt) ∧
      (∀ key, (∃ last ∈ bounds.getLast?, key < last.1) → ∃! i, Bounds.InRange keys key i) ∧
      ∀ key, Bounds.position keys key = keys.findIdx (key < ·) ∧
        ∀ other, key ≤ other → Bounds.position keys key ≤ Bounds.position keys other := by
  intro keys outcome
  have parts := Bounds.position_parts increasing
  refine ⟨?_, fun placed given => ⟨Placement.placeAll_ascending given, fun shard => ?_⟩,
    fun cause refused => ?_, fun key less => ?_,
    fun key => ⟨?_, fun other order => (parts key).mono (parts other) order⟩⟩
  · rw [Placement.exists_placeAll_iff]
    exact forall₂_congr fun value _ => Placement.exists_place_iff increasing
  · rw [Placement.mem_placeAll given]
    refine exists_congr fun value => and_congr_right fun _ => ?_
    rw [← Placement.ranged_eq_ok increasing, Placement.place, map_eq_ok]
    simp only [Option.some.injEq, exists_eq_right]
  · obtain ⟨before, value, after, rfl, fine, fails⟩ := Placement.placeAll_eq_error refused
    refine ⟨value, by simp, ?_, fun other inside notPlaceable => ?_⟩
    · exact Placement.ranged_eq_error increasing (map_eq_error.mp fails)
    · -- The values before the refused one are placed, and those behind it are greater.
      rcases List.mem_append.mp inside with earlier | later
      · exact absurd ((Placement.exists_place_iff increasing).mp (fine other earlier)) notPlaceable
      · rcases List.mem_cons.mp later with rfl | later
        · exact Or.inl rfl
        · exact Or.inr ((List.pairwise_cons.mp (List.pairwise_append.mp ascending).2.1).1 other later)
  · refine ⟨Bounds.position keys key, (Bounds.inRange_iff increasing).mpr ⟨rfl, ?_⟩, fun i inRange => ?_⟩
    · rw [List.length_map]
      exact (Placement.position_lt_iff increasing key).mpr less
    · exact ((Bounds.inRange_iff increasing).mp inRange).1.symm
  · exact (parts key).unique (Bounds.findIdx_parts increasing key)

/-- Keys on both sides of a bound, and one in another spelling, are placed with the shards of their ranges;
of a key at the last bound and a text that is no number, the key is the first to be refused. -/
theorem keys_below_thirty_placed :
    let bounds : List (Int64 × ShardId) := [(10, 4), (20, 1), (30, 4)]
    let keys : List KeyValue := [.integer 9, .integer 10, .text " 029 "]
    let strangers : List KeyValue := [.integer 9, .integer 30, .text "abc"]
    let beyond : PlacementError := .outOfRange "30" "range(<10:4,<20:1,<30:4)"
    (bounds.map Prod.fst).Pairwise (· < ·) ∧
      (keys.Pairwise fun before after => compare before after = .lt) ∧
      (strangers.Pairwise fun before after => compare before after = .lt) ∧
      (Placement.range bounds).placeAll keys = .ok [1, 4] ∧
      (∀ value ∈ keys, Placement.Placeable bounds value) ∧
      (∃! i, Bounds.InRange (bounds.map Prod.fst) 10 i) ∧
      (Placement.range bounds).placeAll strangers = .error beyond ∧
      ∃ value ∈ strangers, Placement.Refused bounds value beyond ∧ ∀ other ∈ strangers,
        ¬ Placement.Placeable bounds other → value = other ∨ compare value other = .lt := by
  intro bounds keys strangers beyond
  have increasing : (bounds.map Prod.fst).Pairwise (· < ·) := by decide
  have ascending : keys.Pairwise fun before after => compare before after = .lt := by decide
  have alsoAscending : strangers.Pairwise fun before after => compare before after = .lt := by decide
  have placed : (Placement.range bounds).placeAll keys = .ok [1, 4] := by decide +kernel
  have refused : (Placement.range bounds).placeAll strangers = .error beyond := by decide +kernel
  obtain ⟨iff, -, -, one, -⟩ := values_in_ranges increasing ascending
  obtain ⟨-, -, first, -, -⟩ := values_in_ranges increasing alsoAscending
  exact ⟨increasing, ascending, alsoAscending, placed, iff.mp ⟨_, placed⟩, one 10 ⟨_, rfl, by decide⟩,
    refused, first _ refused⟩

end Ranges

end ScatterGather
