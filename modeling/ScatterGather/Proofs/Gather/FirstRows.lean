/-
**The first rows of every shard are enough.**

A window asks for rows up to a place of the merged result. It does not matter to these rows whether a
shard sends all of its rows or only as many of its first ones, wherever the rows of the other shards
come in between:

* `firstOf`: of rows as they come in from all shards, the first ones of every shard;
* `SameEnd`: two lists that end in the same rows, as many as are asked for, or else are the same;
* `SameEnd.insert_both` — a row put into both lists **leaves their common end** as long as it was;
* `SameEnd.insert_one` — so does a row put into one of them alone, if **enough rows are not greater**;
* `take_sortRows_firstOf` — up to a given place, all rows and the first rows of every shard **sort
  alike**.
-/
import ScatterGather.Proofs.Gather.StableSort
import ScatterGather.Proofs.Reply.Arrivals

namespace ScatterGather

open Wire

/-! ### The first arrivals of every shard -/

section FirstOf

variable {shards : Nat} {α : Type}

/-- Of arrivals, the first ones of every shard, in the order in which they came. -/
def firstOf (count : Nat) (arrivals : List (Fin shards × α)) : List (Fin shards × α) :=
  arrivals.foldl (fun kept arrival =>
    if (sentBy arrival.1 kept).length < count then kept ++ [arrival] else kept) []

theorem firstOf_concat (count : Nat) (before : List (Fin shards × α)) (arrival : Fin shards × α) :
    firstOf count (before ++ [arrival]) =
      if (sentBy arrival.1 (firstOf count before)).length < count
      then firstOf count before ++ [arrival] else firstOf count before := by
  unfold firstOf
  rw [List.foldl_append]
  rfl

/-- The first arrivals of every shard are its first ones. -/
theorem sentBy_firstOf (count : Nat) (arrivals : List (Fin shards × α)) (shard : Fin shards) :
    sentBy shard (firstOf count arrivals) = (sentBy shard arrivals).take count := by
  induction arrivals using List.reverseRecOn with
  | nil => exact List.take_nil.symm
  | append_singleton before arrival ih =>
    rw [firstOf_concat, sentBy_concat]
    by_cases own : arrival.1 = shard
    · subst own
      rw [ih, if_pos rfl, List.length_take]
      by_cases room : (sentBy arrival.1 before).length < count
      · rw [if_pos (by omega), sentBy_concat, if_pos rfl, ih, List.take_of_length_le (by omega),
          List.take_of_length_le (by rw [List.length_append, List.length_singleton]; omega)]
      · rw [if_neg (by omega), ih, List.take_append_of_le_length (by omega)]
    · rw [if_neg own, List.append_nil, ← ih]
      split
      · rw [sentBy_concat, if_neg own, List.append_nil]
      · rfl

theorem firstOf_sublist (count : Nat) (arrivals : List (Fin shards × α)) :
    (firstOf count arrivals).Sublist arrivals := by
  induction arrivals using List.reverseRecOn with
  | nil => exact List.Sublist.refl _
  | append_singleton before arrival ih =>
    rw [firstOf_concat]
    split
    · exact ih.append (List.Sublist.refl _)
    · exact ih.trans (List.sublist_append_left before [arrival])

theorem firstOf_eq_self {count : Nat} {arrivals : List (Fin shards × α)}
    (few : arrivals.length ≤ count) : firstOf count arrivals = arrivals := by
  induction arrivals using List.reverseRecOn with
  | nil => rfl
  | append_singleton before arrival ih =>
    rw [List.length_append, List.length_singleton] at few
    have room : (sentBy arrival.1 before).length < count := by
      have fewer : (sentBy arrival.1 before).length ≤ before.length := by
        rw [sentBy, List.length_map]
        exact List.length_filter_le _ _
      omega
    rw [firstOf_concat, ih (by omega), if_pos room]

end FirstOf

/-! ### Common ends -/

variable {order : Row → Row → Ordering}

/-- A row stands behind those that it passes. -/
theorem insertRow_split (order : Row → Row → Ordering) (row : Row) (rows : List Row) :
    ∃ front back, rows = front ++ back ∧ (∀ other ∈ front, order row other = .lt) ∧
      insertRow order row rows = front ++ row :: back := by
  induction rows with
  | nil => exact ⟨[], [], rfl, fun _ inside => absurd inside List.not_mem_nil, rfl⟩
  | cons last rest ih =>
    rw [insertRow]
    split
    · next less =>
      obtain ⟨front, back, same, passed, inserted⟩ := ih
      exact ⟨last :: front, back, congrArg (last :: ·) same, List.forall_mem_cons.mpr ⟨less, passed⟩,
        congrArg (last :: ·) inserted⟩
    · exact ⟨[], last :: rest, rfl, fun _ inside => absurd inside List.not_mem_nil, rfl⟩

/-- Rows that a row passes do not matter to where it is put among others. -/
theorem insertRow_passes {row : Row} {front : List Row}
    (passed : ∀ other ∈ front, order row other = .lt) (back : List Row) :
    insertRow order row (front ++ back) = front ++ insertRow order row back := by
  induction front with
  | nil => rfl
  | cons last rest ih =>
    obtain ⟨less, others⟩ := List.forall_mem_cons.mp passed
    rw [List.cons_append, insertRow, if_pos less, ih others, List.cons_append]

/-- Rows that a row does not pass stay the end of the list that it is put into. -/
theorem insertRow_ends {row : Row} {back : List Row} (notLess : ∀ last ∈ back, order row last ≠ .lt)
    (front : List Row) : ∃ grown, insertRow order row (front ++ back) = grown ++ back := by
  obtain ⟨passed, stays, split, above, inserted⟩ := insertRow_split order row (front ++ back)
  rw [inserted]
  rcases List.append_eq_append_iff.mp split with ⟨more, rfl, rfl⟩ | ⟨more, rfl, rfl⟩
  · have none : more = [] := List.eq_nil_iff_forall_not_mem.mpr fun last inside =>
      notLess last (List.mem_append_left _ inside) (above last (List.mem_append_right _ inside))
    exact ⟨front ++ [row], by rw [none, List.append_nil, List.nil_append, List.append_assoc]; rfl⟩
  · exact ⟨passed ++ row :: more, by rw [List.append_assoc]; rfl⟩

/-- Behind rows in descending order that a row does not all pass there are none that it passes. -/
theorem not_lt_of_stopped {row other : Row} {front back : List Row}
    (total : TotalOn order (row :: (front ++ back)))
    (descending : (front ++ back).Pairwise fun later earlier => (order earlier later).isLE = true)
    (inside : other ∈ front) (stopped : order row other ≠ .lt) :
    ∀ last ∈ back, order row last ≠ .lt := by
  intro last isLast less
  have inFront : other ∈ row :: (front ++ back) :=
    List.mem_cons_of_mem _ (List.mem_append_left _ inside)
  have inBack : last ∈ row :: (front ++ back) :=
    List.mem_cons_of_mem _ (List.mem_append_right _ isLast)
  have below := (List.pairwise_append.mp descending).2.2 other inside last isLast
  have notAbove := total.trans last inBack other inFront row List.mem_cons_self below
    (total.le_of_not_lt List.mem_cons_self inFront stopped)
  rw [total.swap row List.mem_cons_self last inBack, less] at notAbove
  cases notAbove

/-- Two lists of rows end alike, in as many rows as are asked for, or else are the same. -/
def SameEnd (count : Nat) (some others : List Row) : Prop :=
  ∃ front otherFront back, some = front ++ back ∧ others = otherFront ++ back ∧
    (front = [] ∧ otherFront = [] ∨ count ≤ back.length)

namespace SameEnd

variable {count : Nat} {some others : List Row} {row : Row}

theorem take_reverse (same : SameEnd count some others) :
    some.reverse.take count = others.reverse.take count := by
  obtain ⟨front, otherFront, back, rfl, rfl, ⟨rfl, rfl⟩ | long⟩ := same
  · rfl
  · rw [← List.length_reverse] at long
    rw [List.reverse_append, List.reverse_append, List.take_append_of_le_length long,
      List.take_append_of_le_length long]

/-- **A row put into both lists** leaves them a common end. -/
theorem insert_both (same : SameEnd count some others)
    (total : TotalOn order (row :: some)) (otherTotal : TotalOn order (row :: others))
    (descending : some.Pairwise fun later earlier => (order earlier later).isLE = true)
    (otherDescending : others.Pairwise fun later earlier => (order earlier later).isLE = true) :
    SameEnd count (insertRow order row some) (insertRow order row others) := by
  obtain ⟨front, otherFront, back, rfl, rfl, long⟩ := same
  by_cases stops : ∃ other ∈ front ++ otherFront, order row other ≠ .lt
  · -- The row stops before the common end, which stays as it is.
    obtain ⟨other, inside, stopped⟩ := stops
    have notLess : ∀ last ∈ back, order row last ≠ .lt := by
      rcases List.mem_append.mp inside with inside | inside
      · exact not_lt_of_stopped total descending inside stopped
      · exact not_lt_of_stopped otherTotal otherDescending inside stopped
    obtain ⟨grown, first⟩ := insertRow_ends notLess front
    obtain ⟨otherGrown, second⟩ := insertRow_ends notLess otherFront
    refine ⟨grown, otherGrown, back, first, second, Or.inr (long.resolve_left ?_)⟩
    rintro ⟨rfl, rfl⟩
    exact absurd inside List.not_mem_nil
  · have passed : ∀ other ∈ front ++ otherFront, order row other = .lt := fun other inside =>
      Classical.not_not.mp fun stopped => stops ⟨other, inside, stopped⟩
    rw [insertRow_passes fun other inside => passed other (List.mem_append_left _ inside),
      insertRow_passes fun other inside => passed other (List.mem_append_right _ inside)]
    refine ⟨front, otherFront, _, rfl, rfl, long.imp_right fun long => ?_⟩
    rw [(insertRow_perm order row back).length_eq]
    exact Nat.le_succ_of_le long

/-- **A row put into one list alone** leaves the common end if enough rows are not greater. -/
theorem insert_one (same : SameEnd count some others)
    (enough : count ≤ some.countP fun other => order row other != .lt) :
    SameEnd count (insertRow order row some) others := by
  obtain ⟨passed, stays, split, above, inserted⟩ := insertRow_split order row some
  have long : count ≤ stays.length := by
    rw [split, List.countP_append, List.countP_eq_zero.mpr fun other inside => by
      rw [above other inside]
      exact Bool.false_ne_true, Nat.zero_add] at enough
    exact enough.trans List.countP_le_length
  rw [inserted]
  obtain ⟨front, otherFront, back, rfl, rfl, ⟨rfl, rfl⟩ | ends⟩ := same
  · exact ⟨passed ++ [row], passed, stays, by simp, split, Or.inr long⟩
  · rcases List.append_eq_append_iff.mp split with ⟨more, rfl, rfl⟩ | ⟨more, rfl, rfl⟩
    · exact ⟨front ++ more ++ [row], otherFront ++ more, stays, by simp, by simp, Or.inr long⟩
    · exact ⟨passed ++ row :: more, otherFront, back, by simp, rfl, Or.inr ends⟩

end SameEnd

/-! ### Sorting the first rows -/

theorem sortRows_concat (order : Row → Row → Ordering) (rows : List Row) (row : Row) :
    (sortRows order (rows ++ [row])).reverse = insertRow order row (sortRows order rows).reverse := by
  unfold sortRows
  rw [List.foldl_append, List.reverse_reverse, List.reverse_reverse]
  rfl

section Sorting

variable {shards : Nat} {arrivals : List (Fin shards × Row)}

/-- A row comes behind as many rows of its own shard as have come in before it. -/
theorem countP_before {before : List (Fin shards × Row)} {arrival : Fin shards × Row}
    (total : TotalOn order ((before ++ [arrival]).map Prod.snd))
    (sorted : (sentBy arrival.1 (before ++ [arrival])).Pairwise fun earlier later =>
      (order earlier later).isLE = true) :
    (sentBy arrival.1 before).length ≤
      (sortRows order (before.map Prod.snd)).reverse.countP fun other =>
        order arrival.2 other != .lt := by
  rw [sentBy_concat, if_pos rfl] at sorted
  have inside : ∀ {other}, other ∈ sentBy arrival.1 before →
      other ∈ (before ++ [arrival]).map Prod.snd := fun {other} member => by
    obtain ⟨sent, isSent, rfl⟩ := List.mem_map.mp member
    exact List.mem_map_of_mem (List.mem_append_left _ (List.mem_of_mem_filter isSent))
  have itself : arrival.2 ∈ (before ++ [arrival]).map Prod.snd :=
    List.mem_map_of_mem (List.mem_append_right _ List.mem_cons_self)
  have notLess : ∀ other ∈ sentBy arrival.1 before, (order arrival.2 other != .lt) = true := by
    intro other member
    have below := (List.pairwise_append.mp sorted).2.2 other member arrival.2 List.mem_cons_self
    rw [bne_iff_ne, total.swap other (inside member) arrival.2 itself]
    cases less : order other arrival.2 with
    | gt => rw [less] at below; cases below
    | lt => exact nofun
    | eq => exact nofun
  have sub : (sentBy arrival.1 before).Sublist (before.map Prod.snd) :=
    List.filter_sublist.map Prod.snd
  calc (sentBy arrival.1 before).length
      = (sentBy arrival.1 before).countP fun other => order arrival.2 other != .lt :=
        (List.countP_eq_length.mpr notLess).symm
    _ ≤ (before.map Prod.snd).countP fun other => order arrival.2 other != .lt := sub.countP_le
    _ = (sortRows order (before.map Prod.snd)).reverse.countP fun other =>
          order arrival.2 other != .lt :=
        (((List.reverse_perm _).trans (sortRows_perm order _)).countP_eq _).symm

/-- **All rows and the first rows of every shard**, put in order as they come, keep a common end. -/
theorem sameEnd_firstOf {place count : Nat} (enough : place ≤ count)
    (total : TotalOn order (arrivals.map Prod.snd))
    (sorted : ∀ shard, (sentBy shard arrivals).Pairwise fun earlier later =>
      (order earlier later).isLE = true) :
    SameEnd place (sortRows order (arrivals.map Prod.snd)).reverse
      (sortRows order ((firstOf count arrivals).map Prod.snd)).reverse := by
  -- A row that is sent goes into both lists. One that is not has enough rows of its own shard before it.
  induction arrivals using List.reverseRecOn with
  | nil => exact ⟨[], [], [], rfl, rfl, Or.inl ⟨rfl, rfl⟩⟩
  | append_singleton before arrival ih =>
    have earlier : TotalOn order (before.map Prod.snd) := by
      refine total.mono ?_
      rw [List.map_append]
      exact List.subset_append_left _ _
    have same := ih earlier fun shard => by
      have whole := sorted shard
      rw [sentBy_concat] at whole
      exact (List.pairwise_append.mp whole).1
    have kept : (firstOf count before).map Prod.snd ⊆ before.map Prod.snd :=
      ((firstOf_sublist count before).map Prod.snd).subset
    have within : ∀ {rows}, rows ⊆ before.map Prod.snd →
        TotalOn order (arrival.2 :: (sortRows order rows).reverse) := fun {rows} fewer => by
      refine total.mono ?_
      rw [List.map_append, List.map_singleton]
      refine List.cons_subset.mpr ⟨List.mem_append_right _ List.mem_cons_self, fun row inside => ?_⟩
      exact List.mem_append_left _
        (fewer ((sortRows_perm order rows).mem_iff.mp (List.mem_reverse.mp inside)))
    rw [firstOf_concat, List.map_append, List.map_singleton, sortRows_concat]
    split
    · rw [List.map_append, List.map_singleton, sortRows_concat]
      exact same.insert_both (within (List.Subset.refl _)) (within kept)
        (List.pairwise_reverse.mpr (sortRows_sorted earlier))
        (List.pairwise_reverse.mpr (sortRows_sorted (earlier.mono kept)))
    · next full =>
      refine same.insert_one (enough.trans (le_trans ?_ (countP_before total (sorted arrival.1))))
      rw [sentBy_firstOf, List.length_take] at full
      omega

/-- **Up to a place, all rows and the first rows of every shard sort alike**, where every shard sends
its rows in order and no fewer of them than the place asks for. -/
theorem take_sortRows_firstOf {place count : Nat} (enough : place ≤ count)
    (total : TotalOn order (arrivals.map Prod.snd))
    (sorted : ∀ shard, (sentBy shard arrivals).Pairwise fun earlier later =>
      (order earlier later).isLE = true) :
    (sortRows order (arrivals.map Prod.snd)).take place =
      (sortRows order ((firstOf count arrivals).map Prod.snd)).take place := by
  have same := (sameEnd_firstOf enough total sorted).take_reverse
  rwa [List.reverse_reverse, List.reverse_reverse] at same

/-- **Up to a place, all rows and the first rows of every shard are merged alike.** -/
theorem take_merged_firstOf {keys : List SortKey} {merged few : List Row} {place count : Nat}
    (enough : place ≤ count) (total : TotalOn (compareRows keys) (arrivals.map Prod.snd))
    (sorted : ∀ shard, (sentBy shard arrivals).Pairwise fun earlier later =>
      (compareRows keys earlier later).isLE = true)
    (all : MergedBy keys (arrivals.map Prod.snd) merged)
    (first : MergedBy keys ((firstOf count arrivals).map Prod.snd) few) :
    few.take place = merged.take place := by
  have fewer : (firstOf count arrivals).map Prod.snd ⊆ arrivals.map Prod.snd :=
    ((firstOf_sublist count arrivals).map Prod.snd).subset
  rw [all.unique total (sortRows_mergedBy _ _),
    first.unique (total.mono fewer) (sortRows_mergedBy _ _)]
  exact (take_sortRows_firstOf enough total sorted).symm

end Sorting

end ScatterGather
