/-
**Sorting rows is stable.**

Rows are put one by one among those before them. Whether that sorts them depends on the order, which
comes from texts that spell numbers or do not; so what is asked of the order is asked only **on the rows
at hand** (`TotalOn`).

* `insertRow_descending`, `filter_insertRow` — a row put among sorted ones leaves them sorted, and stands
  behind the rows that the order does not tell apart from it;
* `sortRows_sorted`, `sortRows_stable` — the same for all rows: the result is **sorted**, and rows that
  are not told apart **stay as they came**;
* `eq_of_stable` — there is **no other list** of the same rows of which that is true;
* `MergedBy`, `merged_mergedBy`: what the result of a gathering is, by the columns to sort by and the
  rows as they came.
-/
import ScatterGather.Gather.Gathering
import Mathlib.Data.List.Basic

namespace ScatterGather

open Wire

/-! ### Orders on some rows -/

/-- An order is a total preorder on some rows: turned around where they are, and transitive. -/
structure TotalOn (order : Row → Row → Ordering) (rows : List Row) : Prop where
  swap : ∀ a ∈ rows, ∀ b ∈ rows, order b a = (order a b).swap
  trans : ∀ a ∈ rows, ∀ b ∈ rows, ∀ c ∈ rows,
    (order a b).isLE = true → (order b c).isLE = true → (order a c).isLE = true

namespace TotalOn

variable {order : Row → Row → Ordering} {rows fewer : List Row}

theorem mono (total : TotalOn order rows) (subset : fewer ⊆ rows) : TotalOn order fewer :=
  ⟨fun a inA b inB => total.swap a (subset inA) b (subset inB),
    fun a inA b inB c inC => total.trans a (subset inA) b (subset inB) c (subset inC)⟩

theorem le_of_not_lt (total : TotalOn order rows) {a b : Row} (inA : a ∈ rows) (inB : b ∈ rows)
    (notLess : order a b ≠ .lt) : (order b a).isLE = true := by
  rw [total.swap a inA b inB]
  cases same : order a b with
  | lt => exact absurd same notLess
  | eq => rfl
  | gt => rfl

/-- Of two rows that are not told apart from a third, neither is less than the other. -/
theorem not_lt_of_eq (total : TotalOn order rows) {pivot a b : Row} (inPivot : pivot ∈ rows)
    (inA : a ∈ rows) (inB : b ∈ rows) (eqA : order pivot a = .eq) (eqB : order pivot b = .eq) :
    order a b ≠ .lt := by
  intro less
  have fromB : (order b pivot).isLE = true := by
    rw [total.swap pivot inPivot b inB, eqB]
    rfl
  have toA : (order pivot a).isLE = true := by rw [eqA]; rfl
  have wrong := total.trans b inB pivot inPivot a inA fromB toA
  rw [total.swap a inA b inB, less] at wrong
  cases wrong

end TotalOn

/-! ### One row more -/

variable {order : Row → Row → Ordering}

/-- A row put among rows in descending order leaves them so. -/
theorem insertRow_descending {row : Row} {sorted : List Row} (total : TotalOn order (row :: sorted))
    (descending : sorted.Pairwise fun later earlier => (order earlier later).isLE = true) :
    (insertRow order row sorted).Pairwise fun later earlier =>
      (order earlier later).isLE = true := by
  induction sorted with
  | nil => exact List.pairwise_singleton _ _
  | cons last rest ih =>
    obtain ⟨below, ordered⟩ := List.pairwise_cons.mp descending
    rw [insertRow]
    split
    · next less =>
      have fewer : row :: rest ⊆ row :: last :: rest :=
        List.cons_subset_cons row (List.subset_cons_self last rest)
      refine List.pairwise_cons.mpr ⟨fun other inside => ?_, ih (total.mono fewer) ordered⟩
      rcases List.mem_cons.mp ((insertRow_perm order row rest).mem_iff.mp inside) with rfl | inside
      · rw [less]
        rfl
      · exact below other inside
    · next notLess =>
      have lastBelow : (order last row).isLE = true :=
        total.le_of_not_lt (List.mem_cons_self) (List.mem_cons_of_mem _ List.mem_cons_self) notLess
      refine List.pairwise_cons.mpr ⟨fun other inside => ?_, descending⟩
      rcases List.mem_cons.mp inside with rfl | inRest
      · exact lastBelow
      · exact total.trans other (List.mem_cons_of_mem _ inside) last
          (List.mem_cons_of_mem _ List.mem_cons_self) row List.mem_cons_self
          (below other inRest) lastBelow

/-- A row put among others comes, of the rows that are not told apart from a given one, in front. -/
theorem filter_insertRow {pivot row : Row} {sorted : List Row}
    (total : TotalOn order (pivot :: row :: sorted)) :
    (insertRow order row sorted).filter (fun other => order pivot other == .eq) =
      (row :: sorted).filter fun other => order pivot other == .eq := by
  induction sorted with
  | nil => rfl
  | cons last rest ih =>
    rw [insertRow]
    split
    · next less =>
      have fewer : pivot :: row :: rest ⊆ pivot :: row :: last :: rest :=
        List.cons_subset_cons pivot (List.cons_subset_cons row (List.subset_cons_self last rest))
      rw [List.filter_cons, ih (total.mono fewer), List.filter_cons, List.filter_cons,
        List.filter_cons]
      -- Of the two rows that change places at most one is not told apart from the given one.
      by_cases eqRow : order pivot row = .eq
      · have neLast : order pivot last ≠ .eq := by
          intro eqLast
          exact total.not_lt_of_eq List.mem_cons_self (by simp) (by simp) eqRow eqLast less
        simp only [eqRow, beq_self_eq_true, if_true, beq_eq_false_iff_ne.mpr neLast,
          Bool.false_eq_true, if_false]
      · simp only [beq_eq_false_iff_ne.mpr eqRow, Bool.false_eq_true, if_false]
    · rfl

/-! ### All rows -/

/-- Rows put one by one among rows in descending order leave them so, and those that are not told
apart from a given one stand in the order in which they came, the last in front. -/
theorem foldl_insertRow (rows : List Row) :
    ∀ sorted : List Row, TotalOn order (rows ++ sorted) →
      sorted.Pairwise (fun later earlier => (order earlier later).isLE = true) →
      (rows.foldl (fun sorted row => insertRow order row sorted) sorted).Pairwise
          (fun later earlier => (order earlier later).isLE = true) ∧
        ∀ pivot ∈ rows ++ sorted,
          (rows.foldl (fun sorted row => insertRow order row sorted) sorted).filter
              (fun other => order pivot other == .eq) =
            (rows.reverse ++ sorted).filter fun other => order pivot other == .eq := by
  induction rows with
  | nil => exact fun sorted _ descending => ⟨descending, fun _ _ => rfl⟩
  | cons row rest ih =>
    intro sorted total descending
    have perm : (rest ++ insertRow order row sorted).Perm (row :: rest ++ sorted) :=
      ((insertRow_perm order row sorted).append_left rest).trans List.perm_middle
    have inserted := insertRow_descending
      (total.mono (List.cons_subset_cons row (List.subset_append_right rest sorted))) descending
    obtain ⟨stillDescending, stable⟩ := ih (insertRow order row sorted)
      (total.mono perm.subset) inserted
    refine ⟨stillDescending, fun pivot inside => ?_⟩
    have fewer : pivot :: row :: sorted ⊆ row :: rest ++ sorted :=
      List.cons_subset.mpr
        ⟨inside, List.cons_subset_cons row (List.subset_append_right rest sorted)⟩
    have here := filter_insertRow (total.mono fewer)
    rw [List.foldl_cons, stable pivot (perm.mem_iff.mpr inside), List.filter_append, here,
      ← List.filter_append, List.reverse_cons, List.append_assoc]
    rfl

/-- **Sorting sorts**, where the order is a total preorder on the rows. -/
theorem sortRows_sorted {rows : List Row} (total : TotalOn order rows) :
    (sortRows order rows).Pairwise fun earlier later => (order earlier later).isLE = true := by
  have all := foldl_insertRow rows [] (by rwa [List.append_nil]) List.Pairwise.nil
  exact List.pairwise_reverse.mpr all.1

/-- **Sorting is stable**: rows that are not told apart stay in their order. -/
theorem sortRows_stable {rows : List Row} (total : TotalOn order rows) {pivot : Row}
    (inside : pivot ∈ rows) :
    (sortRows order rows).filter (fun other => order pivot other == .eq) =
      rows.filter fun other => order pivot other == .eq := by
  have all := foldl_insertRow rows [] (by rwa [List.append_nil]) List.Pairwise.nil
  have stable := all.2 pivot (by rwa [List.append_nil])
  rw [sortRows, List.filter_reverse, stable, List.append_nil, List.filter_reverse,
    List.reverse_reverse]

/-- **There is one stable sort.** The same rows in an order, where those that it does not tell apart stand
alike, are the same list. -/
theorem eq_of_stable {rows others : List Row} (total : TotalOn order rows) (perm : rows.Perm others)
    (sorted : rows.Pairwise fun earlier later => (order earlier later).isLE = true)
    (othersSorted : others.Pairwise fun earlier later => (order earlier later).isLE = true)
    (stable : ∀ pivot ∈ rows, rows.filter (fun other => order pivot other == .eq) =
      others.filter fun other => order pivot other == .eq) : rows = others := by
  induction rows generalizing others with
  | nil => exact (List.nil_perm.mp perm).symm
  | cons first rest ih =>
    cases others with
    | nil => exact absurd perm.symm (List.nil_perm.not.mpr (List.cons_ne_nil _ _))
    | cons other more =>
      have inOther : other ∈ first :: rest := perm.mem_iff.mpr List.mem_cons_self
      have inFirst : first ∈ other :: more := perm.mem_iff.mp List.mem_cons_self
      have itself : order first first = .eq := by
        have swapped := total.swap first List.mem_cons_self first List.mem_cons_self
        cases same : order first first with
        | eq => rfl
        | lt => rw [same] at swapped; cases swapped
        | gt => rw [same] at swapped; cases swapped
      have alike : order first other = .eq := by
        have swapped := total.swap first List.mem_cons_self other inOther
        rcases List.mem_cons.mp inOther with rfl | later
        · exact itself
        rcases List.mem_cons.mp inFirst with rfl | otherLater
        · exact itself
        -- Each of the two rows stands in front of the other one in one of the lists.
        have below := (List.pairwise_cons.mp sorted).1 other later
        have above := (List.pairwise_cons.mp othersSorted).1 first otherLater
        rw [swapped] at above
        cases same : order first other with
        | eq => rfl
        | lt => rw [same] at above; cases above
        | gt => rw [same] at below; cases below
      have heads := stable first List.mem_cons_self
      rw [List.filter_cons_of_pos (by rw [itself]; rfl),
        List.filter_cons_of_pos (by rw [alike]; rfl)] at heads
      obtain rfl : first = other := (List.cons.inj heads).1
      rw [ih (total.mono (List.subset_cons_self _ _)) perm.cons_inv (List.pairwise_cons.mp sorted).2
        (List.pairwise_cons.mp othersSorted).2 fun pivot inside => ?_]
      have here := stable pivot (List.mem_cons_of_mem _ inside)
      rw [List.filter_cons, List.filter_cons] at here
      split at here
      · exact (List.cons.inj here).2
      · exact here

/-! ### Merged rows -/

/-- What rows merged by some columns are, given the rows as they came: the same rows; as they came if
there is no column to sort by; and else, where the columns order the rows at all, sorted by them with
those that are not told apart as they came. -/
structure MergedBy (keys : List SortKey) (rows merged : List Row) : Prop where
  perm : merged.Perm rows
  unsorted : keys = [] → merged = rows
  sorted : TotalOn (compareRows keys) rows →
    merged.Pairwise fun earlier later => (compareRows keys earlier later).isLE = true
  stable : TotalOn (compareRows keys) rows → ∀ pivot ∈ rows,
    merged.filter (fun other => compareRows keys pivot other == .eq) =
      rows.filter fun other => compareRows keys pivot other == .eq

/-- Where the columns order the rows, there is one way to merge them. -/
theorem MergedBy.unique {keys : List SortKey} {rows merged other : List Row}
    (total : TotalOn (compareRows keys) rows) (one : MergedBy keys rows merged)
    (two : MergedBy keys rows other) : merged = other := by
  have within : merged ⊆ rows := one.perm.subset
  refine eq_of_stable (total.mono within) (one.perm.trans two.perm.symm) (one.sorted total)
    (two.sorted total) fun pivot inside => ?_
  rw [one.stable total pivot (within inside), two.stable total pivot (within inside)]

/-- Without columns to sort by no row is told apart from another. -/
theorem totalOn_unordered (rows : List Row) : TotalOn (compareRows []) rows :=
  ⟨fun _ _ _ _ => rfl, fun _ _ _ _ _ _ _ _ => rfl⟩

/-- **Sorted rows are merged.** Without columns to sort by they are as they came. -/
theorem sortRows_mergedBy (keys : List SortKey) (rows : List Row) :
    MergedBy keys rows (sortRows (compareRows keys) rows) := by
  refine ⟨sortRows_perm _ _, ?_, sortRows_sorted, fun total _ => sortRows_stable total⟩
  rintro rfl
  have total := totalOn_unordered (sortRows (compareRows []) rows)
  exact eq_of_stable total (sortRows_perm _ _) (sortRows_sorted (totalOn_unordered rows))
    (List.pairwise_of_forall fun _ _ => rfl) fun pivot inside =>
      sortRows_stable (totalOn_unordered rows) ((sortRows_perm _ _).mem_iff.mp inside)

/-- **The rows of a gathering are merged** by its columns to sort by. -/
theorem Gathering.merged_mergedBy (gathering : Gathering) :
    MergedBy gathering.sortKeys gathering.rows gathering.merged := by
  unfold Gathering.merged
  cases keys : gathering.sortKeys with
  | nil =>
    refine ⟨List.Perm.refl _, fun _ => rfl, fun _ => ?_, fun _ _ _ => rfl⟩
    exact List.pairwise_of_forall fun _ _ => rfl
  | cons key rest => exact sortRows_mergedBy _ _

end ScatterGather
