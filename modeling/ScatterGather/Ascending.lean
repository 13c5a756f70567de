/-
**Ascending lists.**

A finite set is kept as the list of its members in ascending order, each once.

* `Ascending.insert`, `Ascending.ofList`: a member added, and the set of a list's members;
* `Ascending.inter`: the members of two sets;
* `Ascending.put`: a value put under a key, in a table that is ascending by its keys;
* `Ascending.mem_insert`, `Ascending.mem_ofList`, `Ascending.mem_inter`: what the members are;
* `Ascending.insert_ascending`, `Ascending.ofList_ascending`: they ascend;
* `Ascending.eq_of_mem_iff`: sets with the same members are the same;
* `Ascending.mem_put`, `Ascending.put_ascending`: what stands in a table, and in which order.
-/

namespace ScatterGather.Ascending

variable {α β : Type}

/-- The members of a set that are in another one as well. -/
def inter [BEq α] (left right : List α) : List α :=
  left.filter right.contains

theorem mem_inter [BEq α] [LawfulBEq α] {x : α} {left right : List α} :
    x ∈ inter left right ↔ x ∈ left ∧ x ∈ right := by
  rw [inter, List.mem_filter, List.contains_iff_mem]

/-! ### Members in order -/

variable [Ord α]

/-- The set with a member added. -/
def insert (x : α) : List α → List α
  | [] => [x]
  | y :: rest =>
    match compare x y with
    | .lt => x :: y :: rest
    | .eq => y :: rest
    | .gt => y :: insert x rest

theorem mem_insert [Std.LawfulEqOrd α] {x a : α} {set : List α} :
    x ∈ insert a set ↔ x = a ∨ x ∈ set := by
  induction set with
  | nil => rw [insert, List.mem_singleton, List.mem_nil_iff, or_false]
  | cons y rest ih =>
    rw [insert]
    split
    · exact List.mem_cons
    · next same =>
      rw [List.mem_cons, Std.LawfulEqOrd.eq_of_compare same]
      exact ⟨Or.inr, fun member => member.elim Or.inl id⟩
    · rw [List.mem_cons, List.mem_cons, ih]
      exact or_left_comm

/-- The set with the members of a list added. -/
def union (set : List α) (members : List α) : List α :=
  members.foldr insert set

theorem mem_union [Std.LawfulEqOrd α] {x : α} {set members : List α} :
    x ∈ union set members ↔ x ∈ members ∨ x ∈ set := by
  induction members with
  | nil => rw [union, List.foldr_nil, List.mem_nil_iff, false_or]
  | cons a rest ih =>
    rw [union, List.foldr_cons, mem_insert, List.mem_cons, or_assoc]
    exact or_congr_right ih

/-- The set of a list's members. -/
def ofList (members : List α) : List α :=
  union [] members

theorem mem_ofList [Std.LawfulEqOrd α] {x : α} {members : List α} :
    x ∈ ofList members ↔ x ∈ members := by
  rw [ofList, mem_union, List.mem_nil_iff, or_false]

theorem insert_ascending [Std.LawfulEqOrd α] [Std.TransOrd α] (x : α) {set : List α}
    (ascending : set.Pairwise fun before after => compare before after = .lt) :
    (insert x set).Pairwise fun before after => compare before after = .lt := by
  induction set with
  | nil => exact List.pairwise_singleton _ _
  | cons y rest ih =>
    obtain ⟨below, ordered⟩ := List.pairwise_cons.mp ascending
    rw [insert]
    split
    · next less =>
      refine List.pairwise_cons.mpr ⟨fun after inside => ?_, ascending⟩
      rcases List.mem_cons.mp inside with rfl | inside
      · exact less
      · exact Std.TransCmp.lt_trans less (below after inside)
    · exact ascending
    · next greater =>
      refine List.pairwise_cons.mpr ⟨fun after inside => ?_, ih ordered⟩
      rcases mem_insert.mp inside with rfl | inside
      · exact Std.OrientedCmp.gt_iff_lt.mp greater
      · exact below after inside

theorem union_ascending [Std.LawfulEqOrd α] [Std.TransOrd α] {set : List α} (members : List α)
    (ascending : set.Pairwise fun before after => compare before after = .lt) :
    (union set members).Pairwise fun before after => compare before after = .lt := by
  induction members with
  | nil => exact ascending
  | cons x rest ih => exact insert_ascending x ih

theorem ofList_ascending [Std.LawfulEqOrd α] [Std.TransOrd α] (members : List α) :
    (ofList members).Pairwise fun before after => compare before after = .lt :=
  union_ascending members List.Pairwise.nil

/-- Sets that ascend and have the same members are the same. -/
theorem eq_of_mem_iff [Std.TransOrd α] {set other : List α}
    (ascending : set.Pairwise fun before after => compare before after = .lt)
    (alsoAscending : other.Pairwise fun before after => compare before after = .lt)
    (same : ∀ x, x ∈ set ↔ x ∈ other) : set = other := by
  have apart : ∀ {x y : α}, compare x y = .lt → x ≠ y := by
    rintro x _ less rfl
    rw [Std.ReflOrd.compare_self] at less
    cases less
  have perm := (List.perm_ext_iff_of_nodup (ascending.imp apart) (alsoAscending.imp apart)).mpr same
  refine perm.eq_of_pairwise (fun x y _ _ less greater => ?_) ascending alsoAscending
  rw [← Std.OrientedCmp.gt_iff_lt, less] at greater
  cases greater

/-! ### Tables -/

/-- The table in which a key's value is made from the one it had, if any. -/
def put (key : α) (value : Option β → β) : List (α × β) → List (α × β)
  | [] => [(key, value none)]
  | (first, old) :: rest =>
    match compare key first with
    | .lt => (key, value none) :: (first, old) :: rest
    | .eq => (first, value (some old)) :: rest
    | .gt => (first, old) :: put key value rest

/-- What stands in a table after a value is put into it stood there before, or is that value. -/
theorem mem_put [Std.LawfulEqOrd α] {key : α} {value : Option β → β} {table : List (α × β)}
    {entry : α × β} (member : entry ∈ put key value table) :
    entry ∈ table ∨ entry = (key, value none) ∨
      ∃ old, (key, old) ∈ table ∧ entry = (key, value (some old)) := by
  induction table with
  | nil => exact Or.inr (Or.inl (List.mem_singleton.mp member))
  | cons first rest ih =>
    obtain ⟨other, old⟩ := first
    rw [put] at member
    split at member
    · rcases List.mem_cons.mp member with rfl | inside
      · exact Or.inr (Or.inl rfl)
      · exact Or.inl inside
    · next same =>
      obtain rfl := Std.LawfulEqOrd.eq_of_compare same
      rcases List.mem_cons.mp member with rfl | inside
      · exact Or.inr (Or.inr ⟨old, List.mem_cons_self, rfl⟩)
      · exact Or.inl (List.mem_cons_of_mem _ inside)
    · rcases List.mem_cons.mp member with rfl | inside
      · exact Or.inl List.mem_cons_self
      · exact (ih inside).imp (List.mem_cons_of_mem _) (Or.imp_right fun ⟨old, before, same⟩ =>
          ⟨old, List.mem_cons_of_mem _ before, same⟩)

theorem put_ascending [Std.LawfulEqOrd α] [Std.TransOrd α] (key : α) (value : Option β → β)
    {table : List (α × β)}
    (ascending : table.Pairwise fun before after => compare before.1 after.1 = .lt) :
    (put key value table).Pairwise fun before after => compare before.1 after.1 = .lt := by
  induction table with
  | nil => exact List.pairwise_singleton _ _
  | cons first rest ih =>
    obtain ⟨other, old⟩ := first
    obtain ⟨below, ordered⟩ := List.pairwise_cons.mp ascending
    rw [put]
    split
    · next less =>
      refine List.pairwise_cons.mpr ⟨fun after inside => ?_, ascending⟩
      rcases List.mem_cons.mp inside with rfl | inside
      · exact less
      · exact Std.TransCmp.lt_trans less (below after inside)
    · exact List.pairwise_cons.mpr ⟨below, ordered⟩
    · next greater =>
      refine List.pairwise_cons.mpr ⟨fun after inside => ?_, ih ordered⟩
      have less := Std.OrientedCmp.gt_iff_lt.mp greater
      rcases mem_put inside with inside | rfl | ⟨_, -, rfl⟩
      · exact below after inside
      · exact less
      · exact less

end ScatterGather.Ascending
