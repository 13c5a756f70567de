/-
**Declared tables.**

A declaration makes a table if the shards and the bounds that it lists are in order. They are checked
one after the other, and the first that is not ends it; what they have to be is said here without that
order:

* `Layout.Listable`, `TableLayout.Bounded`, `TableLayout.Consistent`: the shards that a table may list,
  the bounds that its rule may have, and both;
* `TableLayout.Fault`: **what is wrong first** with a declaration;
* `Table.IsOf`: a table that is what was declared;
* `addShards_fault`, `exists_addShards_iff`: the check of the shards fails at a fault, and only there;
* `Table.ofLayout_eq_ok`, `Table.exists_ofLayout_iff` — a declaration makes a table **exactly if it is
  consistent**, namely the one that was declared;
* `Table.ofLayout_eq_error` — and is refused **exactly for its first fault**.
-/
import ScatterGather.Layout.Schema
import ScatterGather.Proofs.Sequence

namespace ScatterGather

/-! ### Consistent declarations -/

namespace Layout

/-- Shards that a table may list: known ones, and none twice. -/
structure Listable (known listed : List ShardId) : Prop where
  known : listed ⊆ known
  once : listed.Nodup

theorem listable_nil (known : List ShardId) : Listable known [] :=
  ⟨List.nil_subset _, List.nodup_nil⟩

/-- One more shard may be listed if it is known and not there yet. -/
theorem listable_concat {known before : List ShardId} {shard : ShardId} :
    Listable known (before ++ [shard]) ↔ Listable known before ∧ shard ∈ known ∧ shard ∉ before := by
  constructor
  · rintro ⟨isKnown, once⟩
    obtain ⟨isKnown, last⟩ := List.append_subset.mp isKnown
    obtain ⟨once, -, apart⟩ := List.nodup_append.mp once
    exact ⟨⟨isKnown, once⟩, last List.mem_cons_self,
      fun there => apart shard there shard List.mem_cons_self rfl⟩
  · rintro ⟨⟨isKnown, once⟩, last, new⟩
    refine ⟨List.append_subset.mpr ⟨isKnown, List.cons_subset.mpr ⟨last, List.nil_subset _⟩⟩, ?_⟩
    refine List.nodup_append.mpr ⟨once, List.pairwise_singleton _ _, fun one there other isLast => ?_⟩
    obtain rfl := List.mem_singleton.mp isLast
    exact fun same => new (same ▸ there)

theorem Listable.of_append {known before after : List ShardId}
    (listable : Listable known (before ++ after)) : Listable known before :=
  ⟨(List.append_subset.mp listable.known).1, (List.nodup_append.mp listable.once).1⟩

/-- Of the known shards nothing matters but which they are. -/
theorem Listable.mono {known other listed : List ShardId} (within : known ⊆ other)
    (listable : Listable known listed) : Listable other listed :=
  ⟨fun _ inside => within (listable.known inside), listable.once⟩

end Layout

namespace TableLayout

/-- The bounds of a declared table, if its rule has any: one for each shard, and each less than those
behind it. -/
def Bounded (declared : TableLayout) : Prop :=
  ∀ column bounds, declared.rule = some ⟨column, .range bounds⟩ →
    bounds.length = declared.shards.length ∧ bounds.Pairwise (· < ·)

/-- A declaration that makes a table among known shards. -/
structure Consistent (known : List ShardId) (declared : TableLayout) : Prop where
  nonempty : declared.shards ≠ []
  listable : Layout.Listable known declared.shards
  bounded : declared.Bounded

/-- **What is wrong first with a declared table**, its name aside. -/
inductive Fault (schema : String) (known : List ShardId) (declared : TableLayout) : LayoutError → Prop
  | noShards (none : declared.shards = []) : Fault schema known declared (.tableWithoutShards declared.name)
  | unknown {before after : List ShardId} {shard : ShardId}
      (split : declared.shards = before ++ shard :: after) (listable : Layout.Listable known before)
      (unknown : shard ∉ known) : Fault schema known declared (.unknownShard schema declared.name shard)
  | twice {before after : List ShardId} {shard : ShardId}
      (split : declared.shards = before ++ shard :: after) (listable : Layout.Listable known before)
      (again : shard ∈ before) : Fault schema known declared (.duplicateShard declared.name shard)
  | count {column : String} {bounds : List Int64} (nonempty : declared.shards ≠ [])
      (listable : Layout.Listable known declared.shards)
      (rule : declared.rule = some ⟨column, .range bounds⟩)
      (other : bounds.length ≠ declared.shards.length) :
      Fault schema known declared (.boundCount declared.name bounds.length declared.shards.length)
  | unordered {column : String} {bounds : List Int64} (nonempty : declared.shards ≠ [])
      (listable : Layout.Listable known declared.shards)
      (rule : declared.rule = some ⟨column, .range bounds⟩)
      (same : bounds.length = declared.shards.length) (unordered : ¬ bounds.Pairwise (· < ·)) :
      Fault schema known declared (.unorderedBounds declared.name)

section

variable {known other : List ShardId} {declared : TableLayout}

theorem Consistent.mono (within : known ⊆ other) (consistent : declared.Consistent known) :
    declared.Consistent other :=
  ⟨consistent.nonempty, consistent.listable.mono within, consistent.bounded⟩

theorem Fault.congr {schema : String} {cause : LayoutError} (same : ∀ shard, shard ∈ known ↔ shard ∈ other)
    (fault : declared.Fault schema known cause) : declared.Fault schema other cause := by
  have within : known ⊆ other := fun shard => (same shard).mp
  cases fault with
  | noShards none => exact .noShards none
  | unknown split listable unknown =>
    exact .unknown split (listable.mono within) (mt (same _).mpr unknown)
  | twice split listable again => exact .twice split (listable.mono within) again
  | count nonempty listable rule other => exact .count nonempty (listable.mono within) rule other
  | unordered nonempty listable rule same unordered =>
    exact .unordered nonempty (listable.mono within) rule same unordered

end

end TableLayout

/-- The placement of a rule over the shards of a table, which were listed in some order: bounds belong to
shards in that order. -/
def Spread.over (shards listed : List ShardId) : Spread → Placement
  | .hash => .hash shards
  | .range bounds => .range (bounds.zip listed)

/-- **A table is what was declared**: its shards are those that were listed, in ascending order. -/
structure Table.IsOf (declared : TableLayout) (table : Table) : Prop where
  name : table.name = declared.name
  kind : table.kind = declared.kind
  shards : ∀ shard, shard ∈ table.shards ↔ shard ∈ declared.shards
  ascending : table.shards.Pairwise (· < ·)
  rule : table.rule = declared.rule.map fun rule =>
    ⟨Text.upper rule.column, rule.spread.over table.shards declared.shards⟩

/-! ### Shards -/

namespace Table

section Shards

variable {schema table : String} {known seen before listed : List ShardId}

theorem addShards_cons (shard : ShardId) : addShards schema table known seen (shard :: listed) =
    if shard ∉ known then .error (.unknownShard schema table shard)
    else if shard ∈ seen then .error (.duplicateShard table shard)
    else addShards schema table known (Ascending.insert shard seen) listed := by
  simp [addShards]

theorem addShards_append (others : List ShardId) :
    addShards schema table known seen (listed ++ others) =
      addShards schema table known seen listed >>= fun shards =>
        addShards schema table known shards others := by
  induction listed generalizing seen with
  | nil => rfl
  | cons shard rest ih =>
    rw [List.cons_append, addShards_cons, addShards_cons]
    split
    · rfl
    · split
      · rfl
      · exact ih

/-- Shards that are added are added to those before them. -/
theorem mem_addShards {shards : List ShardId}
    (added : addShards schema table known seen listed = .ok shards) {shard : ShardId} :
    shard ∈ shards ↔ shard ∈ seen ∨ shard ∈ listed := by
  induction listed generalizing seen with
  | nil =>
    obtain rfl : seen = shards := Except.ok.inj added
    rw [List.mem_nil_iff, or_false]
  | cons first rest ih =>
    rw [addShards_cons] at added
    split at added
    · cases added
    · split at added
      · cases added
      · rw [ih added, Ascending.mem_insert, List.mem_cons]
        tauto

theorem addShards_ascending {shards : List ShardId}
    (added : addShards schema table known seen listed = .ok shards)
    (ascending : seen.Pairwise fun before after => compare before after = .lt) :
    shards.Pairwise fun before after => compare before after = .lt := by
  induction listed generalizing seen with
  | nil =>
    obtain rfl : seen = shards := Except.ok.inj added
    exact ascending
  | cons first rest ih =>
    rw [addShards_cons] at added
    split at added
    · cases added
    · split at added
      · cases added
      · exact ih added (Ascending.insert_ascending first ascending)

/-- The shards of a table are the set of those that it lists. -/
theorem addShards_eq {shards : List ShardId}
    (added : addShards schema table known [] listed = .ok shards) :
    shards = Ascending.ofList listed := by
  refine Ascending.eq_of_mem_iff (addShards_ascending added List.Pairwise.nil)
    (Ascending.ofList_ascending _) fun shard => ?_
  rw [mem_addShards added, Ascending.mem_ofList, List.mem_nil_iff, false_or]

/-- What has been added stands for what was listed so far: one more shard stands for one more. -/
theorem mem_insert_iff (same : ∀ shard, shard ∈ seen ↔ shard ∈ before) (first shard : ShardId) :
    shard ∈ Ascending.insert first seen ↔ shard ∈ before ++ [first] := by
  rw [Ascending.mem_insert, List.mem_append, List.mem_singleton, same, or_comm]

/-- **Shards are added exactly if they may all be listed.** -/
theorem exists_addShards_iff (same : ∀ shard, shard ∈ seen ↔ shard ∈ before)
    (listable : Layout.Listable known before) :
    (∃ shards, addShards schema table known seen listed = .ok shards) ↔
      Layout.Listable known (before ++ listed) := by
  induction listed generalizing seen before with
  | nil =>
    rw [List.append_nil]
    exact ⟨fun _ => listable, fun _ => ⟨seen, rfl⟩⟩
  | cons first rest ih =>
    rw [addShards_cons, List.append_cons]
    split
    · next unknown =>
      exact ⟨nofun, fun whole => absurd (Layout.listable_concat.mp whole.of_append).2.1 unknown⟩
    · next isKnown =>
      split
      · next again =>
        exact ⟨nofun, fun whole =>
          absurd ((same first).mp again) (Layout.listable_concat.mp whole.of_append).2.2⟩
      · next new =>
        exact ih (mem_insert_iff same first)
          (Layout.listable_concat.mpr ⟨listable, not_not.mp isKnown, mt (same first).mpr new⟩)

/-- **Shards are refused at the first** that is unknown, or was listed before. -/
theorem addShards_fault {cause : LayoutError} (same : ∀ shard, shard ∈ seen ↔ shard ∈ before)
    (listable : Layout.Listable known before)
    (refused : addShards schema table known seen listed = .error cause) :
    ∃ earlier shard later, before ++ listed = earlier ++ shard :: later ∧
      Layout.Listable known earlier ∧
        (shard ∉ known ∧ cause = .unknownShard schema table shard ∨
          shard ∈ earlier ∧ cause = .duplicateShard table shard) := by
  induction listed generalizing seen before with
  | nil => cases refused
  | cons first rest ih =>
    rw [addShards_cons] at refused
    split at refused
    · next unknown =>
      exact ⟨before, first, rest, rfl, listable, Or.inl ⟨unknown, (Except.error.inj refused).symm⟩⟩
    · next isKnown =>
      split at refused
      · next again =>
        exact ⟨before, first, rest, rfl, listable,
          Or.inr ⟨(same first).mp again, (Except.error.inj refused).symm⟩⟩
      · next new =>
        rw [List.append_cons]
        exact ih (mem_insert_iff same first)
          (Layout.listable_concat.mpr ⟨listable, not_not.mp isKnown, mt (same first).mpr new⟩) refused

end Shards

/-! ### Bounds -/

theorem areIncreasing_iff (bounds : List Int64) :
    areIncreasing bounds = true ↔ bounds.Pairwise (· < ·) := by
  fun_induction areIncreasing bounds with
  | case1 lower upper rest ih =>
    rw [Bool.and_eq_true, decide_eq_true_eq, ih, List.pairwise_cons (a := lower)]
    refine and_congr_left fun increasing => ⟨fun less other inside => ?_, fun all => ?_⟩
    · rcases List.mem_cons.mp inside with rfl | inside
      · exact less
      · exact Int64.lt_trans less ((List.pairwise_cons.mp increasing).1 other inside)
    · exact all upper List.mem_cons_self
  | case2 bounds short =>
    match bounds, short with
    | [], _ => simp
    | [bound], _ => simp
    | lower :: upper :: rest, short => exact absurd rfl (short lower upper rest)

variable {schema : String} {known : List ShardId} {declared : TableLayout} {cause : LayoutError}

/-- What the rule of a declaration comes to: bounds are counted, and then compared. -/
theorem ruleOfLayout_range {column : String} {bounds : List Int64}
    (isRange : declared.rule = some ⟨column, .range bounds⟩) : ruleOfLayout declared =
      if bounds.length ≠ declared.shards.length then
        .error (.boundCount declared.name bounds.length declared.shards.length)
      else if ¬ bounds.Pairwise (· < ·) then .error (.unorderedBounds declared.name)
      else .ok (some ⟨Text.upper column, .range (bounds.zip declared.shards)⟩) := by
  have ordered : (!areIncreasing bounds) = true ↔ ¬ bounds.Pairwise (· < ·) := by
    rw [Bool.not_eq_true', ← Bool.not_eq_true, areIncreasing_iff]
  simp only [ruleOfLayout, isRange, placement, ordered]
  split
  · rfl
  · split <;> rfl

/-- **A declared rule is made exactly if its bounds are in order.** -/
theorem ruleOfLayout_eq_ok {rule : Option Rule} : ruleOfLayout declared = .ok rule ↔
    declared.Bounded ∧ rule = declared.rule.map fun rule =>
      ⟨Text.upper rule.column, rule.spread.over (Ascending.ofList declared.shards) declared.shards⟩ := by
  unfold TableLayout.Bounded
  rcases isRule : declared.rule with _ | ⟨column, _ | bounds⟩
  · rw [ruleOfLayout, isRule]
    simp [eq_comm]
  · rw [ruleOfLayout, isRule]
    simp [eq_comm, placement, Placement.ofShards, Spread.over, Except.map]
  · rw [ruleOfLayout_range isRule]
    by_cases counted : bounds.length = declared.shards.length
    · by_cases ordered : bounds.Pairwise (· < ·)
      · simp [counted, ordered, eq_comm, Spread.over]
      · simp [counted, ordered]
    · simp [counted]

/-! ### Tables -/

/-- The table of a declaration that lists shards: they are added, and then the rule is made. -/
theorem ofLayout_of_nonempty (nonempty : declared.shards ≠ []) : ofLayout schema known declared =
    addShards schema declared.name known [] declared.shards >>= fun shards =>
      (ruleOfLayout declared).map fun rule => ⟨declared.name, declared.kind, shards, rule⟩ := by
  unfold ofLayout
  rw [if_neg (by rwa [List.isEmpty_iff])]
  rfl

/-- Where all shards may be listed, only the rule is left to be looked at. -/
theorem ofLayout_of_listable (nonempty : declared.shards ≠ [])
    (listable : Layout.Listable known declared.shards) : ofLayout schema known declared =
      (ruleOfLayout declared).map fun rule =>
        ⟨declared.name, declared.kind, Ascending.ofList declared.shards, rule⟩ := by
  have whole : Layout.Listable known ([] ++ declared.shards) := listable
  obtain ⟨shards, added⟩ :=
    (exists_addShards_iff (fun _ => Iff.rfl) (Layout.listable_nil known)).mpr whole
  rw [ofLayout_of_nonempty nonempty, added, ← addShards_eq added]
  rfl

/-- **A table that is made is what was declared**, and its declaration is consistent. -/
theorem ofLayout_eq_ok {table : Table} (made : ofLayout schema known declared = .ok table) :
    declared.Consistent known ∧ table.IsOf declared := by
  by_cases nonempty : declared.shards = []
  · rw [ofLayout, if_pos (List.isEmpty_iff.mpr nonempty)] at made
    cases made
  · rw [ofLayout_of_nonempty nonempty] at made
    obtain ⟨shards, added, made⟩ := bind_eq_ok.mp made
    obtain ⟨rule, ruled, rfl⟩ := map_eq_ok.mp made
    have listable :=
      (exists_addShards_iff (fun _ => Iff.rfl) (Layout.listable_nil known)).mp ⟨shards, added⟩
    obtain ⟨bounded, isRule⟩ := ruleOfLayout_eq_ok.mp ruled
    obtain rfl := addShards_eq added
    exact ⟨⟨nonempty, listable, bounded⟩, rfl, rfl, fun _ => Ascending.mem_ofList,
      (Ascending.ofList_ascending _).imp Std.compare_eq_lt.mp, isRule⟩

/-- **A declaration makes a table exactly if it is consistent.** -/
theorem exists_ofLayout_iff :
    (∃ table, ofLayout schema known declared = .ok table) ↔ declared.Consistent known := by
  refine ⟨fun ⟨_, made⟩ => (ofLayout_eq_ok made).1, fun ⟨nonempty, listable, bounded⟩ => ?_⟩
  rw [ofLayout_of_listable nonempty listable, ruleOfLayout_eq_ok.mpr ⟨bounded, rfl⟩]
  exact ⟨_, rfl⟩

/-- The shards before some shard are added, whatever they come to, and that one is next. -/
theorem ofLayout_of_split {before after : List ShardId} {shard : ShardId}
    (split : declared.shards = before ++ shard :: after) (listable : Layout.Listable known before) :
    ∃ shards, (∀ other, other ∈ shards ↔ other ∈ before) ∧ ofLayout schema known declared =
      addShards schema declared.name known shards (shard :: after) >>= fun shards =>
        (ruleOfLayout declared).map fun rule => ⟨declared.name, declared.kind, shards, rule⟩ := by
  have whole : Layout.Listable known ([] ++ before) := listable
  obtain ⟨shards, added⟩ : ∃ shards, addShards schema declared.name known [] before = .ok shards :=
    (exists_addShards_iff (fun _ => Iff.rfl) (Layout.listable_nil known)).mpr whole
  refine ⟨shards, fun other => ?_, ?_⟩
  · rw [mem_addShards added, List.mem_nil_iff, false_or]
  · rw [ofLayout_of_nonempty (by simp [split]), split, addShards_append, added]
    rfl

/-- A table that is refused has a fault. -/
theorem fault_of_ofLayout (refused : ofLayout schema known declared = .error cause) :
    declared.Fault schema known cause := by
  by_cases nonempty : declared.shards = []
  · rw [ofLayout, if_pos (List.isEmpty_iff.mpr nonempty)] at refused
    obtain rfl := Except.error.inj refused
    exact .noShards nonempty
  · cases added : addShards schema declared.name known [] declared.shards with
    | error other =>
      rw [ofLayout_of_nonempty nonempty, added] at refused
      obtain rfl : other = cause := Except.error.inj refused
      obtain ⟨before, shard, after, split, listable, fault⟩ :=
        addShards_fault (fun _ => Iff.rfl) (Layout.listable_nil known) added
      rcases fault with ⟨unknown, rfl⟩ | ⟨again, rfl⟩
      · exact .unknown split listable unknown
      · exact .twice split listable again
    | ok shards =>
      have listable : Layout.Listable known declared.shards :=
        (exists_addShards_iff (fun _ => Iff.rfl) (Layout.listable_nil known)).mp ⟨shards, added⟩
      rw [ofLayout_of_listable nonempty listable, map_eq_error] at refused
      rcases isRule : declared.rule with _ | ⟨column, _ | bounds⟩
      · rw [ruleOfLayout, isRule] at refused
        cases refused
      · rw [ruleOfLayout, isRule] at refused
        cases refused
      · rw [ruleOfLayout_range isRule] at refused
        split at refused
        · next other =>
          obtain rfl := Except.error.inj refused
          exact .count nonempty listable isRule other
        · next same =>
          split at refused
          · next unordered =>
            obtain rfl := Except.error.inj refused
            exact .unordered nonempty listable isRule (not_not.mp same) unordered
          · cases refused

/-- **A table is refused exactly for its first fault.** -/
theorem ofLayout_eq_error :
    ofLayout schema known declared = .error cause ↔ declared.Fault schema known cause := by
  refine ⟨fault_of_ofLayout, fun fault => ?_⟩
  cases fault with
  | noShards none => rw [ofLayout, if_pos (List.isEmpty_iff.mpr none)]
  | unknown split listable unknown =>
    obtain ⟨shards, -, whole⟩ := ofLayout_of_split split listable
    rw [whole, addShards_cons, if_pos unknown]
    rfl
  | @twice before after shard split listable again =>
    obtain ⟨shards, same, whole⟩ := ofLayout_of_split split listable
    rw [whole, addShards_cons, if_neg (not_not.mpr (listable.known again)),
      if_pos ((same shard).mpr again)]
    rfl
  | count nonempty listable rule other =>
    rw [ofLayout_of_listable nonempty listable, ruleOfLayout_range rule, if_pos other]
    rfl
  | unordered nonempty listable rule same unordered =>
    rw [ofLayout_of_listable nonempty listable, ruleOfLayout_range rule, if_neg (not_not.mpr same),
      if_pos unordered]
    rfl

end Table

end ScatterGather
