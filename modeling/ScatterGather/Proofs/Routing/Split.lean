/-
**Insertions split by shard.**

The rows that an insertion writes out are grouped by the shards that their keys are placed on, and every
shard is sent the insertion of its own rows. Losing a row or sending one twice would go unnoticed, so all
of it is said of the places of the rows:

* `Grouped`: **the invariant of the grouping** — the groups hold every place once, in the order of the
  rows, and each under the shard of its row; shards ascend, and no group is empty;
* `insertKey?`, `PlacedOn`: the key of a row, and the one shard that it is placed on;
* `Share`, `Parted`: what a shard gets of an insertion; shares that **part its rows**;
* `split_groups`, `split_eq`: the outlets of an insertion are those of its groups;
* `insertion_is_split` — **every insertion that is routed** is split so, and one with a row that has no
  key, or is not placed on one shard, is refused as a whole.
-/
import Mathlib.Data.List.Induction
import ScatterGather.Proofs.Routing.Coverage
import ScatterGather.Proofs.Sql.Listed

namespace ScatterGather

open Sql

/-! ### Groups -/

namespace Routing

/-- The places in all groups. -/
def grouped (groups : List (ShardId × List Nat)) : List Nat :=
  groups.flatMap Prod.snd

/-- **What grouping makes of placed rows.** -/
structure Grouped (rows : List (ShardId × Nat)) (groups : List (ShardId × List Nat)) : Prop where
  once : (grouped groups).Perm (rows.map Prod.snd)
  apart : groups.Pairwise fun before after => compare before.1 after.1 = .lt
  filled : ∀ group ∈ groups, group.2 ≠ []
  ordered : ∀ group ∈ groups, group.2.Sublist (rows.map Prod.snd)
  own : ∀ group ∈ groups, ∀ place ∈ group.2, (group.1, place) ∈ rows

theorem grouped_put (shard : ShardId) (place : Nat) (groups : List (ShardId × List Nat)) :
    (grouped (Ascending.put shard (fun places => places.getD [] ++ [place]) groups)).Perm
      (grouped groups ++ [place]) := by
  induction groups with
  | nil => exact List.Perm.refl _
  | cons first rest ih =>
    obtain ⟨other, places⟩ := first
    rw [Ascending.put]
    split
    · exact (List.perm_append_singleton place _).symm
    · show ((places ++ [place]) ++ grouped rest).Perm (places ++ grouped rest ++ [place])
      rw [List.append_assoc, List.append_assoc]
      exact (List.perm_append_comm).append_left places
    · show (places ++ grouped _).Perm (places ++ grouped rest ++ [place])
      rw [List.append_assoc]
      exact ih.append_left places

theorem Grouped.concat {rows : List (ShardId × Nat)} {groups : List (ShardId × List Nat)}
    (before : Grouped rows groups) (row : ShardId × Nat) :
    Grouped (rows ++ [row])
      (Ascending.put row.1 (fun places => places.getD [] ++ [row.2]) groups) := by
  obtain ⟨shard, place⟩ := row
  have last : (shard, place) ∈ rows ++ [(shard, place)] :=
    List.mem_append_right _ List.mem_cons_self
  have earlier : ∀ {row}, row ∈ rows → row ∈ rows ++ [(shard, place)] := List.mem_append_left _
  have places : (rows ++ [(shard, place)]).map Prod.snd = rows.map Prod.snd ++ [place] :=
    List.map_append
  refine ⟨?_, Ascending.put_ascending shard _ before.apart, ?_, ?_, ?_⟩
  · rw [places]
    exact (grouped_put shard place groups).trans (before.once.append_right [place])
  all_goals
    intro group inside
    rcases Ascending.mem_put inside with held | rfl | ⟨old, held, rfl⟩
  · exact before.filled group held
  · exact List.cons_ne_nil _ _
  · exact List.append_ne_nil_of_right_ne_nil _ (List.cons_ne_nil _ _)
  · rw [places]
    exact (before.ordered group held).trans (List.sublist_append_left _ _)
  · rw [places]
    exact List.sublist_append_right _ _
  · rw [places]
    exact (before.ordered _ held).append (List.Sublist.refl [place])
  · exact fun own member => earlier (before.own group held own member)
  · intro own member
    obtain rfl := List.mem_singleton.mp member
    exact last
  · intro own member
    rcases List.mem_append.mp member with member | member
    · exact earlier (before.own _ held own member)
    · obtain rfl := List.mem_singleton.mp member
      exact last

/-- **Grouping** loses no row, makes up none and keeps their order. -/
theorem groupRows_grouped (rows : List (ShardId × Nat)) : Grouped rows (groupRows rows) := by
  -- Rows are grouped from the left, so the last of them joins the groups of all others.
  induction rows using List.reverseRecOn with
  | nil =>
    exact ⟨List.Perm.refl _, List.Pairwise.nil, fun _ inside => absurd inside List.not_mem_nil,
      fun _ inside => absurd inside List.not_mem_nil, fun _ inside => absurd inside List.not_mem_nil⟩
  | append_singleton before row ih =>
    have step : groupRows (before ++ [row]) =
        Ascending.put row.1 (fun places => places.getD [] ++ [row.2]) (groupRows before) := by
      unfold groupRows
      rw [List.foldl_append]
      rfl
    rw [step]
    exact ih.concat row

end Routing

/-! ### Keys and shares -/

/-- The insertion that a statement is. -/
def Sql.Statement.insert? : Statement → Option Sql.Insert
  | .insert whole => some whole
  | _ => none

theorem Sql.Statement.eq_of_insert? {statement : Statement} {whole : Sql.Insert}
    (isInsert : statement.insert? = some whole) : statement = .insert whole := by
  cases statement with
  | insert own => exact congrArg Statement.insert (Option.some.inj isInsert)
  | _ => cases isInsert

/-- Rows that are written out are the source of their insertion. -/
theorem Sql.Insert.source_of_rows? {insert : Sql.Insert} {rows : List (List Expr)}
    (written : insert.rows? = some rows) : ∃ preamble explicitRow tail,
      insert.source = some ⟨preamble, .values explicitRow rows, tail⟩ := by
  unfold Sql.Insert.rows? at written
  split at written
  · next preamble explicitRow found tail source =>
    obtain rfl := Option.some.inj written
    exact ⟨preamble, explicitRow, tail, source⟩
  · cases written

/-- The key of a row of an insertion: the literal in the first column that is listed under a name. -/
def insertKey? (column : String) (insert : Insert) (row : List Expr) : Option KeyValue :=
  (insert.columns.findIdx? fun listed => Text.sameIgnoringCase listed.name column).bind
    fun position => row[position]?.bind keyLiteral?

/-- A row is placed on one shard, by its key alone. -/
def PlacedOn (rule : Rule) (insert : Insert) (row : List Expr) (shard : ShardId) : Prop :=
  ∃ key, insertKey? rule.column insert row = some key ∧ rule.placement.placeAll [key] = .ok [shard]

/-- What a shard gets of the rows of an insertion: their places, and the rows. -/
structure Share where
  shard : ShardId
  places : List Nat
  rows : List (List Expr)

/-- **Shares that part rows**: every place is in one share and once, and no two shares are on the same
shard; each share has the rows at its places, in the order of the rows and at least one; and each of its
rows belongs on its shard. -/
structure Parted (rows : List (List Expr)) (belongs : List Expr → ShardId → Prop)
    (shares : List Share) : Prop where
  once : (shares.flatMap Share.places).Perm (List.range rows.length)
  apart : (shares.map Share.shard).Nodup
  filled : ∀ share ∈ shares, share.rows ≠ []
  ordered : ∀ share ∈ shares, share.places.Pairwise (· < ·)
  taken : ∀ share ∈ shares,
    List.Forall₂ (fun place row => rows[place]? = some row) share.places share.rows
  own : ∀ share ∈ shares, ∀ row ∈ share.rows, belongs row share.shard

/-- Every row is in a share, and so it belongs on a shard. -/
theorem Parted.belongs {rows : List (List Expr)} {belongs : List Expr → ShardId → Prop}
    {shares : List Share} (parted : Parted rows belongs shares) {row : List Expr}
    (inside : row ∈ rows) : ∃ shard, belongs row shard := by
  obtain ⟨place, fits, rfl⟩ := List.mem_iff_getElem.mp inside
  obtain ⟨share, isShare, isPlace⟩ :=
    List.mem_flatMap.mp (parted.once.mem_iff.mpr (List.mem_range.mpr fits))
  obtain ⟨row, isRow, same⟩ := exists_of_mem_members (parted.taken share isShare) isPlace
  rw [List.getElem?_eq_getElem fits] at same
  obtain rfl := Option.some.inj same
  exact ⟨share.shard, parted.own share isShare _ isRow⟩

/-- **Rows that all belong on one shard** are in a single share. -/
theorem Parted.single {rows : List (List Expr)} {belongs : List Expr → ShardId → Prop}
    {shares : List Share} (parted : Parted rows belongs shares) (someRow : rows ≠ [])
    (unique : ∀ row, ∀ first second, belongs row first → belongs row second → first = second)
    {shard : ShardId} (all : ∀ row ∈ rows, belongs row shard) :
    ∃ share, shares = [share] ∧ share.shard = shard := by
  have same : ∀ share ∈ shares, share.shard = shard := fun share inside => by
    obtain ⟨row, rest, isRow⟩ := List.exists_cons_of_ne_nil (parted.filled share inside)
    have member : row ∈ share.rows := isRow ▸ List.mem_cons_self
    obtain ⟨place, -, here⟩ := exists_of_mem_results (parted.taken share inside) member
    exact unique row _ _ (parted.own share inside row member) (all row (List.mem_of_getElem? here))
  match shares, parted.apart, same with
  | [], _, _ =>
    have none := parted.once.length_eq
    exact absurd (List.length_eq_zero_iff.mp (List.length_range.symm.trans none.symm)) someRow
  | [share], _, same => exact ⟨share, rfl, same share List.mem_cons_self⟩
  | first :: second :: rest, apart, same =>
    have other := (List.pairwise_cons.mp apart).1 second.shard (List.mem_cons_self)
    refine absurd ?_ other
    rw [same first List.mem_cons_self, same second (List.mem_cons_of_mem _ List.mem_cons_self)]

def Share.ofGroup (rows : List (List Expr)) (group : ShardId × List Nat) : Share :=
  ⟨group.1, group.2, group.2.filterMap fun place => rows[place]?⟩

/-- **Groups of placed rows** are shares that part the rows. -/
theorem parted_of_grouped {rows : List (List Expr)} {belongs : List Expr → ShardId → Prop}
    {placed : List (ShardId × Nat)} (places : placed.map Prod.snd = List.range rows.length)
    (own : ∀ placing ∈ placed, ∀ row, rows[placing.2]? = some row → belongs row placing.1)
    {groups : List (ShardId × List Nat)} (grouped : Routing.Grouped placed groups) :
    Parted rows belongs (groups.map (Share.ofGroup rows)) := by
  have each : ∀ {holds : Share → Prop}, (∀ group ∈ groups, holds (Share.ofGroup rows group)) →
      ∀ share ∈ groups.map (Share.ofGroup rows), holds share := fun all share inside => by
    obtain ⟨group, isGroup, rfl⟩ := List.mem_map.mp inside
    exact all group isGroup
  have taken : ∀ group ∈ groups, List.Forall₂ (fun place row => rows[place]? = some row) group.2
      (Share.ofGroup rows group).rows := fun group inside => by
    refine forall₂_filterMap fun place isPlace => ?_
    have fits := (grouped.ordered group inside).subset isPlace
    rw [places, List.mem_range] at fits
    rw [List.getElem?_eq_getElem fits]
    rfl
  refine ⟨?_, ?_, each fun group inside => ?_, each fun group inside => ?_, each taken,
    each fun group inside row isRow => ?_⟩
  · rw [List.flatMap_map, ← places]
    exact grouped.once
  · rw [List.map_map, List.nodup_iff_pairwise_ne, List.pairwise_map]
    refine grouped.apart.imp fun {before after} less same => ?_
    rw [show before.1 = after.1 from same, Std.ReflOrd.compare_self] at less
    cases less
  · intro none
    have length := (taken group inside).length_eq
    rw [none] at length
    exact grouped.filled group inside (List.length_eq_zero_iff.mp length)
  · have ascending := List.pairwise_lt_range (n := rows.length)
    rw [← places] at ascending
    exact ascending.sublist (grouped.ordered group inside)
  · obtain ⟨place, isPlace, same⟩ := exists_of_mem_results (taken group inside) isRow
    exact own (group.1, place) (grouped.own group inside place isPlace) row same

/-! ### What is found in an insertion -/

namespace Facts

/-- Every row of an insertion that is taken apart has a key, and is known by its place. -/
theorem keyedRows_eq_ok {column : String} {insert : Insert} {rows : List (List Expr)}
    {keyed : List KeyedRow} (listed : insert.rows? = some rows)
    (whole : keyedRows column insert = .ok keyed) :
    List.Forall₂ (fun indexed row => row.index = indexed.1 ∧
        insertKey? column insert indexed.2 = some row.key)
      ((List.range rows.length).zip rows) keyed := by
  unfold keyedRows at whole
  unfold insertKey?
  cases found : insert.columns.findIdx? fun listed => Text.sameIgnoringCase listed.name column with
  | none =>
    rw [found] at whole
    cases whole
  | some position =>
    simp only [found, listed] at whole
    refine (mapM_eq_ok.mp whole).imp fun indexed row keyed => ?_
    unfold rowKey at keyed
    rw [Option.bind_some]
    cases key : indexed.2[position]?.bind keyLiteral? with
    | none =>
      rw [key] at keyed
      cases keyed
    | some value =>
      rw [key] at keyed
      obtain rfl := Except.ok.inj keyed
      exact ⟨rfl, rfl⟩

/-- The facts of an insertion into a table with a rule: its rows with their keys, and no more. -/
structure Inserts (schema : Schema) (insert : Insert) (table : Table) (rule : Rule) (facts : Facts) :
    Prop where
  statement : facts.statement = .insert insert
  table : facts.table.bind schema.table? = some table
  keyed : keyedRows rule.column insert = .ok facts.rows
  values : facts.values = Ascending.ofList (facts.rows.map KeyedRow.key)
  limit : facts.limit = none
  orderBy : facts.orderBy = []

theorem ofText_insert {schema : Schema} {sql : String} {insert : Insert} {table : Table}
    {rule : Rule} {facts : Facts} (parsed : Statement.parse sql = .ok (.insert insert))
    (found : schema.table? (pathName insert.table) = some table) (ruled : table.rule = some rule)
    (known : ofText schema sql = .ok facts) : Inserts schema insert table rule facts := by
  have column : column? schema (.insert insert) = some rule.column :=
    column?_of_table? found ruled
  unfold ofText at known
  rw [parsed] at known
  simp only [ofStatement, column] at known
  obtain ⟨keyed, whole, rfl⟩ := map_eq_ok.mp known
  exact ⟨rfl, found, whole, rfl, rfl, rfl⟩

end Facts

namespace Routing

/-- A row that is placed is placed on one shard by its key. -/
theorem placedRow_eq_ok {table : Table} {row : KeyedRow} {placing : ShardId × Nat}
    (whole : placedRow table row = .ok placing) :
    placing.2 = row.index ∧ placed table [row.key] = .ok [placing.1] := by
  unfold placedRow at whole
  obtain ⟨shards, all, given⟩ := bind_eq_ok.mp whole
  split at given
  · obtain rfl := Except.ok.inj given
    exact ⟨rfl, all⟩
  · cases given

/-- Rows that are taken apart and placed are placed one for one. -/
theorem placed_rows {table : Table} {rule : Rule} {insert : Insert} {rows : List (List Expr)}
    {keyed : List KeyedRow} {placed : List (ShardId × Nat)} (ruled : table.rule = some rule)
    (apart : List.Forall₂ (fun indexed row => row.index = indexed.1 ∧
        insertKey? rule.column insert indexed.2 = some row.key)
      ((List.range rows.length).zip rows) keyed)
    (whole : keyed.mapM (placedRow table) = .ok placed) :
    placed.map Prod.snd = List.range rows.length ∧
      ∀ placing ∈ placed, ∀ row, rows[placing.2]? = some row → PlacedOn rule insert row placing.1 := by
  have both : List.Forall₂ (fun indexed placing => indexed.1 = placing.2 ∧
      PlacedOn rule insert indexed.2 placing.1) ((List.range rows.length).zip rows) placed := by
    refine (forall₂_through apart (mapM_eq_ok.mp whole)).imp ?_
    rintro indexed placing ⟨row, ⟨index, key⟩, given⟩
    obtain ⟨same, all⟩ := placedRow_eq_ok given
    exact ⟨(same.trans index).symm, row.key, key, placeAll_of_placed ruled all⟩
  constructor
  · have same : List.Forall₂ (· = ·) (((List.range rows.length).zip rows).map Prod.fst)
        (placed.map Prod.snd) := by
      rw [List.forall₂_map_left_iff, List.forall₂_map_right_iff]
      exact both.imp fun _ _ given => given.1
    rw [List.forall₂_eq_eq_eq, List.map_fst_zip (Nat.le_of_eq List.length_range)] at same
    exact same.symm
  · intro placing inside row found
    obtain ⟨indexed, isIndexed, same, belongs⟩ := exists_of_mem_results both inside
    obtain ⟨place, fits, rfl⟩ := List.mem_iff_getElem.mp isIndexed
    have inRows : place < rows.length := by
      rw [List.length_zip, List.length_range] at fits
      omega
    rw [List.getElem_zip, List.getElem_range] at same belongs
    rw [← same, List.getElem?_eq_getElem inRows] at found
    exact Option.some.inj found ▸ belongs

end Routing

/-! ### The outlets of an insertion -/

/-- What a shard is sent of an insertion whose rows have some words around them. -/
def Share.outlet (insert : Insert) (preamble : Option String) (explicitRow : Bool) (tail : Tail)
    (share : Share) : Outlet :=
  ⟨share.shard,
    Insert.text { insert with source := some ⟨preamble, .values explicitRow share.rows, tail⟩ }⟩

namespace Routing

section Outlets

variable {table : Table} {rule : Rule} {facts : Facts} {insert : Insert} {sql : String}
  {preamble : Option String} {explicitRow : Bool} {rows : List (List Expr)} {tail : Tail}

theorem subset?_eq (isInsert : facts.statement = .insert insert)
    (source : insert.source = some ⟨preamble, .values explicitRow rows, tail⟩)
    (group : ShardId × List Nat) :
    facts.subset? group.2 = some
      ((Share.ofGroup rows group).outlet insert preamble explicitRow tail).sql := by
  simp only [Facts.subset?, isInsert, Insert.rows?, Insert.withRows, source]
  rfl

/-- An insertion that is split goes to the shards of its groups: as it is to a single one, and else to
each of them with its own rows. -/
theorem split_groups {outlets : List Outlet} (made : split table facts sql = .ok outlets) :
    ∃ placed, facts.rows.mapM (placedRow table) = .ok placed ∧
      ((groupRows placed).length = 1 → outlets = (groupRows placed).map fun group => ⟨group.1, sql⟩) ∧
      ((groupRows placed).length ≠ 1 → List.Forall₂ (fun group outlet =>
          outlet.shard = group.1 ∧ facts.subset? group.2 = some outlet.sql)
        (groupRows placed) outlets) := by
  unfold split at made
  obtain ⟨placed, whole, given⟩ := bind_eq_ok.mp made
  refine ⟨placed, whole, ?_⟩
  split at given
  · next shard places single =>
    rw [single]
    exact ⟨fun _ => (Except.ok.inj given).symm, fun several => absurd rfl several⟩
  · next several =>
    refine ⟨fun one => ?_, fun _ => (mapM_eq_ok.mp given).imp fun group outlet sent => ?_⟩
    · obtain ⟨group, single⟩ := List.length_eq_one_iff.mp one
      exact absurd single (several group.1 group.2)
    · obtain ⟨shard, places⟩ := group
      simp only at sent
      split at sent
      · next found =>
        obtain rfl := Except.ok.inj sent
        exact ⟨rfl, found⟩
      · cases sent

/-- **The outlets of an insertion** are those of its groups, unless there is only one. -/
theorem split_eq (isInsert : facts.statement = .insert insert)
    (source : insert.source = some ⟨preamble, .values explicitRow rows, tail⟩)
    {outlets : List Outlet} (made : split table facts sql = .ok outlets) :
    ∃ placed, facts.rows.mapM (placedRow table) = .ok placed ∧
      outlets =
        if (groupRows placed).length = 1 then
          (groupRows placed).map fun group => ⟨group.1, sql⟩
        else (groupRows placed).map fun group =>
          (Share.ofGroup rows group).outlet insert preamble explicitRow tail := by
  obtain ⟨placed, whole, alone, apart⟩ := split_groups made
  refine ⟨placed, whole, ?_⟩
  by_cases one : (groupRows placed).length = 1
  · rw [if_pos one, alone one]
  · rw [if_neg one, eq_comm, ← List.forall₂_eq_eq_eq, List.forall₂_map_left_iff]
    refine (apart one).imp fun group outlet sent => ?_
    obtain ⟨shard, subset⟩ := sent
    rw [subset?_eq isInsert source group] at subset
    exact (congrArg₂ Outlet.mk shard.symm (Option.some.inj subset) :)

end Outlets

theorem outlets_of_rows {schema : Schema} {insert : Insert} {table : Table} {rule : Rule}
    {facts : Facts} (inserts : facts.Inserts schema insert table rule) (many : facts.rows ≠ [])
    {sql : String} {outlets : List Outlet} (made : Routing.outlets table facts sql = .ok outlets) :
    split table facts sql = .ok outlets := by
  have values : facts.values ≠ [] := by
    obtain ⟨row, rest, rows⟩ := List.exists_cons_of_ne_nil many
    have bound : row.key ∈ facts.values := by
      rw [inserts.values, rows]
      exact Ascending.mem_ofList.mpr List.mem_cons_self
    exact List.ne_nil_of_mem bound
  rw [Routing.outlets, if_neg (by rwa [List.isEmpty_iff]), if_neg (by rwa [List.isEmpty_iff])] at made
  exact made

theorem plan_of_inserts {schema : Schema} {insert : Insert} {table : Table} {rule : Rule}
    {facts : Facts} (inserts : facts.Inserts schema insert table rule) (outlets : List Outlet) :
    plan facts outlets = { outlets } := by
  unfold plan
  rw [inserts.limit, inserts.orderBy]
  split <;> rfl

end Routing

section Insertion

variable {schema : Schema} {sql : String} {insert : Insert} {preamble : Option String}
  {explicitRow : Bool} {rows : List (List Expr)} {tail : Tail} {table : Table} {rule : Rule}

/-- What a routed insertion comes to, where it writes out at least one row. -/
theorem shares_of_route (parsed : Statement.parse sql = .ok (.insert insert))
    (source : insert.source = some ⟨preamble, .values explicitRow rows, tail⟩) (someRow : rows ≠ [])
    (found : schema.table? (pathName insert.table) = some table) (spread : table.isGlobal = false)
    (ruled : table.rule = some rule) {charset : String} {kind : Kind} {result : Route}
    (routed : route schema sql charset kind = .ok result) :
    ∃ shares, Parted rows (PlacedOn rule insert) shares ∧
      result = .all
        { outlets :=
            if shares.length = 1 then shares.map fun share => ⟨share.shard, sql⟩
            else shares.map (Share.outlet insert preamble explicitRow tail) } := by
  obtain ⟨facts, known, given⟩ := Routing.exists_of_route routed
  have inserts := Facts.ofText_insert parsed found ruled known
  have apart := Facts.keyedRows_eq_ok (by rw [Insert.rows?, source]) inserts.keyed
  rw [Routing.ofFacts_of_table inserts.table (by rw [spread, Bool.false_and])] at given
  obtain ⟨outlets, made, rfl⟩ := map_eq_ok.mp given
  have many : facts.rows ≠ [] := fun none => by
    have length := apart.length_eq
    rw [none, List.length_zip, List.length_range, Nat.min_self] at length
    exact someRow (List.length_eq_zero_iff.mp length)
  obtain ⟨placed, whole, outlets_eq⟩ :=
    Routing.split_eq inserts.statement source (Routing.outlets_of_rows inserts many made)
  obtain ⟨places, own⟩ := Routing.placed_rows ruled apart whole
  refine ⟨_, parted_of_grouped places own (Routing.groupRows_grouped placed), ?_⟩
  rw [Routing.plan_of_inserts inserts, outlets_eq, List.length_map, List.map_map, List.map_map]
  rfl

theorem PlacedOn.unique {row : List Expr} {first second : ShardId}
    (one : PlacedOn rule insert row first) (other : PlacedOn rule insert row second) :
    first = second := by
  obtain ⟨key, found, placed⟩ := one
  obtain ⟨same, again, also⟩ := other
  obtain rfl : key = same := Option.some.inj (found.symm.trans again)
  exact List.singleton_inj.mp (Except.ok.inj (placed.symm.trans also))

/-- **An insertion is split by shard.** Let an insertion write its rows out, and let its table be spread
by a rule. Wherever it is routed, its rows are parted: each is in the share of the one shard that its own
key is placed on, and each share is sent the insertion of its rows, with all else as it was; but a single
share is sent the text of the client. All rows on one shard make a single share. And an insertion with
a row that has no key, or whose key is not placed on one shard, goes nowhere. -/
theorem insertion_is_split (parsed : Statement.parse sql = .ok (.insert insert))
    (source : insert.source = some ⟨preamble, .values explicitRow rows, tail⟩)
    (found : schema.table? (pathName insert.table) = some table) (spread : table.isGlobal = false)
    (ruled : table.rule = some rule) (charset : String) (kind : Kind) :
    (∀ result, route schema sql charset kind = .ok result →
      ∃ shares, Parted rows (PlacedOn rule insert) shares ∧
        result = .all
          { outlets :=
              if shares.length = 1 then shares.map fun share => ⟨share.shard, sql⟩
              else shares.map (Share.outlet insert preamble explicitRow tail) } ∧
        ∀ shard, (∀ row ∈ rows, PlacedOn rule insert row shard) →
          result = .all { outlets := [⟨shard, sql⟩] }) ∧
      ((∃ row ∈ rows, ∀ shard, ¬ PlacedOn rule insert row shard) →
        ∃ error, route schema sql charset kind = .error error) := by
  have someRow := Statement.rows_of_parse parsed source
  constructor
  · intro result routed
    obtain ⟨shares, parted, same⟩ := shares_of_route parsed source someRow found spread ruled routed
    refine ⟨shares, parted, same, fun shard all => ?_⟩
    obtain ⟨share, rfl, rfl⟩ := parted.single someRow (fun _ _ _ => PlacedOn.unique) all
    exact same
  · rintro ⟨row, inside, unplaced⟩
    cases routed : route schema sql charset kind with
    | error error => exact ⟨error, rfl⟩
    | ok result =>
      obtain ⟨shares, parted, -⟩ := shares_of_route parsed source someRow found spread ruled routed
      obtain ⟨shard, placed⟩ := parted.belongs inside
      exact absurd placed (unplaced shard)

end Insertion

/-- Three users of the demo layout are inserted at once, and two shards get them. -/
theorem users_are_split :
    let sql := "INSERT INTO users (id, name) VALUES (1, 'a'), (2, 'b'), (7, 'c')"
    ∃ (schema : Schema) (insert : Sql.Insert) (rows : List (List Expr)) (rule : Rule)
      (shares : List Share) (plan : Plan),
      Schema.ofLayout (Layout.demo 4) = .ok schema ∧ Statement.parse sql = .ok (.insert insert) ∧
        insert.rows? = some rows ∧ rows.length = 3 ∧
          route schema sql "utf8mb4" .insert = .ok (.all plan) ∧
            Parted rows (PlacedOn rule insert) shares ∧ shares.length = 2 ∧
              plan.outlets.map Outlet.shard = shares.map Share.shard := by
  intro sql
  let schema := (Schema.ofLayout (Layout.demo 4)).toOption.getD default
  let statement := (Statement.parse sql).toOption.getD default
  let insert := statement.insert?.getD default
  let rows := insert.rows?.getD []
  let users := (schema.table? "users").getD default
  let result := (route schema sql "utf8mb4" .insert).toOption.getD (.anyOf [] sql)
  let plan := result.pick fun _ => 0
  have accepted : Schema.ofLayout (Layout.demo 4) = .ok schema :=
    eq_ok_of_isOk (by decide +kernel) default
  have spread : users.isGlobal = false := by decide +kernel
  have ruled : users.rule = some (users.rule.getD default) := by decide +kernel
  obtain ⟨isParsed, isInsert, found, hasRows, three⟩ : (Statement.parse sql).isOk = true ∧
      statement.insert?.isSome = true ∧ schema.table? (pathName insert.table) = some users ∧
        insert.rows?.isSome = true ∧ rows.length = 3 := by
    decide +kernel
  have parsed : Statement.parse sql = .ok (.insert insert) :=
    (eq_ok_of_isOk isParsed default).trans
      (congrArg Except.ok (Statement.eq_of_insert? (eq_some_of_isSome isInsert default)))
  have written : insert.rows? = some rows := eq_some_of_isSome hasRows []
  obtain ⟨isRouted, isPlan, several⟩ : (route schema sql "utf8mb4" .insert).isOk = true ∧
      result = .all plan ∧ plan.outlets.length = 2 := by
    decide +kernel
  have routed : route schema sql "utf8mb4" .insert = .ok (.all plan) :=
    (eq_ok_of_isOk isRouted (.anyOf [] sql)).trans (congrArg Except.ok isPlan)
  obtain ⟨preamble, explicitRow, tail, source⟩ := Insert.source_of_rows? written
  obtain ⟨shares, parted, same, -⟩ :=
    (insertion_is_split parsed source found spread ruled "utf8mb4" .insert).1 _ routed
  have outlets := congrArg Plan.outlets (Route.all.inj same)
  have two : shares.length = 2 := by
    have lengths := congrArg List.length outlets
    rw [several, apply_ite List.length, List.length_map, List.length_map, ite_self] at lengths
    exact lengths.symm
  refine ⟨schema, insert, rows, _, shares, plan, accepted, parsed, written, three, routed, parted,
    two, ?_⟩
  rw [outlets, if_neg (by rw [two]; decide), List.map_map]
  rfl

end ScatterGather
