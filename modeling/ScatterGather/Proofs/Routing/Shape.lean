/-
**The shape of a routed plan.**

Replies are counted by outlets, and outlets are told apart by their shards, so that what is said here of
plans is what all that comes after routing rests on:

* `Addressed`: **what the outlets of a statement about a table are** — at least one, on ascending shards
  of the table, on all of these where no key is bound, and with the text of the client unless the rows of
  an insertion are split;
* `groupRows_addressed`, `outlets_addressed`: it holds of split insertions, and of every other statement;
* `Plan.Shaped`: **the shape of a plan**; with `plan_alone`, `plan_windowed` it is that of the plan of
  such outlets (`plan_shaped`);
* `route_shaped`: every route comes to such a plan, **whichever shard is picked**;
* `plan_is_shaped` — so does all that is routed in a schema that was accepted.
-/
import ScatterGather.Proofs.Routing.Split
import ScatterGather.Proofs.Routing.Widened

namespace ScatterGather

open Sql

/-! ### Outlets -/

namespace Routing

/-- **The outlets of a statement about a table.** -/
structure Addressed (table : Table) (facts : Facts) (sql : String) (outlets : List Outlet) : Prop where
  nonempty : outlets ≠ []
  ascending : (outlets.map Outlet.shard).Pairwise (· < ·)
  within : outlets.map Outlet.shard ⊆ table.shards
  everywhere : facts.values = [] → outlets.map Outlet.shard = table.shards
  unchanged : facts.rows = [] ∨ outlets.length = 1 → ∀ outlet ∈ outlets, outlet.sql = sql

section Outlets

variable {table : Table} {facts : Facts} {sql : String} {known : List ShardId}

/-- Shards that all get the text of the client. -/
theorem addressed_alike {shards : List ShardId} (nonempty : shards ≠ [])
    (ascending : shards.Pairwise (· < ·)) (within : shards ⊆ table.shards)
    (everywhere : facts.values = [] → shards = table.shards) :
    Addressed table facts sql (shards.map fun shard => ⟨shard, sql⟩) where
  nonempty := fun none => nonempty (List.map_eq_nil_iff.mp none)
  ascending := (map_shard shards sql).symm ▸ ascending
  within := (map_shard shards sql).symm ▸ within
  everywhere := (map_shard shards sql).symm ▸ everywhere
  unchanged := fun _ outlet inside => by
    obtain ⟨shard, -, rfl⟩ := List.mem_map.mp inside
    rfl

/-- The groups of placed rows are on ascending shards of the table, and there is one if there is a
row. -/
theorem groupRows_addressed {rows : List KeyedRow} {placed : List (ShardId × Nat)}
    (whole : rows.mapM (placedRow table) = .ok placed) (many : rows ≠ []) :
    groupRows placed ≠ [] ∧ ((groupRows placed).map Prod.fst).Pairwise (· < ·) ∧
      (groupRows placed).map Prod.fst ⊆ table.shards := by
  have each := mapM_eq_ok.mp whole
  have grouped := groupRows_grouped placed
  refine ⟨fun none => many ?_, ?_, fun shard inside => ?_⟩
  · have nothing := grouped.once.length_eq
    rw [none, List.length_map, ← each.length_eq] at nothing
    exact List.length_eq_zero_iff.mp nothing.symm
  · rw [List.pairwise_map]
    exact grouped.apart.imp Std.compare_eq_lt.mp
  · obtain ⟨group, isGroup, rfl⟩ := List.mem_map.mp inside
    obtain ⟨place, rest, isPlace⟩ := List.exists_cons_of_ne_nil (grouped.filled group isGroup)
    have placing := grouped.own group isGroup place (isPlace ▸ List.mem_cons_self)
    obtain ⟨row, -, given⟩ := exists_of_mem_results each placing
    obtain ⟨-, -, -, -, inTable⟩ := placed_eq_ok (placedRow_eq_ok given).2
    exact inTable List.mem_cons_self

/-- The outlets of an insertion that is split are on the shards of its groups, and a single one gets
the text of the client. -/
theorem split_shards {outlets : List Outlet} (made : split table facts sql = .ok outlets) :
    ∃ placed, facts.rows.mapM (placedRow table) = .ok placed ∧
      outlets.map Outlet.shard = (groupRows placed).map Prod.fst ∧
      (outlets.length = 1 → ∀ outlet ∈ outlets, outlet.sql = sql) := by
  obtain ⟨placed, whole, alone, apart⟩ := split_groups made
  refine ⟨placed, whole, ?_⟩
  by_cases one : (groupRows placed).length = 1
  · rw [alone one, List.map_map]
    refine ⟨rfl, fun _ outlet inside => ?_⟩
    obtain ⟨group, -, rfl⟩ := List.mem_map.mp inside
    rfl
  · have each := apart one
    refine ⟨?_, fun single => absurd (each.length_eq.trans single) one⟩
    rw [← List.forall₂_eq_eq_eq, List.forall₂_map_left_iff, List.forall₂_map_right_iff]
    exact each.flip.imp fun _ _ sent => sent.1

/-- **The outlets of a statement about a table** are addressed as they should be. -/
theorem outlets_addressed (sound : table.Sound known) {outlets : List Outlet}
    (made : Routing.outlets table facts sql = .ok outlets) : Addressed table facts sql outlets := by
  unfold Routing.outlets at made
  -- A statement that binds no key goes to all shards, one that does to those of its keys, and the rows
  -- of an insertion each to its own.
  by_cases none : facts.values = []
  · rw [none] at made
    obtain rfl := Except.ok.inj made
    exact addressed_alike sound.nonempty sound.ascending (List.Subset.refl _) fun _ => rfl
  · rw [if_neg (by rwa [List.isEmpty_iff])] at made
    by_cases noRows : facts.rows = []
    · rw [if_pos (List.isEmpty_iff.mpr noRows)] at made
      obtain ⟨shards, all, given⟩ := bind_eq_ok.mp made
      obtain rfl := Except.ok.inj given
      obtain ⟨rule, -, placed, nonempty, within⟩ := placed_eq_ok all
      exact addressed_alike nonempty (Placement.placeAll_ascending placed) within
        fun empty => absurd empty none
    · rw [if_neg (by rwa [List.isEmpty_iff])] at made
      obtain ⟨placed, whole, shards, unchanged⟩ := split_shards made
      obtain ⟨nonempty, ascending, within⟩ := groupRows_addressed whole noRows
      rw [← shards] at ascending within
      refine ⟨fun nothing => nonempty ?_, ascending, within, fun empty => absurd empty none,
        fun whole => unchanged (whole.resolve_left noRows)⟩
      rw [nothing] at shards
      exact List.map_eq_nil_iff.mp shards.symm

end Outlets

end Routing

/-! ### Plans -/

/-- **The shape of the plan** that a text comes to, of whose statement some facts are known. -/
structure Plan.Shaped (schema : Schema) (facts : Facts) (sql : String) (plan : Plan) : Prop where
  nonempty : plan.outlets ≠ []
  /-- No shard gets the statement twice. -/
  ascending : (plan.outlets.map Outlet.shard).Pairwise (· < ·)
  inSchema : plan.outlets.map Outlet.shard ⊆ schema.shards
  inTable : ∀ table, facts.table.bind schema.table? = some table →
    plan.outlets.map Outlet.shard ⊆ table.shards
  /-- A single shard gets the text of the client, and its result is left as it is. -/
  alone : ∀ outlet, plan.outlets = [outlet] → plan = .single outlet.shard sql
  /-- Several shards are all those of the table where no key is bound. -/
  everywhere : 1 < plan.outlets.length → facts.values = [] →
    ∃ table, facts.table.bind schema.table? = some table ∧
      plan.outlets.map Outlet.shard = table.shards
  /-- A window is that of a query on several shards, which all get the same text. -/
  windowed : plan.window ≠ {} → 1 < plan.outlets.length ∧
    ∃ query limit, facts.statement = .query query ∧ Facts.limit? query = some limit ∧
      Widens limit query plan
  unchanged : 1 < plan.outlets.length →
    (∀ query, facts.statement = .query query → Facts.limit? query = none) → facts.rows = [] →
      ∀ outlet ∈ plan.outlets, outlet.sql = sql

namespace Routing

section Plans

variable {schema : Schema} {table : Table} {facts : Facts} {sql : String}

/-- A statement that goes to one shard. -/
theorem single_shaped {shard : ShardId} (inSchema : shard ∈ schema.shards)
    (inTable : ∀ table, facts.table.bind schema.table? = some table → shard ∈ table.shards) :
    (Plan.single shard sql).Shaped schema facts sql where
  nonempty := List.cons_ne_nil _ _
  ascending := List.pairwise_singleton _ _
  inSchema := List.cons_subset.mpr ⟨inSchema, List.nil_subset _⟩
  inTable := fun table about => List.cons_subset.mpr ⟨inTable table about, List.nil_subset _⟩
  alone := fun outlet only => by
    obtain rfl := List.singleton_inj.mp only
    rfl
  everywhere := fun several => absurd several (Nat.lt_irrefl 1)
  windowed := fun window => absurd rfl window
  unchanged := fun several => absurd several (Nat.lt_irrefl 1)

/-- Without a window a plan sends what its outlets say. -/
theorem plan_unwidened (none : facts.limit = none) (outlets : List Outlet) :
    (plan facts outlets).outlets = outlets ∧ (plan facts outlets).window = {} := by
  unfold plan
  split
  · exact ⟨rfl, rfl⟩
  · rw [none]
    exact ⟨rfl, rfl⟩

/-- A plan with one outlet is that of the outlet. -/
theorem plan_alone {outlets : List Outlet} (addressed : Addressed table facts sql outlets)
    {outlet : Outlet} (only : (plan facts outlets).outlets = [outlet]) :
    plan facts outlets = .single outlet.shard sql := by
  have one : outlets.length = 1 := by
    rw [← plan_length facts, only]
    rfl
  have whole : plan facts outlets = { outlets } := if_pos (by omega)
  rw [whole] at only ⊢
  obtain rfl : outlets = [outlet] := only
  rw [← addressed.unchanged (Or.inr rfl) outlet List.mem_cons_self]
  rfl

/-- A window is that of a query over several shards. -/
theorem plan_windowed (read : facts.limit = facts.statement.query?.bind Facts.limit?)
    (ordered : ∀ query, facts.statement = .query query →
      facts.orderBy = Facts.orderKeys query.tail.orderBy) {outlets : List Outlet}
    (window : (plan facts outlets).window ≠ {}) : 1 < outlets.length ∧
      ∃ query limit, facts.statement = .query query ∧ Facts.limit? query = some limit ∧
        Widens limit query (plan facts outlets) := by
  cases hasLimit : facts.limit with
  | none => exact absurd (plan_unwidened hasLimit outlets).2 window
  | some limit =>
    have several : 1 < outlets.length := by
      by_contra few
      rw [show plan facts outlets = { outlets } from if_pos (by omega)] at window
      exact window rfl
    obtain ⟨query, found, isLimit⟩ := Option.bind_eq_some_iff.mp (read.symm.trans hasLimit)
    have isQuery := Statement.eq_of_query? found
    exact ⟨several, query, limit, isQuery, isLimit,
      plan_widens isQuery hasLimit (ordered query isQuery) several⟩

/-- A statement that goes to the outlets of its table. -/
theorem plan_shaped (about : facts.table.bind schema.table? = some table)
    (sound : table.Sound schema.shards)
    (read : facts.limit = facts.statement.query?.bind Facts.limit?)
    (ordered : ∀ query, facts.statement = .query query →
      facts.orderBy = Facts.orderKeys query.tail.orderBy)
    {outlets : List Outlet} (made : Routing.outlets table facts sql = .ok outlets) :
    (plan facts outlets).Shaped schema facts sql := by
  have addressed := outlets_addressed sound made
  have shards := plan_shards facts outlets
  have length := plan_length facts outlets
  refine ⟨fun none => ?_, shards ▸ addressed.ascending, ?_, fun own isOwn => ?_,
    fun outlet => plan_alone addressed, fun _ none => ?_, fun window => ?_,
    fun _ noLimit noRows => ?_⟩
  · rw [none] at length
    exact addressed.nonempty (List.length_eq_zero_iff.mp length.symm)
  · rw [shards]
    exact fun shard inside => sound.within (addressed.within inside)
  · obtain rfl : table = own := Option.some.inj (about.symm.trans isOwn)
    exact shards ▸ addressed.within
  · exact ⟨table, about, shards.trans (addressed.everywhere none)⟩
  · obtain ⟨several, found⟩ := plan_windowed read ordered window
    exact ⟨length ▸ several, found⟩
  · have none : facts.limit = none := by
      rw [read, Option.bind_eq_none_iff]
      exact fun query found => noLimit query (Statement.eq_of_query? found)
    rw [(plan_unwidened none outlets).1]
    exact addressed.unchanged (Or.inl noRows)

end Plans

end Routing

/-! ### Routes -/

/-- A pick out of some shards is one of them. -/
def Picks (choose : List ShardId → ShardId) : Prop :=
  ∀ shards, shards ≠ [] → choose shards ∈ shards

theorem picks_head : Picks fun shards => shards.headD 0 := fun shards nonempty => by
  obtain ⟨shard, rest, rfl⟩ := List.exists_cons_of_ne_nil nonempty
  exact List.mem_cons_self

/-- A statement that may go to any one of some shards goes to one of them. -/
theorem Route.pick_anyOf {choose : List ShardId → ShardId} (picks : Picks choose)
    {shards : List ShardId} (nonempty : shards ≠ []) (sql : String) :
    ∃ shard ∈ shards, (Route.anyOf shards sql).pick choose = .single shard sql := by
  unfold Route.pick
  split
  · next only text same =>
    obtain ⟨rfl, rfl⟩ := Route.anyOf.inj same
    exact ⟨only, List.mem_cons_self, rfl⟩
  · next several text _ same =>
    obtain ⟨rfl, rfl⟩ := Route.anyOf.inj same
    exact ⟨_, picks _ nonempty, rfl⟩
  · next same => cases same

/-- **Every route comes to a shaped plan**, whichever shard is picked. -/
theorem route_shaped {layout : Layout} {schema : Schema}
    (accepted : Schema.ofLayout layout = .ok schema) {sql charset : String} {kind : Kind}
    {result : Route} (routed : route schema sql charset kind = .ok result)
    {choose : List ShardId → ShardId} (picks : Picks choose) :
    ∃ facts, Facts.ofText schema sql = .ok facts ∧
      (result.pick choose).Shaped schema facts sql := by
  obtain ⟨facts, known, given⟩ := Routing.exists_of_route routed
  refine ⟨facts, known, ?_⟩
  obtain ⟨about, whole⟩ | ⟨table, isTable, about, ⟨-, whole⟩ | ⟨-, whole⟩⟩ :=
    Routing.ofFacts_cases schema facts sql kind
  · rw [whole] at given
    obtain rfl := Except.ok.inj given
    obtain ⟨shard, inside, single⟩ := Route.pick_anyOf picks (Schema.shards_ne_nil accepted) sql
    rw [single]
    refine Routing.single_shaped inside fun table other => ?_
    rw [about] at other
    cases other
  · have sound := Schema.sound_ofLayout accepted isTable
    rw [whole] at given
    obtain rfl := Except.ok.inj given
    obtain ⟨shard, inside, single⟩ := Route.pick_anyOf picks sound.nonempty sql
    rw [single]
    refine Routing.single_shaped (sound.within inside) fun own isOwn => ?_
    obtain rfl : table = own := Option.some.inj (about.symm.trans isOwn)
    exact inside
  · rw [whole] at given
    obtain ⟨outlets, made, rfl⟩ := map_eq_ok.mp given
    obtain ⟨-, -, read, ordered⟩ := Facts.ofText_eq_ok known
    exact Routing.plan_shaped about (Schema.sound_ofLayout accepted isTable) read ordered made

/-- **All that is routed is shaped.** In a schema that was accepted let a text be routed, in any character
set and whatever its kind, and let any of the shards be picked where one will do. What is known of the
statement is read of the text; its plan has at least one outlet, on ascending shards of the schema and
of its table, if the schema knows it; a single one gets the text as it is, and its result is not changed;
several are all those of the table where no key is bound; only for several is there a window, which is
that of a query, and then all of them get the same widened query; and without it, they get the text as it
is unless the rows of an insertion are split. -/
theorem plan_is_shaped {layout : Layout} {schema : Schema}
    (accepted : Schema.ofLayout layout = .ok schema) {sql charset : String} {kind : Kind}
    {result : Route} (routed : route schema sql charset kind = .ok result)
    {choose : List ShardId → ShardId} (picks : Picks choose) :
    ∃ facts, Facts.ofText schema sql = .ok facts ∧ Statement.parse sql = .ok facts.statement ∧
      facts.table = Facts.table? facts.statement ∧
        (result.pick choose).Shaped schema facts sql := by
  obtain ⟨facts, known, shaped⟩ := route_shaped accepted routed picks
  obtain ⟨parsed, table, -, -⟩ := Facts.ofText_eq_ok known
  exact ⟨facts, known, parsed, table, shaped⟩

/-- All shards of the demo layout get a query for a page of users, widened to the rows before it. -/
theorem page_of_users_is_shaped :
    let sql := "SELECT * FROM users ORDER BY id LIMIT 3 OFFSET 2"
    let choose : List ShardId → ShardId := fun shards => shards.headD 0
    ∃ (schema : Schema) (result : Route) (facts : Facts),
      Schema.ofLayout (Layout.demo 4) = .ok schema ∧
        route schema sql "utf8mb4" .select = .ok result ∧ Picks choose ∧
          (result.pick choose).Shaped schema facts sql ∧
            (result.pick choose).window = ⟨2, some 3⟩ ∧
              (result.pick choose).outlets.map Outlet.shard = [0, 1, 2, 3] := by
  intro sql choose
  let schema := (Schema.ofLayout (Layout.demo 4)).toOption.getD default
  let result := (route schema sql "utf8mb4" .select).toOption.getD (.anyOf [] sql)
  have accepted : Schema.ofLayout (Layout.demo 4) = .ok schema :=
    eq_ok_of_isOk (by decide +kernel) default
  obtain ⟨isRouted, window, shards⟩ : (route schema sql "utf8mb4" .select).isOk = true ∧
      (result.pick choose).window = ⟨2, some 3⟩ ∧
        (result.pick choose).outlets.map Outlet.shard = [0, 1, 2, 3] := by
    decide +kernel
  have routed := eq_ok_of_isOk isRouted (.anyOf [] sql)
  obtain ⟨facts, -, -, -, shaped⟩ := plan_is_shaped accepted routed picks_head
  exact ⟨schema, result, facts, accepted, routed, picks_head, shaped, window, shards⟩

end ScatterGather
