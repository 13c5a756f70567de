/-
**Why statements are refused.**

Routing looks a table up twice, for its sharding column when a statement is read and for its shards when
it is sent somewhere, and it checks whatever a rule answers. What it checks cannot fail in a schema that
was accepted:

* `RouteError.Inconsistent`: the causes that tell of a schema or of facts that contradict themselves;
* `Refusal`: **why a text is refused** otherwise;
* `ofText_refused`: a text is refused while it is read if it is none, or an insertion without the keys
  of its rows;
* `Facts.Grounded`, `ofText_grounded`: what is known of a statement has keys only if its table has a
  rule, and rows only if they are written out;
* `placed_eq`, `placedRow_refused`, `outlets_refused`: with a rule that places sets by their members,
  **a value that cannot be placed** is all that can go wrong then;
* `routing_is_consistent` — in a schema that was accepted nothing is refused for a contradiction, and
  nothing is left without a shard.
-/
import ScatterGather.Proofs.Routing.Scope
import ScatterGather.Proofs.Sharding.Union

namespace ScatterGather

open Sql

/-! ### Causes -/

/-- The causes that tell of a schema or of facts that contradict themselves: keys of a table without a
rule, keys placed nowhere, elsewhere or on several shards, and rows that are not written out. -/
def RouteError.Inconsistent : RouteError → Prop
  | .noRule _ | .nothingPlaced _ _ | .placedOutside _ _ _ | .placedApart _ _ _ | .rowsNotSplit => True
  | _ => False

/-- A text inserts into a table with a rule. -/
structure InsertsInto (schema : Schema) (sql : String) (insert : Insert) (table : Table) (rule : Rule) :
    Prop where
  parsed : Statement.parse sql = .ok (.insert insert)
  found : schema.table? (pathName insert.table) = some table
  ruled : table.rule = some rule

/-- The columns of an insertion that have a name, letter case aside. -/
def keyColumns (column : String) (insert : Insert) : List Ident :=
  insert.columns.filter fun listed => Text.sameIgnoringCase listed.name column

/-- **Why a text is refused** that a client sends in some character set. -/
inductive Refusal (schema : Schema) (sql charset : String) : RouteError → Prop
  | unknownCharset (unknown : ∀ known ∈ Routing.charsets, Text.sameIgnoringCase known charset = false) :
      Refusal schema sql charset (.unknownCharset charset)
  | statement {cause : StatementError} (parsed : Statement.parse sql = .error cause) :
      Refusal schema sql charset (.statement cause)
  | columnNotListed {insert : Insert} {table : Table} {rule : Rule}
      (inserts : InsertsInto schema sql insert table rule) (unlisted : keyColumns rule.column insert = []) :
      Refusal schema sql charset (.columnNotListed (pathName insert.table) rule.column)
  | rowsNotListed {insert : Insert} {table : Table} {rule : Rule}
      (inserts : InsertsInto schema sql insert table rule) (listed : keyColumns rule.column insert ≠ [])
      (unwritten : insert.rows? = none) :
      Refusal schema sql charset (.rowsNotListed (pathName insert.table))
  | keyNotLiteral {insert : Insert} {table : Table} {rule : Rule} {before after : List (List Expr)}
      {row : List Expr} (inserts : InsertsInto schema sql insert table rule)
      (listed : keyColumns rule.column insert ≠ []) (written : insert.rows? = some (before ++ row :: after))
      (earlier : ∀ one ∈ before, (insertKey? rule.column insert one).isSome = true)
      (keyless : insertKey? rule.column insert row = none) :
      Refusal schema sql charset (.keyNotLiteral before.length (pathName insert.table) rule.column)
  | placement {facts : Facts} {table : Table} {rule : Rule} {bounds : List (Int64 × ShardId)}
      {value : KeyValue} {cause : PlacementError} (known : Facts.ofText schema sql = .ok facts)
      (about : facts.table.bind schema.table? = some table) (ruled : table.rule = some rule)
      (ranged : rule.placement = .range bounds) (bound : value ∈ facts.values)
      (refused : rule.placement.place value = .error cause) :
      Refusal schema sql charset (.placement cause)

theorem Refusal.not_inconsistent {schema : Schema} {sql charset : String} {cause : RouteError}
    (refusal : Refusal schema sql charset cause) : ¬ cause.Inconsistent := by
  cases refusal <;> exact id

/-! ### What is known of a statement -/

namespace Facts

section Statements

variable {schema : Schema} {statement : Statement}

/-- A statement has a sharding column only if the table that it is about has a rule. -/
theorem exists_rule_of_column? {column : String} (found : column? schema statement = some column) :
    ∃ table rule, (table? statement).bind schema.table? = some table ∧ table.rule = some rule ∧
      column = rule.column := by
  obtain ⟨name, isName, found⟩ := Option.bind_eq_some_iff.mp found
  obtain ⟨table, isTable, found⟩ := Option.bind_eq_some_iff.mp found
  obtain ⟨rule, ruled, rfl⟩ := Option.map_eq_some_iff.mp found
  exact ⟨table, rule, Option.bind_eq_some_iff.mpr ⟨name, isName, isTable⟩, ruled, rfl⟩

/-- Keys are known only of a table with a rule, and rows only if they are written out. -/
structure Grounded (schema : Schema) (facts : Facts) : Prop where
  ruled : facts.values ≠ [] → ∀ table, facts.table.bind schema.table? = some table →
    ∃ rule, table.rule = some rule
  written : facts.rows ≠ [] → ∃ insert rows, facts.statement = .insert insert ∧
    insert.rows? = some rows
  keys : ∀ row ∈ facts.rows, row.key ∈ facts.values

theorem keyedRows_written {column : String} {insert : Insert} {keyed : List KeyedRow}
    (whole : keyedRows column insert = .ok keyed) : ∃ rows, insert.rows? = some rows := by
  unfold keyedRows at whole
  dsimp only at whole
  split at whole
  · cases whole
  · split at whole
    · cases whole
    · next rows written => exact ⟨rows, written⟩

/-- What is known of a statement is grounded. -/
theorem ofStatement_grounded {facts : Facts} (known : ofStatement schema statement = .ok facts) :
    facts.Grounded schema := by
  cases isInsert : statement.insert? with
  | none =>
    obtain ⟨own, isOwn, table, rows, values⟩ := ofStatement_values schema isInsert
    obtain rfl : own = facts := Except.ok.inj (isOwn.symm.trans known)
    refine ⟨fun bound found about => ?_, fun many => absurd rows many, ?_⟩
    · rw [values, Statement.boundKeys] at bound
      cases column : column? schema statement with
      | none =>
        rw [column] at bound
        exact absurd rfl bound
      | some column =>
        obtain ⟨found', rule, about', ruled, -⟩ := exists_rule_of_column? column
        rw [table, about'] at about
        exact ⟨rule, Option.some.inj about ▸ ruled⟩
    · rw [rows]
      exact fun row inside => absurd inside List.not_mem_nil
  | some insert =>
    obtain rfl := Statement.eq_of_insert? isInsert
    cases column : column? schema (.insert insert) with
    | none =>
      simp only [ofStatement, column] at known
      obtain rfl := Except.ok.inj known
      exact ⟨fun none => absurd rfl none, fun none => absurd rfl none,
        fun row inside => absurd inside List.not_mem_nil⟩
    | some own =>
      obtain ⟨table, rule, about, ruled, -⟩ := exists_rule_of_column? column
      simp only [ofStatement, column] at known
      obtain ⟨keyed, whole, rfl⟩ := map_eq_ok.mp known
      refine ⟨fun _ found about' => ?_, fun _ => ?_, fun row inside => ?_⟩
      · exact ⟨rule, Option.some.inj (about.symm.trans about') ▸ ruled⟩
      · obtain ⟨rows, written⟩ := keyedRows_written whole
        exact ⟨insert, rows, rfl, written⟩
      · exact Ascending.mem_ofList.mpr (List.mem_map_of_mem inside)

/-- **What is known of a text is grounded.** -/
theorem ofText_grounded {sql : String} {facts : Facts} (known : ofText schema sql = .ok facts) :
    facts.Grounded schema := by
  unfold ofText at known
  split at known
  · cases known
  · exact ofStatement_grounded known

/-- **An insertion into a table with a rule is refused** if it does not list the sharding column, or does
not write out its rows, or as the first of its rows that has no literal for the column. -/
theorem keyedRows_refused {sql : String} {insert : Insert} {table : Table} {rule : Rule}
    (inserts : InsertsInto schema sql insert table rule) {cause : RouteError}
    (refused : keyedRows rule.column insert = .error cause) (charset : String) :
    Refusal schema sql charset cause := by
  unfold keyedRows at refused
  cases found : insert.columns.findIdx? fun listed => Text.sameIgnoringCase listed.name rule.column with
  | none =>
    rw [found] at refused
    obtain rfl := Except.error.inj refused
    refine .columnNotListed inserts (List.filter_eq_nil_iff.mpr fun listed inside => ?_)
    rw [List.findIdx?_eq_none_iff.mp found listed inside]
    exact Bool.false_ne_true
  | some position =>
    have listed : keyColumns rule.column insert ≠ [] := by
      intro unlisted
      have nowhere : insert.columns.findIdx? (fun listed =>
          Text.sameIgnoringCase listed.name rule.column) = none :=
        List.findIdx?_eq_none_iff.mpr fun listed inside =>
          Bool.eq_false_iff.mpr (List.filter_eq_nil_iff.mp unlisted listed inside)
      rw [found] at nowhere
      cases nowhere
    have key : ∀ row, insertKey? rule.column insert row = row[position]?.bind keyLiteral? :=
      fun row => by rw [insertKey?, found, Option.bind_some]
    cases written : insert.rows? with
    | none =>
      simp only [found, written] at refused
      obtain rfl := Except.error.inj refused
      exact .rowsNotListed inserts listed written
    | some rows =>
      simp only [found, written] at refused
      obtain ⟨before, ⟨number, row⟩, after, split, fine, fails⟩ := mapM_eq_error refused
      obtain ⟨whole, rfl⟩ := numbered_split split
      unfold rowKey at fails
      cases own : row[position]?.bind keyLiteral? with
      | some value =>
        rw [own] at fails
        cases fails
      | none =>
        rw [own] at fails
        obtain rfl := Except.error.inj fails
        rw [← List.length_map Prod.snd]
        refine .keyNotLiteral inserts listed (written.trans (congrArg some whole)) ?_ ((key row).trans own)
        intro one inside
        obtain ⟨earlier, isEarlier, rfl⟩ := List.mem_map.mp inside
        obtain ⟨keyed, given⟩ := fine earlier isEarlier
        unfold rowKey at given
        rw [key]
        split at given
        · next value isKey => rw [isKey]; rfl
        · cases given

/-- **A text is refused while it is read** if it is no single statement, or an insertion without the keys
of its rows. -/
theorem ofText_refused {sql : String} {cause : RouteError} (refused : ofText schema sql = .error cause)
    (charset : String) : Refusal schema sql charset cause := by
  unfold ofText at refused
  cases parsed : Statement.parse sql with
  | error other =>
    rw [parsed] at refused
    obtain rfl := Except.error.inj refused
    exact .statement parsed
  | ok statement =>
    simp only [parsed, ofStatement] at refused
    split at refused
    · cases refused
    · next insert column found =>
      obtain ⟨table, rule, about, ruled, rfl⟩ := exists_rule_of_column? found
      rw [map_eq_error] at refused
      exact keyedRows_refused ⟨parsed, about, ruled⟩ refused charset
    · cases refused
    · cases refused
    · cases refused

end Statements

end Facts

/-! ### Values that cannot be placed -/

namespace Routing

section Table

variable {table : Table} {rule : Rule} {facts : Facts} {sql : String}

/-- **What a rule answers needs no check** if it places sets by their members: a value is placed, or
cannot be. -/
theorem placed_eq (ruled : table.rule = some rule)
    (sets : table.PlacesSets rule.placement SeaHash.hash) {values : List KeyValue}
    (filled : values ≠ []) :
    placed table values = (rule.placement.placeAll values).mapError RouteError.placement := by
  unfold placed
  rw [ruled]
  cases whole : rule.placement.placeAll values with
  | error cause => simp only [whole]; rfl
  | ok shards =>
    have given : rule.placement.placeAllBy SeaHash.hash values = .ok shards := by
      rw [Placement.placeAllBy_hash, whole]
    have inTable : shards.find? (fun shard => !table.shards.contains shard) = none := by
      refine List.find?_eq_none.mpr fun shard inside => ?_
      rw [List.contains_iff_mem.mpr (sets.within values shards given inside)]
      exact Bool.false_ne_true
    obtain ⟨first, rest, rfl⟩ := List.exists_cons_of_ne_nil (sets.filled values shards given filled)
    simp only [whole, inTable]
    rfl

/-- A row is refused only if its key cannot be placed. -/
theorem placedRow_refused (ruled : table.rule = some rule)
    (sets : table.PlacesSets rule.placement SeaHash.hash) {row : KeyedRow} {cause : RouteError}
    (refused : placedRow table row = .error cause) :
    ∃ why, cause = .placement why ∧ rule.placement.place row.key = .error why := by
  unfold placedRow at refused
  rw [placed_eq ruled sets (List.cons_ne_nil _ _)] at refused
  cases whole : rule.placement.placeAll [row.key] with
  | error why =>
    rw [whole] at refused
    obtain rfl := Except.error.inj refused
    obtain ⟨before, value, after, split, -, fails⟩ := Placement.placeAll_eq_error whole
    have own : value ∈ [row.key] := split ▸ List.mem_append_right _ List.mem_cons_self
    exact ⟨why, rfl, List.mem_singleton.mp own ▸ fails⟩
  | ok shards =>
    obtain ⟨shard, rfl⟩ := sets.alone row.key shards (by rw [Placement.placeAllBy_hash, whole])
    rw [whole] at refused
    cases refused

/-- An insertion is refused only if the key of one of its rows cannot be placed. -/
theorem split_refused (ruled : table.rule = some rule)
    (sets : table.PlacesSets rule.placement SeaHash.hash) {insert : Insert} {rows : List (List Expr)}
    (isInsert : facts.statement = .insert insert) (written : insert.rows? = some rows)
    {cause : RouteError} (refused : split table facts sql = .error cause) :
    ∃ row ∈ facts.rows, ∃ why, cause = .placement why ∧ rule.placement.place row.key = .error why := by
  unfold split at refused
  cases whole : facts.rows.mapM (placedRow table) with
  | error other =>
    rw [whole] at refused
    obtain rfl : other = cause := Except.error.inj refused
    obtain ⟨before, row, after, same, -, fails⟩ := mapM_eq_error whole
    exact ⟨row, same ▸ List.mem_append_right _ List.mem_cons_self, placedRow_refused ruled sets fails⟩
  | ok placed =>
    -- The rows are written out, so that any of them can be sent apart from the others.
    obtain ⟨preamble, explicitRow, tail, source⟩ := Insert.source_of_rows? written
    rw [whole, ok_bind] at refused
    split at refused
    · cases refused
    · obtain ⟨before, group, after, -, -, fails⟩ := mapM_eq_error refused
      simp only [subset?_eq isInsert source group] at fails
      cases fails

/-- **A statement about a table is refused only if one of its keys cannot be placed.** -/
theorem outlets_refused {schema : Schema} (grounded : facts.Grounded schema)
    (about : facts.table.bind schema.table? = some table)
    (sets : ∀ rule, table.rule = some rule → table.PlacesSets rule.placement SeaHash.hash)
    {cause : RouteError} (refused : Routing.outlets table facts sql = .error cause) :
    ∃ rule, table.rule = some rule ∧ ∃ value ∈ facts.values, ∃ why, cause = .placement why ∧
      rule.placement.place value = .error why := by
  unfold Routing.outlets at refused
  by_cases none : facts.values = []
  · rw [none] at refused
    cases refused
  · obtain ⟨rule, ruled⟩ := grounded.ruled none table about
    refine ⟨rule, ruled, ?_⟩
    rw [if_neg (by rwa [List.isEmpty_iff])] at refused
    by_cases noRows : facts.rows = []
    · rw [if_pos (List.isEmpty_iff.mpr noRows), placed_eq ruled (sets rule ruled) none] at refused
      cases whole : rule.placement.placeAll facts.values with
      | error why =>
        rw [whole] at refused
        obtain rfl := Except.error.inj refused
        obtain ⟨before, value, after, same, -, fails⟩ := Placement.placeAll_eq_error whole
        exact ⟨value, same ▸ List.mem_append_right _ List.mem_cons_self, why, rfl, fails⟩
      | ok shards =>
        rw [whole] at refused
        cases refused
    · rw [if_neg (by rwa [List.isEmpty_iff])] at refused
      obtain ⟨insert, rows, isInsert, written⟩ := grounded.written noRows
      obtain ⟨row, inside, why, same, fails⟩ :=
        split_refused ruled (sets rule ruled) isInsert written refused
      exact ⟨row.key, grounded.keys row inside, why, same, fails⟩

end Table

end Routing

/-- Only a rule by ranges cannot place a value. -/
theorem Placement.exists_range_of_error {placement : Placement} {value : KeyValue}
    {cause : PlacementError} (refused : placement.place value = .error cause) :
    ∃ bounds, placement = .range bounds := by
  cases placement with
  | hash shards => cases refused
  | range bounds => exact ⟨bounds, rfl⟩

/-! ### Routes -/

section Accepted

variable {layout : Layout} {schema : Schema} {sql charset : String} {kind : Kind}

/-- **In a schema that was accepted a text is refused for a reason of its own.** -/
theorem refusal_of_route (accepted : Schema.ofLayout layout = .ok schema) {cause : RouteError}
    (refused : route schema sql charset kind = .error cause) : Refusal schema sql charset cause := by
  unfold route at refused
  split at refused
  · cases known : Facts.ofText schema sql with
    | error other =>
      rw [known] at refused
      obtain rfl : other = cause := Except.error.inj refused
      exact Facts.ofText_refused known charset
    | ok facts =>
      rw [known, ok_bind] at refused
      obtain ⟨-, whole⟩ | ⟨table, inside, about, ⟨-, whole⟩ | ⟨-, whole⟩⟩ :=
        Routing.ofFacts_cases schema facts sql kind
      · rw [whole] at refused
        cases refused
      · rw [whole] at refused
        cases refused
      · rw [whole, map_eq_error] at refused
        obtain ⟨rule, ruled, value, bound, why, rfl, fails⟩ :=
          Routing.outlets_refused (Facts.ofText_grounded known) about
            (fun rule ruled => Schema.placesSets_ofLayout accepted inside ruled SeaHash.hash) refused
        obtain ⟨bounds, ranged⟩ := Placement.exists_range_of_error fails
        exact .placement known about ruled ranged bound fails
  · next unknown =>
    obtain rfl := Except.error.inj refused
    rw [Bool.not_eq_true, List.any_eq_false] at unknown
    exact .unknownCharset fun known inside => Bool.eq_false_iff.mpr (unknown known inside)

/-- A text that any one of some shards may run has a shard. -/
theorem shards_of_anyOf (accepted : Schema.ofLayout layout = .ok schema) {shards : List ShardId}
    {text : String} (routed : route schema sql charset kind = .ok (.anyOf shards text)) :
    shards ≠ [] := by
  obtain ⟨facts, -, given⟩ := Routing.exists_of_route routed
  obtain ⟨-, whole⟩ | ⟨table, inside, -, ⟨-, whole⟩ | ⟨-, whole⟩⟩ :=
    Routing.ofFacts_cases schema facts sql kind
  · rw [whole] at given
    obtain ⟨rfl, -⟩ := Route.anyOf.inj (Except.ok.inj given)
    exact Schema.shards_ne_nil accepted
  · rw [whole] at given
    obtain ⟨rfl, -⟩ := Route.anyOf.inj (Except.ok.inj given)
    exact (Schema.sound_ofLayout accepted inside).nonempty
  · rw [whole] at given
    obtain ⟨outlets, -, same⟩ := map_eq_ok.mp given
    cases same

end Accepted

/-- **Routing never contradicts itself.** In a schema that was accepted let any text be routed, in any
character set and whatever its kind. If it is refused, then for a character set that is not known, a
text that is no single statement, an insertion that does not list the sharding column, does not write
out its rows or has a row without a literal for it, or a key that a rule by ranges cannot place; and
never for a contradiction. If any one of some shards may run it, there is one. And a rule by hash has a
shard to divide by, and a shard of its table for every value. -/
theorem routing_is_consistent {layout : Layout} {schema : Schema}
    (accepted : Schema.ofLayout layout = .ok schema) (sql charset : String) (kind : Kind) :
    (∀ cause, route schema sql charset kind = .error cause →
        Refusal schema sql charset cause ∧ ¬ cause.Inconsistent) ∧
      (∀ shards text, route schema sql charset kind = .ok (.anyOf shards text) → shards ≠ []) ∧
        ∀ table ∈ schema.tables, ∀ rule shards, table.rule = some rule →
          rule.placement = .hash shards → shards ≠ [] ∧
            ∀ value, ∃ shard ∈ table.shards, rule.placement.place value = .ok (some shard) := by
  refine ⟨fun cause refused => ?_, fun shards text => shards_of_anyOf accepted, ?_⟩
  · have refusal := refusal_of_route accepted refused
    exact ⟨refusal, refusal.not_inconsistent⟩
  · intro table inside rule shards ruled hashed
    obtain ⟨declared, -, isOf, -⟩ := Schema.exists_declared accepted inside
    have nonempty := (Schema.sound_ofLayout accepted inside).nonempty
    refine ⟨isOf.eq_shards_of_hash ruled hashed ▸ nonempty, fun value => ?_⟩
    obtain ⟨found, isFound⟩ : ∃ found, rule.placement.place value = .ok found := by
      rw [hashed]
      exact ⟨_, rfl⟩
    rw [← Placement.placeBy_hash] at isFound
    obtain ⟨shard, inTable, rfl⟩ := isOf.placeBy_some ruled nonempty isFound
    exact ⟨shard, inTable, Placement.placeBy_hash rule.placement ▸ isFound⟩

/-- An order beyond the bounds of the demo layout is refused for its key, a question about no table goes
to any of four shards, and a user without a number has a shard. -/
theorem order_beyond_bounds_refused :
    let sql := "SELECT * FROM orders WHERE order_id = 4000"
    let range := "range(<1000:0,<2000:1,<3000:2,<4000:3)"
    ∃ (schema : Schema) (users : Table) (rule : Rule),
      Schema.ofLayout (Layout.demo 4) = .ok schema ∧
        route schema sql "utf8mb4" .select = .error (.placement (.outOfRange "4000" range)) ∧
          Refusal schema sql "utf8mb4" (.placement (.outOfRange "4000" range)) ∧
            route schema "SELECT 1" "utf8mb4" .select = .ok (.anyOf schema.shards "SELECT 1") ∧
              schema.shards ≠ [] ∧
                users ∈ schema.tables ∧ users.rule = some rule ∧ rule.placement = .hash [0, 1, 2, 3] ∧
                  ∃ shard ∈ users.shards, rule.placement.place .null = .ok (some shard) := by
  intro sql range
  let schema := (Schema.ofLayout (Layout.demo 4)).toOption.getD default
  let users := (schema.table? "users").getD default
  let rule := users.rule.getD default
  have accepted : Schema.ofLayout (Layout.demo 4) = .ok schema :=
    eq_ok_of_isOk (by decide +kernel) default
  have refused : route schema sql "utf8mb4" .select = .error (.placement (.outOfRange "4000" range)) := by
    decide +kernel
  have routed : route schema "SELECT 1" "utf8mb4" .select = .ok (.anyOf schema.shards "SELECT 1") := by
    decide +kernel
  obtain ⟨inside, ruled, hashed⟩ : users ∈ schema.tables ∧ users.rule = some rule ∧
      rule.placement = .hash [0, 1, 2, 3] := by
    decide +kernel
  obtain ⟨causes, -, hashes⟩ := routing_is_consistent accepted sql "utf8mb4" .select
  obtain ⟨-, shards, -⟩ := routing_is_consistent accepted "SELECT 1" "utf8mb4" .select
  exact ⟨schema, users, rule, accepted, refused, (causes _ refused).1, routed, shards _ _ routed, inside,
    ruled, hashed, (hashes users inside rule _ ruled hashed).2 .null⟩

end ScatterGather
