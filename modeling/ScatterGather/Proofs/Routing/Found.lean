/-
**Tables by their names.**

The names of tables are told apart in uppercase. A statement's name is looked up without what stands
before its last point and without the quotes around it, which is not done to the names of tables, so
that

* `IsBare`, `keyOf_eq_upper_iff`: a name is looked up as it is only if it has **no point, and no quote
  at either end**;
* `keyOf_congr`, `keyOf_pathName`: letter case and the parts before the last one do not matter to a
  lookup;
* `table?_eq_some_iff`: no two tables have the same name, so a lookup finds the only one that has;
* `found_by_own_name` — a table of a schema that was accepted is found under its own name **exactly if
  this is bare**, and then by every statement that names it;
* `qualified_name_mistaken`: a table whose name has a point is taken for another one.
-/
import Mathlib.Data.List.Flatten
import Mathlib.Data.List.TakeWhile
import ScatterGather.Proofs.Routing.Widened
import ScatterGather.Proofs.Text.Signs

namespace ScatterGather

open Sql

namespace Schema

/-! ### Names in a lookup -/

/-- A name that a lookup takes as it is: it has no point, and no quote at either end. -/
structure IsBare (name : String) : Prop where
  dotless : '.' ∉ name.toList
  opening : ∀ c ∈ name.toList.head?, isNameQuote c = false
  closing : ∀ c ∈ name.toList.getLast?, isNameQuote c = false

/-- What a lookup takes of a name. -/
def bare (chars : List Char) : List Char :=
  (((lastPart chars).dropWhile isNameQuote).reverse.dropWhile isNameQuote).reverse

theorem keyOf_eq (name : String) : keyOf name = Text.upper (String.ofList (bare name.toList)) := rfl

theorem lastPart_sublist (chars : List Char) : (lastPart chars).Sublist chars := by
  have taken := (List.takeWhile_sublist (· != '.') (l := chars.reverse)).reverse
  rwa [List.reverse_reverse] at taken

theorem bare_sublist (chars : List Char) :
    (bare chars).Sublist ((lastPart chars).dropWhile isNameQuote) := by
  have dropped := (List.dropWhile_sublist isNameQuote
    (l := ((lastPart chars).dropWhile isNameQuote).reverse)).reverse
  rwa [List.reverse_reverse] at dropped

theorem dropWhile_eq_self_iff {test : Char → Bool} {chars : List Char} :
    chars.dropWhile test = chars ↔ ∀ c ∈ chars.head?, test c = false := by
  rw [List.dropWhile_eq_self_iff]
  cases chars with
  | nil => simp
  | cons c rest => simp

/-- A bare name is taken whole, and no other one is. -/
theorem bare_eq_self_iff {name : String} : bare name.toList = name.toList ↔ IsBare name := by
  have dropped := List.dropWhile_sublist isNameQuote (l := lastPart name.toList)
  have last := lastPart_sublist name.toList
  constructor
  · intro whole
    -- All that is cut away on the way to the whole name is nothing.
    have within := bare_sublist name.toList
    rw [whole] at within
    have isLast : lastPart name.toList = name.toList := last.antisymm (within.trans dropped)
    have opening : (lastPart name.toList).dropWhile isNameQuote = lastPart name.toList :=
      dropped.antisymm (last.trans within)
    rw [bare, opening, isLast, List.reverse_eq_iff, dropWhile_eq_self_iff, List.head?_reverse] at whole
    rw [isLast, dropWhile_eq_self_iff] at opening
    rw [lastPart, List.reverse_eq_iff, List.takeWhile_eq_self_iff] at isLast
    exact ⟨fun point => by simpa using isLast '.' (List.mem_reverse.mpr point), opening, whole⟩
  · rintro ⟨dotless, opening, closing⟩
    have isLast : lastPart name.toList = name.toList := by
      rw [lastPart, List.reverse_eq_iff, List.takeWhile_eq_self_iff]
      intro c inside
      rw [bne_iff_ne]
      rintro rfl
      exact dotless (List.mem_reverse.mp inside)
    rw [bare, isLast, dropWhile_eq_self_iff.mpr opening, List.reverse_eq_iff, dropWhile_eq_self_iff,
      List.head?_reverse]
    exact closing

/-- Characters that are left out are missed in uppercase. -/
theorem eq_of_upper_eq {part whole : List Char} (sub : part.Sublist whole)
    (same : part.flatMap Text.upperChar = whole.flatMap Text.upperChar) : part = whole := by
  induction sub with
  | slnil => rfl
  | @cons part rest c sub ih =>
    have shorter := (sub.flatMap Text.upperChar).length_le
    have length := congrArg List.length same
    have filled := List.length_pos_of_ne_nil (Text.upperChar_ne_nil c)
    rw [List.flatMap_cons, List.length_append] at length
    omega
  | cons_cons c sub ih =>
    rw [List.flatMap_cons, List.flatMap_cons] at same
    rw [ih (List.append_cancel_left same)]

/-- **A name is looked up as it is exactly if it is bare.** -/
theorem keyOf_eq_upper_iff {name : String} : keyOf name = Text.upper name ↔ IsBare name := by
  have sub : (bare name.toList).Sublist name.toList :=
    (bare_sublist _).trans ((List.dropWhile_sublist _).trans (lastPart_sublist _))
  rw [← bare_eq_self_iff, keyOf_eq, ← String.toList_inj, Text.toList_upper, Text.toList_upper,
    String.toList_ofList]
  exact ⟨eq_of_upper_eq sub, fun whole => by rw [whole]⟩

/-- A name may be put in uppercase before it is cut. -/
theorem bare_upper (chars : List Char) :
    bare (chars.flatMap Text.upperChar) = (bare chars).flatMap Text.upperChar := by
  have points : Text.Passes Text.upperChar (· == '.') := Text.passes_upperChar fun c isPoint => by
    rw [beq_iff_eq.mp isPoint]
    decide
  have quotes : Text.Passes Text.upperChar isNameQuote := Text.passes_upperChar fun c isQuote => by
    rw [isNameQuote, Bool.or_eq_true, beq_iff_eq, beq_iff_eq] at isQuote
    rcases isQuote with rfl | rfl <;> decide
  have last : lastPart (chars.flatMap Text.upperChar) =
      (lastPart chars).flatMap Text.upperChar := by
    show ((chars.flatMap Text.upperChar).reverse.takeWhile fun c => !(c == '.')).reverse =
      (chars.reverse.takeWhile fun c => !(c == '.')).reverse.flatMap Text.upperChar
    rw [List.reverse_flatMap, points.reverse.takeWhile, List.flatMap_reverse]
  rw [bare, bare, last, quotes.dropWhile, List.reverse_flatMap, quotes.reverse.dropWhile,
    List.flatMap_reverse]

/-- **Letter case does not matter to a lookup.** -/
theorem keyOf_congr {name other : String} (same : Text.upper name = Text.upper other) :
    keyOf name = keyOf other := by
  have cut : ∀ name, (keyOf name).toList = bare (Text.upper name).toList := fun name => by
    rw [keyOf_eq, Text.toList_upper, Text.toList_upper, String.toList_ofList, bare_upper]
  rw [← String.toList_inj, cut, cut, same]

/-- What stands before a point is no part of the last part. -/
theorem lastPart_append_point (front rest : List Char) :
    lastPart (front ++ '.' :: rest) = lastPart rest := by
  rw [lastPart, List.reverse_append, List.reverse_cons, List.append_assoc, List.takeWhile_append]
  split
  · next whole =>
    rw [lastPart, (List.takeWhile_prefix _).eq_of_length whole]
    simp
  · rfl

/-- **What stands before the last part of a name does not matter to a lookup.** -/
theorem keyOf_pathName {path : List Ident} {last : Ident} (isLast : path.getLast? = some last) :
    keyOf (pathName path) = keyOf last.name := by
  have part : lastPart (pathName path).toList = lastPart last.name.toList := by
    unfold pathName joined
    induction path with
    | nil => cases isLast
    | cons first rest ih =>
      cases rest with
      | nil =>
        obtain rfl : first = last := Option.some.inj isLast
        simp
      | cons next rest =>
        have point : (".".toList : List Char) = ['.'] := rfl
        rw [List.map_cons, List.map_cons, String.intercalate_cons_cons, String.toList_append,
          String.toList_append, point, List.append_assoc, List.singleton_append,
          lastPart_append_point]
        exact ih isLast
  rw [keyOf_eq, keyOf_eq, bare, bare, part]

/-! ### Tables of an accepted layout -/

section Accepted

variable {layout : Layout} {schema : Schema}

theorem key_of_table? {name : String} {table : Table} (found : schema.table? name = some table) :
    table.key = keyOf name :=
  beq_iff_eq.mp (List.find?_eq_some_iff_append.mp found).1

/-- **A lookup finds the one table that has its name**, wherever that stands among the others. -/
theorem table?_eq_some_iff (accepted : ofLayout layout = .ok schema) {name : String} {table : Table} :
    schema.table? name = some table ↔ table ∈ schema.tables ∧ table.key = keyOf name := by
  constructor
  · intro found
    exact ⟨mem_of_table? found, key_of_table? found⟩
  · rintro ⟨inside, named⟩
    obtain ⟨other, found⟩ : ∃ other, schema.table? name = some other :=
      Option.isSome_iff_exists.mp (List.find?_isSome.mpr ⟨table, inside, beq_iff_eq.mpr named⟩)
    rw [found, eq_of_key accepted (mem_of_table? found) inside
      ((key_of_table? found).trans named.symm)]

end Accepted

end Schema

/-- **A table is found under its own name.** In a schema that was accepted every name that it lists is
that of one table, which is as it was declared under that name. A lookup of the name finds this table if
and only if the name is bare, that is, it has no point, and no quote at either end. And every statement
about a table with this name, in whatever letter case and behind whatever name of a schema, is then
routed by this table and its rule. -/
theorem found_by_own_name {layout : Layout} {schema : Schema}
    (accepted : Schema.ofLayout layout = .ok schema) {name : String} (listed : name ∈ schema.tableNames) :
    ∃ declared ∈ layout.tables, ∃ table ∈ schema.tables, declared.name = name ∧ table.IsOf declared ∧
      (∀ other ∈ schema.tables, other.name = name → other = table) ∧
        (schema.table? name = some table ↔ Schema.IsBare name) ∧
          (Schema.IsBare name → ∀ sql facts path last, Facts.ofText schema sql = .ok facts →
            Facts.table? facts.statement = some (pathName path) → path.getLast? = some last →
              Text.upper last.name = Text.upper name →
                facts.table.bind schema.table? = some table ∧
                  Facts.column? schema facts.statement = table.ruleColumn?) := by
  obtain ⟨table, inside, rfl⟩ := List.mem_map.mp (Ascending.mem_ofList.mp listed)
  obtain ⟨declared, isDeclared, isOf, -⟩ := Schema.exists_declared accepted inside
  refine ⟨declared, isDeclared, table, inside, isOf.name.symm, isOf, ?_, ?_, ?_⟩
  · intro other isOther same
    exact Schema.eq_of_key accepted isOther inside (congrArg Text.upper same)
  · rw [Schema.table?_eq_some_iff accepted, ← Schema.keyOf_eq_upper_iff]
    exact ⟨fun found => found.2.symm, fun bare => ⟨inside, bare.symm⟩⟩
  · intro bare sql facts path last known about isLast same
    have found : schema.table? (pathName path) = some table := by
      refine (Schema.table?_eq_some_iff accepted).mpr ⟨inside, ?_⟩
      rw [Schema.keyOf_pathName isLast, Schema.keyOf_congr same, Schema.keyOf_eq_upper_iff.mpr bare,
        Table.key]
    refine ⟨?_, ?_⟩
    · rw [(Facts.ofText_eq_ok known).2.1, about]
      exact found
    · simp only [Facts.column?, about, found, Option.bind_eq_bind, Option.bind_some]

/-- The users of the demo layout are found, and so they are in uppercase and behind the name of a
schema. -/
theorem users_found :
    let sql := "SELECT * FROM shop.USERS WHERE id = 7"
    ∃ (schema : Schema) (declared : TableLayout) (table : Table) (facts : Facts),
      Schema.ofLayout (Layout.demo 4) = .ok schema ∧ "users" ∈ schema.tableNames ∧
        Facts.ofText schema sql = .ok facts ∧ declared ∈ (Layout.demo 4).tables ∧
          declared.name = "users" ∧ table.IsOf declared ∧ schema.table? "users" = some table ∧
            facts.table.bind schema.table? = some table ∧
              Facts.column? schema facts.statement = table.ruleColumn? := by
  intro sql
  let schema := (Schema.ofLayout (Layout.demo 4)).toOption.getD default
  let facts := (Facts.ofText schema sql).toOption.getD default
  have accepted : Schema.ofLayout (Layout.demo 4) = .ok schema :=
    eq_ok_of_isOk (by decide +kernel) default
  have known : Facts.ofText schema sql = .ok facts := eq_ok_of_isOk (by decide +kernel) default
  obtain ⟨listed, about, same⟩ : "users" ∈ schema.tableNames ∧
      Facts.table? facts.statement = some (pathName [⟨"shop", none⟩, ⟨"USERS", none⟩]) ∧
        Text.upper "USERS" = Text.upper "users" := by
    decide +kernel
  have bare : Schema.IsBare "users" := Schema.bare_eq_self_iff.mp (by decide +kernel)
  obtain ⟨declared, isDeclared, table, -, named, isOf, -, found, routed⟩ :=
    found_by_own_name accepted listed
  obtain ⟨used, keyed⟩ := routed bare sql facts _ ⟨"USERS", none⟩ known about rfl same
  exact ⟨schema, declared, table, facts, accepted, listed, known, isDeclared, named, isOf,
    found.mpr bare, used, keyed⟩

/-- **A table is mistaken for another one.** A layout with the tables `shop.users` on the shards 0 and 1
and `users` on 2 and 3 is accepted. The name of the first finds the second, whose rule then says where
the statements about the first go. -/
theorem qualified_name_mistaken :
    let layout : Layout :=
      { name := "shop"
        shards := [0, 1, 2, 3]
        tables := [
          { name := "shop.users", shards := [0, 1], rule := some ⟨"id", .hash⟩ },
          { name := "users", shards := [2, 3], rule := some ⟨"id", .hash⟩ }] }
    let sql := "SELECT * FROM shop.users WHERE id = 7"
    ∃ (schema : Schema) (table : Table) (plan : Plan),
      Schema.ofLayout layout = .ok schema ∧ "shop.users" ∈ schema.tableNames ∧
        schema.table? "shop.users" = some table ∧ table.name = "users" ∧
          route schema sql "utf8mb4" (Kind.classify sql) = .ok (.all plan) ∧
            plan.outlets.map Outlet.shard = [3] := by
  intro layout sql
  let schema := (Schema.ofLayout layout).toOption.getD default
  let table := (schema.table? "shop.users").getD default
  have accepted : Schema.ofLayout layout = .ok schema := eq_ok_of_isOk (by decide +kernel) default
  obtain ⟨listed, found, named⟩ : "shop.users" ∈ schema.tableNames ∧
      schema.table? "shop.users" = some table ∧ table.name = "users" := by
    decide +kernel
  have routed : route schema sql "utf8mb4" (Kind.classify sql) =
      .ok (.all { outlets := [⟨3, sql⟩] }) :=
    eq_ok_of_toOption (by decide +kernel)
  exact ⟨schema, table, _, accepted, listed, found, named, routed, rfl⟩

end ScatterGather
