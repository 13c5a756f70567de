/-
**The sharding column, by the name it was declared with.**

A declared column is kept in uppercase, and all of its letters are changed for that. What a statement calls
it is compared with no regard to the case of ASCII letters, and of no others:

* `IsUpperBeyondAscii`: a text whose letters beyond ASCII are in uppercase;
* `sameIgnoringCase_upper_iff` — a text and its uppercase form are the same up to the case of ASCII letters
  exactly in that case;
* `key_column_recognised` — the column of an accepted layout is recognised in insertions and in conditions,
  in whatever letter case, **exactly if its letters beyond ASCII are in uppercase** where it is named;
* `declared_name_mistaken`: a column named as it was declared is not recognised.
-/
import ScatterGather.Proofs.Routing.Naming
import ScatterGather.Proofs.Routing.Refusals
import ScatterGather.Proofs.Sql.Same
import ScatterGather.Proofs.Text.Signs

namespace ScatterGather

open Sql

/-! ### Letter case -/

namespace Text

/-- A text in which what is beyond ASCII has no other uppercase form. -/
def IsUpperBeyondAscii (text : String) : Prop :=
  ∀ c ∈ text.toList, 0x80 ≤ c.toNat → upperChar c = [c]

instance : DecidablePred IsUpperBeyondAscii :=
  fun text => inferInstanceAs (Decidable (∀ c ∈ text.toList, 0x80 ≤ c.toNat → upperChar c = [c]))

/-- In ASCII the case of a letter does not matter once it is in lower case. -/
theorem lower_ascii : ∀ code < 0x80, (Char.ofNat code).toUpper.toLower = (Char.ofNat code).toLower ∧
    (Char.ofNat code).toLower.toNat < 0x80 := by
  decide

theorem toLower_beyond {c : Char} (beyond : 0x80 ≤ c.toNat) : c.toLower = c := by
  refine dif_neg fun upper => ?_
  have high : c.toNat ≤ 'Z'.toNat := UInt32.le_iff_toNat_le.mp upper.2
  exact absurd (Nat.le_trans beyond high) (by decide)

/-- **A character and its uppercase form are the same in lower case** if it is of ASCII, or has no other
uppercase form. -/
theorem lower_upperChar_iff (c : Char) :
    (upperChar c).map Char.toLower = [c.toLower] ↔ (0x80 ≤ c.toNat → upperChar c = [c]) := by
  by_cases ascii : c.toNat < 0x80
  · have same := (lower_ascii c.toNat ascii).1
    rw [Char.ofNat_toNat] at same
    rw [upperChar, if_pos ascii, List.map_singleton, same]
    exact iff_of_true rfl fun beyond => absurd ascii (Nat.not_lt.mpr beyond)
  · have beyond := Nat.not_lt.mp ascii
    rw [toLower_beyond beyond]
    refine ⟨fun same _ => ?_, fun alone => by rw [alone beyond, List.map_singleton, toLower_beyond beyond]⟩
    obtain ⟨d, alone, lower⟩ := List.map_eq_singleton_iff.mp same
    -- A letter beyond ASCII whose uppercase form is of ASCII is not the lower case of that.
    have far : 0x80 ≤ d.toNat := by
      refine Nat.not_lt.mp fun near => ascii ?_
      have low := (lower_ascii d.toNat near).2
      rwa [Char.ofNat_toNat, lower] at low
    rw [alone, ← lower, toLower_beyond far]

/-- Members are changed one by one into what a list is changed into as a whole, if nothing vanishes. -/
theorem flatMap_eq_map_iff {α β : Type} {many : α → List β} (filled : ∀ member, many member ≠ [])
    (one : α → β) (members : List α) :
    members.flatMap many = members.map one ↔ ∀ member ∈ members, many member = [one member] := by
  have longer : ∀ members : List α, members.length ≤ (members.flatMap many).length := by
    intro members
    induction members with
    | nil => exact Nat.zero_le _
    | cons first rest ih =>
      have some := List.length_pos_of_ne_nil (filled first)
      rw [List.flatMap_cons, List.length_append, List.length_cons]
      omega
  induction members with
  | nil => exact iff_of_true rfl nofun
  | cons first rest ih =>
    rw [List.forall_mem_cons, List.flatMap_cons, List.map_cons]
    constructor
    · intro same
      have size := congrArg List.length same
      have some := List.length_pos_of_ne_nil (filled first)
      have others := longer rest
      rw [List.length_append, List.length_cons, List.length_map] at size
      have alone : (many first).length = [one first].length := by
        rw [List.length_singleton]
        omega
      obtain ⟨here, there⟩ := List.append_inj (same.trans List.singleton_append.symm) alone
      exact ⟨here, ih.mp there⟩
    · rintro ⟨here, there⟩
      rw [here, ih.mpr there]
      rfl

/-- **A text is the same as its uppercase form**, up to the case of ASCII letters, if the others are in
uppercase, and only then. -/
theorem sameIgnoringCase_upper_iff {text : String} :
    sameIgnoringCase text (upper text) = true ↔ IsUpperBeyondAscii text := by
  rw [sameIgnoringCase, beq_iff_eq, eq_comm, foldAscii, foldAscii, toList_upper, List.map_flatMap,
    flatMap_eq_map_iff (fun c none => upperChar_ne_nil c (List.map_eq_nil_iff.mp none))]
  exact forall₂_congr fun c _ => lower_upperChar_iff c

end Text

/-! ### The sharding column -/

/-- **What binds the key of a literal** by the name of a column alone: the name, if it is recognised and
the relation is the only one, and nothing otherwise. -/
theorem boundValues?_named {key : KeyColumn} {column : Ident} {literal : Expr} {value : KeyValue}
    (isKey : keyLiteral? literal = some value) :
    boundValues? key (.binary (.column [column]) .eq literal) =
      if key.sole && key.isNamed column then some [value] else none := by
  rw [boundValues?, boundByEquality, KeyColumn.isMeantBy, KeyColumn.not_isMeantBy isKey, isKey]
  rfl

/-- A statement on a single relation binds the key of a literal if the name of the column is recognised. -/
theorem Facts.ofStatement_named {schema : Schema} {statement : Statement} {relation : Relation}
    {column : Ident} {literal : Expr} {value : KeyValue} {stored : String}
    (keyed : Facts.column? schema statement = some stored)
    (scope : statement.scope? = some ⟨relation, true, .binary (.column [column]) .eq literal⟩)
    (isKey : keyLiteral? literal = some value) :
    ∃ facts, Facts.ofStatement schema statement = .ok facts ∧
      facts.values = if Text.sameIgnoringCase column.name stored then [value] else [] := by
  have noInsert := Statement.insert?_of_condition? (Statement.condition?_of_scope? scope)
  obtain ⟨facts, known, -, -, values⟩ := Facts.ofStatement_values schema noInsert
  refine ⟨facts, known, ?_⟩
  rw [values, Statement.boundKeys, keyed, scope]
  show ((boundValues? _ _).getD []) = _
  rw [boundValues?_named isKey]
  show (if Text.sameIgnoringCase column.name stored then some [value] else none).getD [] = _
  split <;> rfl

/-- An insertion is refused for want of the sharding column only if it lists no name that is recognised. -/
theorem unrecognised_of_refused {layout : Layout} {schema : Schema}
    (accepted : Schema.ofLayout layout = .ok schema) {sql charset : String} {kind : Kind} {insert : Insert}
    {table : Table} {stored written column : String} (parsed : Statement.parse sql = .ok (.insert insert))
    (found : schema.table? (pathName insert.table) = some table) (keyed : table.ruleColumn? = some stored)
    (refused : route schema sql charset kind = .error (.columnNotListed written column)) :
    ∀ listed ∈ insert.columns, Text.sameIgnoringCase listed.name stored = false := by
  intro listed inside
  cases refusal_of_route accepted refused with
  | columnNotListed inserts unlisted =>
    obtain rfl := Statement.insert.inj (Except.ok.inj (parsed.symm.trans inserts.parsed))
    obtain rfl := Option.some.inj (found.symm.trans inserts.found)
    rw [Table.ruleColumn?, inserts.ruled] at keyed
    obtain rfl := Option.some.inj keyed
    exact Bool.eq_false_iff.mpr (List.filter_eq_nil_iff.mp unlisted listed inside)

/-- **The sharding column is recognised.** Let a schema be accepted, and let a name be that of the column
which was declared for a table, in whatever letter case. It is recognised exactly if its letters beyond
ASCII are in uppercase. In that case no insertion into the table that lists the name is refused for want of
the sharding column; and a condition on a single relation by which the column of this name is some literal
binds the key of the literal in that case, and nothing otherwise. -/
theorem key_column_recognised {layout : Layout} {schema : Schema}
    (accepted : Schema.ofLayout layout = .ok schema) {declared : TableLayout} {rule : RuleLayout}
    (isDeclared : declared ∈ layout.tables) (ruled : declared.rule = some rule) {table : Table}
    (isTable : table ∈ schema.tables) (named : table.name = declared.name) {name : String}
    (spelled : Text.upper name = Text.upper rule.column) :
    table.ruleColumn? = some (Text.upper rule.column) ∧
      (Text.sameIgnoringCase name (Text.upper rule.column) = true ↔ Text.IsUpperBeyondAscii name) ∧
      (Text.IsUpperBeyondAscii name → ∀ sql insert charset kind written column,
        Statement.parse sql = .ok (.insert insert) →
          schema.table? (pathName insert.table) = some table → name ∈ insert.columns.map Ident.name →
            route schema sql charset kind ≠ .error (.columnNotListed written column)) ∧
        ∀ sql statement relation quote literal key, Statement.parse sql = .ok statement →
          (Facts.table? statement).bind schema.table? = some table →
            statement.scope? = some ⟨relation, true, .binary (.column [⟨name, quote⟩]) .eq literal⟩ →
              keyLiteral? literal = some key → ∃ facts, Facts.ofText schema sql = .ok facts ∧
                facts.values = if Text.IsUpperBeyondAscii name then [key] else [] := by
  have isOf := Schema.isOf_of_name accepted isDeclared isTable named
  have stored : table.ruleColumn? = some (Text.upper rule.column) := by
    rw [Table.ruleColumn?, isOf.rule, ruled]
    rfl
  have recognised : Text.sameIgnoringCase name (Text.upper rule.column) = true ↔
      Text.IsUpperBeyondAscii name := spelled ▸ Text.sameIgnoringCase_upper_iff
  refine ⟨stored, recognised, ?_, ?_⟩
  · intro upper sql insert charset kind written column parsed found listed refused
    obtain ⟨own, inside, rfl⟩ := List.mem_map.mp listed
    have missed := unrecognised_of_refused accepted parsed found stored refused own inside
    rw [recognised.mpr upper] at missed
    cases missed
  · intro sql statement relation quote literal key parsed about scope isKey
    have keyed : Facts.column? schema statement = some (Text.upper rule.column) := by
      obtain ⟨written, isTarget, found⟩ := Option.bind_eq_some_iff.mp about
      simp only [Facts.column?, isTarget, found, Option.bind_eq_bind, Option.bind_some, stored]
    obtain ⟨facts, known, values⟩ := Facts.ofStatement_named keyed scope isKey
    refine ⟨facts, (Facts.ofText_of_parse schema parsed).trans known, ?_⟩
    rw [values]
    exact if_congr recognised rfl rfl

/-- A layout whose table has a sharding column with a letter beyond ASCII. -/
def clientLayout : Layout :=
  { name := "shop"
    shards := [0, 1]
    tables := [{ name := "clients", shards := [0, 1], rule := some ⟨"prénom", .hash⟩ }] }

/-- The column `prénom` is recognised as `PRÉnom`. -/
theorem first_name_recognised :
    let insertion := "INSERT INTO clients (PRÉnom) VALUES ('Zoé')"
    let question := "SELECT * FROM clients WHERE PRÉnom = 'Zoé'"
    ∃ (schema : Schema) (table : Table) (statement : Statement) (insert : Insert) (facts : Facts),
      Schema.ofLayout clientLayout = .ok schema ∧ table ∈ schema.tables ∧
        table.ruleColumn? = some "PRÉNOM" ∧ Statement.parse insertion = .ok (.insert insert) ∧
          schema.table? (pathName insert.table) = some table ∧
            route schema insertion "utf8mb4" .insert ≠ .error (.columnNotListed "clients" "PRÉNOM") ∧
              Statement.parse question = .ok statement ∧
                (Facts.table? statement).bind schema.table? = some table ∧
                  Facts.ofText schema question = .ok facts ∧ facts.values = [.text "Zoé"] := by
  intro insertion question
  let schema := (Schema.ofLayout clientLayout).toOption.getD default
  let table := (schema.table? "clients").getD default
  let statement := (Statement.parse question).toOption.getD default
  let scope := statement.scope?.getD default
  let inserting := (Statement.parse insertion).toOption.getD default
  let insert := inserting.insert?.getD default
  have accepted : Schema.ofLayout clientLayout = .ok schema := eq_ok_of_isOk (by decide +kernel) default
  have asked : Statement.parse question = .ok statement := eq_ok_of_isOk (by decide +kernel) default
  have inserted : Statement.parse insertion = .ok (.insert insert) :=
    (eq_ok_of_isOk (by decide +kernel) default).trans
      (congrArg Except.ok (Statement.eq_of_insert? (eq_some_of_isSome (by decide +kernel) default)))
  obtain ⟨into, asks, listed⟩ : pathName insert.table = "clients" ∧
      Facts.table? statement = some "clients" ∧ "PRÉnom" ∈ insert.columns.map Ident.name := by
    decide +kernel
  obtain ⟨known, named⟩ : (schema.table? "clients").isSome = true ∧ table.name = "clients" := by
    decide +kernel
  have found : schema.table? "clients" = some table := eq_some_of_isSome known default
  have isTable : table ∈ schema.tables := Schema.mem_of_table? found
  have about : (Facts.table? statement).bind schema.table? = some table := by
    rw [asks, Option.bind_some, found]
  obtain ⟨narrowed, sole, same⟩ : statement.scope?.isSome = true ∧ scope.sole = true ∧
      scope.condition.same (.binary (.column [⟨"PRÉnom", none⟩]) .eq
        (.literal (.string singleQuote "Zoé"))) = true := by
    decide +kernel
  have isScope : statement.scope? = some ⟨scope.relation, true, .binary (.column [⟨"PRÉnom", none⟩]) .eq
      (.literal (.string singleQuote "Zoé"))⟩ := by
    rw [← Expr.eq_of_same same, ← sole]
    exact eq_some_of_isSome narrowed default
  have upper : Text.IsUpperBeyondAscii "PRÉnom" :=
    Text.sameIgnoringCase_upper_iff.mp (by decide +kernel)
  obtain ⟨keyed, -, taken, binds⟩ := key_column_recognised accepted List.mem_cons_self rfl isTable named
    (show Text.upper "PRÉnom" = Text.upper "prénom" by decide +kernel)
  obtain ⟨facts, bound, values⟩ := binds question statement _ none _ (.text "Zoé") asked about isScope rfl
  have column : Text.upper "prénom" = "PRÉNOM" := by decide +kernel
  exact ⟨schema, table, statement, insert, facts, accepted, isTable, keyed.trans (congrArg some column),
    inserted, into ▸ found, taken upper insertion insert "utf8mb4" .insert _ _ inserted (into ▸ found) listed,
    asked, about, bound, values.trans (if_pos upper)⟩

/-- **The name that a column was declared with is mistaken for another one.** With the column `prénom` an
insertion that lists `prénom` is refused for want of `PRÉNOM`, and a condition on `prénom` binds no key. -/
theorem declared_name_mistaken :
    let insertion := "INSERT INTO clients (prénom) VALUES ('Zoé')"
    let question := "SELECT * FROM clients WHERE prénom = 'Zoé'"
    ∃ schema, Schema.ofLayout clientLayout = .ok schema ∧
      route schema insertion "utf8mb4" .insert = .error (.columnNotListed "clients" "PRÉNOM") ∧
        ∃ facts, Facts.ofText schema question = .ok facts ∧ facts.values = [] := by
  intro insertion question
  let schema := (Schema.ofLayout clientLayout).toOption.getD default
  let facts := (Facts.ofText schema question).toOption.getD default
  have accepted : Schema.ofLayout clientLayout = .ok schema := eq_ok_of_isOk (by decide +kernel) default
  have known : Facts.ofText schema question = .ok facts := eq_ok_of_isOk (by decide +kernel) default
  exact ⟨schema, accepted, by decide +kernel, facts, known, by decide +kernel⟩

end ScatterGather
