/-
**What a column's name means.**

A column is named alone, or behind the name of its relation. Of the names before it a router compares
the last one, or all of them joined by points, with the names by which it knows the first relation. This is
told here by parts, as long as no part has a point of its own:

* `NamedTable.exposed`: the name by which a relation is known, **its alias if it has one**;
* `NamedTable.isMeantBy`: the names that mean a relation: its alias alone, or else the name of its table,
  with its schema or without;
* `qualifiedBy_iff` — the router takes a name for that of the relation if **its last part is the exposed
  one**;
* `Expr.tested`, `Tests`: the columns that a condition tests, and the keys that it tests them for;
* `tests_of_boundValues?`, `tested_of_boundValues?` — a key that is bound is one for which **the key column
  is tested**, and no key is bound where it is not.
-/
import ScatterGather.Proofs.Routing.Scope
import ScatterGather.Proofs.Text.Signs

namespace ScatterGather

open Sql

namespace Sql

/-! ### Names of relations -/

/-- No part of a name has a point of its own. -/
def IsPlain (path : List Ident) : Prop :=
  ∀ part ∈ path, '.' ∉ part.name.toList

instance (path : List Ident) : Decidable (IsPlain path) :=
  inferInstanceAs (Decidable (∀ part ∈ path, '.' ∉ part.name.toList))

theorem IsPlain.spelled {path : List Ident} (plain : IsPlain path) :
    ∀ part ∈ spelled path, '.' ∉ part.toList := by
  intro part inside
  obtain ⟨ident, isIdent, rfl⟩ := List.mem_map.mp inside
  exact Text.not_mem_upper (plain ident isIdent)

namespace NamedTable

/-- The name by which a relation is known, in uppercase. An alias hides the name of the table. -/
def exposed (table : NamedTable) : String :=
  match table.byname with
  | some byname => Text.upper byname.name.name
  | none => (spelled table.name).getLast?.getD ""

/-- The name of a table with that of its schema, which is `home` where it is not written. -/
def fullName (home : String) (table : NamedTable) : List String :=
  match table.name with
  | [name] => [Text.upper home, Text.upper name.name]
  | name => spelled name

/-- Tells whether the names before a column's name mean a relation. -/
def isMeantBy (home : String) (table : NamedTable) (qualifier : List Ident) : Bool :=
  match table.byname with
  | some byname => spelled qualifier == [Text.upper byname.name.name]
  | none => !qualifier.isEmpty && (spelled qualifier).isSuffixOf (table.fullName home)

/-- A relation of which no name has a point of its own. -/
structure IsPlain (table : NamedTable) : Prop where
  named : table.name ≠ []
  name : Sql.IsPlain table.name
  byname : ∀ byname ∈ table.byname, '.' ∉ byname.name.name.toList

theorem getLast?_fullName {table : NamedTable} (home : String) :
    (table.fullName home).getLast? = (spelled table.name).getLast? := by
  unfold fullName
  split
  · next name same => simp [same, spelled]
  · rfl

/-- **A name that means a relation ends in its exposed name.** -/
theorem getLast?_of_isMeantBy {home : String} {table : NamedTable} {qualifier : List Ident}
    (meant : table.isMeantBy home qualifier = true) :
    qualifier ≠ [] ∧ (spelled qualifier).getLast? = some table.exposed := by
  unfold isMeantBy at meant
  unfold exposed
  cases hidden : table.byname with
  | some byname =>
    simp only [hidden, beq_iff_eq] at meant
    refine ⟨fun none => ?_, by rw [meant]; rfl⟩
    rw [none] at meant
    cases meant
  | none =>
    simp only [hidden, Bool.and_eq_true, Bool.not_eq_true', List.isEmpty_eq_false_iff,
      List.isSuffixOf_iff_suffix] at meant
    obtain ⟨given, before, whole⟩ := meant
    have filled : spelled qualifier ≠ [] := by simpa [spelled] using given
    refine ⟨given, ?_⟩
    dsimp only
    rw [← getLast?_fullName home, ← whole, List.getLast?_append_of_ne_nil _ filled,
      List.getLast?_eq_some_getLast filled]
    rfl

/-- A name that ends in the exposed one means the relation, if it does wherever it gives a schema. -/
theorem isMeantBy_of_exposed {home : String} {table : NamedTable} (named : table.name ≠ [])
    {qualifier : List Ident} (given : qualifier ≠ [])
    (ends : (spelled qualifier).getLast? = some table.exposed)
    (schema : 1 < qualifier.length → table.isMeantBy home qualifier = true) :
    table.isMeantBy home qualifier = true := by
  by_cases several : 1 < qualifier.length
  · exact schema several
  have some := List.length_pos_iff.mpr given
  obtain ⟨part, rfl⟩ := List.length_eq_one_iff.mp (show qualifier.length = 1 by omega)
  replace ends : Text.upper part.name = table.exposed := Option.some.inj ends
  unfold isMeantBy
  unfold exposed at ends
  cases hidden : table.byname with
  | some byname =>
    rw [hidden] at ends
    simpa [spelled] using ends
  | none =>
    rw [hidden] at ends
    have last : (spelled table.name).getLast? = .some (Text.upper part.name) := by
      have filled : spelled table.name ≠ [] := by simpa [spelled] using named
      rw [List.getLast?_eq_some_getLast filled] at ends ⊢
      exact congrArg Option.some ends.symm
    rw [← getLast?_fullName home] at last
    obtain ⟨before, whole⟩ := List.getLast?_eq_some_iff.mp last
    simp only [List.isEmpty_cons, Bool.not_false, Bool.true_and, List.isSuffixOf_iff_suffix, whole]
    exact List.suffix_append before _

end NamedTable

end Sql

/-! ### Names of the key column -/

/-- The name of a column, parentheses aside. -/
def Sql.Expr.path? : Expr → Option (List Ident)
  | .column path => some path
  | .nested inner => inner.path?
  | _ => none

namespace KeyColumn

variable {key : KeyColumn}

/-- **The first relation is named by a name that ends in the exposed one**, whatever schema is written
before it. -/
theorem qualifiedBy_iff {table : NamedTable} (own : key.qualifiers = qualifiersOf (.table table))
    (plain : table.IsPlain) {qualifier : List Ident} (given : qualifier ≠ [])
    (dotless : IsPlain qualifier) :
    key.qualifiedBy qualifier = true ↔ (spelled qualifier).getLast? = some table.exposed := by
  have filled : spelled qualifier ≠ [] := by simpa [spelled] using given
  obtain ⟨last, isLast⟩ : ∃ last, (spelled qualifier).getLast? = some last :=
    ⟨_, List.getLast?_eq_some_getLast filled⟩
  unfold qualifiedBy
  change (key.qualifiers.any fun known => known == joined "." (spelled qualifier) ||
    known == (spelled qualifier).getLast?.getD "") = true ↔ _
  unfold NamedTable.exposed
  rw [own, isLast, Option.getD_some, Option.some_inj, qualifiersOf]
  cases hidden : table.byname with
  | some byname =>
    have plainName := Text.not_mem_upper (plain.byname byname hidden)
    simp only [List.any_cons, List.any_nil, Bool.or_false, Bool.or_eq_true, beq_iff_eq]
    constructor
    · rintro (whole | same)
      · have ends := getLast?_of_joined filled dotless.spelled plainName whole.symm
        exact Option.some.inj (isLast.symm.trans ends)
      · exact same.symm
    · exact fun same => Or.inr same.symm
  | none =>
    have named : spelled table.name ≠ [] := by simpa [spelled] using plain.named
    have exposed : (spelled table.name).getLast? =
        table.name.getLast?.map fun part => Text.upper part.name := List.getLast?_map
    obtain ⟨part, isPart⟩ : ∃ part, table.name.getLast? = some part :=
      ⟨_, List.getLast?_eq_some_getLast plain.named⟩
    rw [isPart, Option.map_some] at exposed
    have plainPart := plain.name.spelled _ (List.mem_of_getLast? exposed)
    have plainLast := dotless.spelled _ (List.mem_of_getLast? isLast)
    simp only [upper_pathName, isPart, exposed, Option.toList_some, List.map_cons, List.map_nil,
      List.any_cons, List.any_nil, Bool.or_false, Bool.or_eq_true, beq_iff_eq, Option.getD_some]
    constructor
    · rintro ((whole | ends) | whole | same)
      · have parts := joined_injective named filled plain.name.spelled dotless.spelled whole
        rw [parts, isLast] at exposed
        exact Option.some.inj exposed
      · have last := getLast?_of_joined named plain.name.spelled plainLast ends
        exact Option.some.inj (last.symm.trans exposed)
      · have ends := getLast?_of_joined filled dotless.spelled plainPart whole.symm
        exact Option.some.inj (isLast.symm.trans ends)
      · exact same.symm
    · exact fun same => Or.inr (Or.inr same.symm)

/-- An expression is the key column if a name of it is, parentheses aside. -/
theorem isMeantBy_iff {expr : Expr} : key.isMeantBy expr = true ↔
    ∃ path, expr.path? = some path ∧ key.isMeantBy (.column path) = true := by
  fun_induction Expr.path? expr with
  | case1 path => simp
  | case2 inner ih => exact ih
  | case3 expr noColumn noNested =>
    cases expr with
    | column path => exact absurd rfl (noColumn path)
    | nested inner => exact absurd rfl (noNested inner)
    | _ => simp [isMeantBy]

/-- A literal is no name of the key column. -/
theorem not_isMeantBy {expr : Expr} {value : KeyValue} (literal : keyLiteral? expr = some value) :
    key.isMeantBy expr = false := by
  fun_induction keyLiteral? expr generalizing value with
  | case6 inner ih => exact ih literal
  | case7 => cases literal
  | _ => rfl

/-- A name is that of the key column if its last part is, and those before it name the first relation; if
there are none, this has to be the only one. -/
theorem isMeantBy_column {path : List Ident} : key.isMeantBy (.column path) = true ↔
    ∃ column, path.getLast? = some column ∧ key.isNamed column = true ∧
      if path.dropLast = [] then key.sole = true else key.qualifiedBy path.dropLast = true := by
  match path with
  | [] => simp [isMeantBy]
  | [column] => simp [isMeantBy, and_comm]
  | first :: second :: rest =>
    simp only [isMeantBy]
    cases (first :: second :: rest).getLast? <;> simp

end KeyColumn

/-! ### Tests of columns -/

namespace Sql.Expr

/-- The columns that a condition compares for equality or looks up in a list, wherever a router looks for
keys. -/
def tested : Expr → List (List Ident)
  | .nested inner => inner.tested
  | .binary left .and right => left.tested ++ right.tested
  | .binary left .or right => left.tested ++ right.tested
  | .binary left .eq right => left.path?.toList ++ right.path?.toList
  | .inList subject _ _ => subject.path?.toList
  | _ => []

section Tested

variable {path : List Ident} {left right subject : Expr}

theorem mem_tested_left (named : left.path? = some path) :
    path ∈ (Expr.binary left .eq right).tested := by
  simp [tested, named]

theorem mem_tested_right (named : right.path? = some path) :
    path ∈ (Expr.binary left .eq right).tested := by
  simp [tested, named]

theorem mem_tested_inList (named : subject.path? = some path) (candidates : List Expr)
    (negated : Bool) : path ∈ (Expr.inList subject candidates negated).tested := by
  simp [tested, named]

end Tested

/-- Somewhere in a condition a column is tested for a key. -/
def Tests (path : List Ident) (value : KeyValue) : Expr → Prop
  | .nested inner => inner.Tests path value
  | .binary left .and right => left.Tests path value ∨ right.Tests path value
  | .binary left .or right => left.Tests path value ∨ right.Tests path value
  | .binary left .eq right =>
    left.path? = some path ∧ keyLiteral? right = some value ∨
      right.path? = some path ∧ keyLiteral? left = some value
  | .inList subject candidates false =>
    subject.path? = some path ∧ ∃ candidate ∈ candidates, keyLiteral? candidate = some value
  | _ => False

theorem mem_tested {condition : Expr} {path : List Ident} {value : KeyValue}
    (tests : condition.Tests path value) : path ∈ condition.tested := by
  fun_induction Tests path value condition with
  | case1 inner ih => exact ih tests
  | case2 left right ihLeft ihRight =>
    exact List.mem_append.mpr (tests.imp ihLeft ihRight)
  | case3 left right ihLeft ihRight =>
    exact List.mem_append.mpr (tests.imp ihLeft ihRight)
  | case4 left right =>
    rcases tests with ⟨named, -⟩ | ⟨named, -⟩
    · exact mem_tested_left named
    · exact mem_tested_right named
  | case5 subject candidates => exact mem_tested_inList tests.1 candidates false
  | case6 => cases tests

end Sql.Expr

section Bound

variable {key : KeyColumn}

theorem tests_of_boundByEquality {left right : Expr} {bound : List KeyValue}
    (binds : boundByEquality key left right = some bound) {value : KeyValue} (inside : value ∈ bound) :
    ∃ path, (Expr.binary left .eq right).Tests path value ∧
      key.isMeantBy (.column path) = true := by
  unfold boundByEquality at binds
  by_cases isLeft : key.isMeantBy left = true
  · rw [if_pos isLeft] at binds
    obtain ⟨literal, read, rfl⟩ := Option.map_eq_some_iff.mp binds
    obtain rfl := List.mem_singleton.mp inside
    obtain ⟨path, named, meant⟩ := KeyColumn.isMeantBy_iff.mp isLeft
    exact ⟨path, Or.inl ⟨named, read⟩, meant⟩
  · rw [if_neg isLeft] at binds
    by_cases isRight : key.isMeantBy right = true
    · rw [if_pos isRight] at binds
      obtain ⟨literal, read, rfl⟩ := Option.map_eq_some_iff.mp binds
      obtain rfl := List.mem_singleton.mp inside
      obtain ⟨path, named, meant⟩ := KeyColumn.isMeantBy_iff.mp isRight
      exact ⟨path, Or.inr ⟨named, read⟩, meant⟩
    · rw [if_neg isRight] at binds
      cases binds

theorem mem_of_boundByBoth {left right : Option (List KeyValue)} {bound : List KeyValue}
    (binds : boundByBoth left right = some bound) {value : KeyValue} (inside : value ∈ bound) :
    (∃ keys, left = some keys ∧ value ∈ keys) ∨ ∃ keys, right = some keys ∧ value ∈ keys := by
  cases left with
  | none => exact Or.inr ⟨bound, binds, inside⟩
  | some keys =>
    cases right with
    | none =>
      obtain rfl := Option.some.inj binds
      exact Or.inl ⟨keys, rfl, inside⟩
    | some others =>
      obtain rfl := Option.some.inj binds
      refine Or.inl ⟨keys, rfl, ?_⟩
      by_cases none : (Ascending.inter keys others).isEmpty = true
      · rwa [if_pos none] at inside
      · rw [if_neg none] at inside
        exact (Ascending.mem_inter.mp inside).1

theorem mem_of_boundByEither {left right : Option (List KeyValue)} {bound : List KeyValue}
    (binds : boundByEither left right = some bound) {value : KeyValue} (inside : value ∈ bound) :
    (∃ keys, left = some keys ∧ value ∈ keys) ∨ ∃ keys, right = some keys ∧ value ∈ keys := by
  obtain ⟨keys, isLeft, binds⟩ := Option.bind_eq_some_iff.mp binds
  obtain ⟨others, isRight, same⟩ := Option.bind_eq_some_iff.mp binds
  obtain rfl := Option.some.inj same
  rcases Ascending.mem_union.mp inside with inside | inside
  · exact Or.inr ⟨others, isRight, inside⟩
  · exact Or.inl ⟨keys, isLeft, inside⟩

/-- **A key that a condition binds is one for which it tests the key column.** -/
theorem tests_of_boundValues? {condition : Expr} {bound : List KeyValue}
    (binds : boundValues? key condition = some bound) {value : KeyValue} (inside : value ∈ bound) :
    ∃ path, condition.Tests path value ∧ key.isMeantBy (.column path) = true := by
  fun_induction boundValues? key condition generalizing bound with
  | case1 inner ih => exact ih binds inside
  | case2 left right => exact tests_of_boundByEquality binds inside
  | case3 left right ihLeft ihRight =>
    rcases mem_of_boundByBoth binds inside with ⟨keys, isLeft, inside⟩ | ⟨keys, isRight, inside⟩
    · obtain ⟨path, tests, meant⟩ := ihLeft isLeft inside
      exact ⟨path, Or.inl tests, meant⟩
    · obtain ⟨path, tests, meant⟩ := ihRight isRight inside
      exact ⟨path, Or.inr tests, meant⟩
  | case4 left right ihLeft ihRight =>
    rcases mem_of_boundByEither binds inside with ⟨keys, isLeft, inside⟩ | ⟨keys, isRight, inside⟩
    · obtain ⟨path, tests, meant⟩ := ihLeft isLeft inside
      exact ⟨path, Or.inl tests, meant⟩
    · obtain ⟨path, tests, meant⟩ := ihRight isRight inside
      exact ⟨path, Or.inr tests, meant⟩
  | case5 subject candidates isKey =>
    obtain ⟨literals, read, rfl⟩ := Option.map_eq_some_iff.mp binds
    obtain ⟨candidate, listed, isLiteral⟩ :=
      exists_of_mem_results (mapM_eq_some read) (Ascending.mem_ofList.mp inside)
    obtain ⟨path, named, meant⟩ := KeyColumn.isMeantBy_iff.mp isKey
    exact ⟨path, ⟨named, candidate, listed, isLiteral⟩, meant⟩
  | case6 => cases binds
  | case7 => cases binds

/-- **A condition that binds keys tests the key column.** -/
theorem tested_of_boundValues? {condition : Expr} {bound : List KeyValue}
    (binds : boundValues? key condition = some bound) :
    ∃ path ∈ condition.tested, key.isMeantBy (.column path) = true := by
  fun_induction boundValues? key condition generalizing bound with
  | case1 inner ih => exact ih binds
  | case2 left right =>
    unfold boundByEquality at binds
    by_cases isLeft : key.isMeantBy left = true
    · obtain ⟨path, named, meant⟩ := KeyColumn.isMeantBy_iff.mp isLeft
      exact ⟨path, Expr.mem_tested_left named, meant⟩
    · by_cases isRight : key.isMeantBy right = true
      · obtain ⟨path, named, meant⟩ := KeyColumn.isMeantBy_iff.mp isRight
        exact ⟨path, Expr.mem_tested_right named, meant⟩
      · rw [if_neg isLeft, if_neg isRight] at binds
        cases binds
  | case3 left right ihLeft ihRight =>
    cases isLeft : boundValues? key left with
    | some keys =>
      obtain ⟨path, inside, meant⟩ := ihLeft isLeft
      exact ⟨path, List.mem_append_left _ inside, meant⟩
    | none =>
      rw [isLeft] at binds
      obtain ⟨path, inside, meant⟩ := ihRight binds
      exact ⟨path, List.mem_append_right _ inside, meant⟩
  | case4 left right ihLeft ihRight =>
    obtain ⟨keys, isLeft, -⟩ := Option.bind_eq_some_iff.mp binds
    obtain ⟨path, inside, meant⟩ := ihLeft isLeft
    exact ⟨path, List.mem_append_left _ inside, meant⟩
  | case5 subject candidates isKey =>
    obtain ⟨path, named, meant⟩ := KeyColumn.isMeantBy_iff.mp isKey
    exact ⟨path, Expr.mem_tested_inList named candidates false, meant⟩
  | case6 => cases binds
  | case7 => cases binds

end Bound

end ScatterGather
