/-
**Literals in another spelling.**

A key may be written as `7`, as `'7'` or as `(7)`. A rule places all of these alike, but the conditions
of a conjunction are compared as they are written, which tells them apart:

* `Alike`, `Respelled`: literals for the same key, and **conditions that differ in such literals**;
* `spelledOnce`: no conjunction binds a key in two spellings;
* `boundValues?_respelled`: respelled conditions bind the same keys, **if each is spelled once**;
* `respelled_goal` — a respelled statement **goes to the same shards**;
* `dropped_by_spelling`: a conjunction that spells a key in two ways misses its shard.
-/
import ScatterGather.Proofs.Routing.Naming
import ScatterGather.Proofs.Sharding.Spelled
import ScatterGather.Proofs.Sql.Same

namespace ScatterGather

open Sql

namespace Sql.Expr

/-! ### Conditions respelled -/

/-- An expression as it is, or two literals for the same key. -/
def Alike (expr other : Expr) : Prop :=
  expr = other ∨ ∃ key same, keyLiteral? expr = some key ∧ keyLiteral? other = some same ∧
    key.bytes = same.bytes

/-- A condition and the same one with literals respelled, in any of its equalities and lists that stand
under nothing but `AND`, `OR` and parentheses. -/
inductive Respelled : Expr → Expr → Prop where
  | rest (expr : Expr) : Respelled expr expr
  | nested {inner other : Expr} : Respelled inner other → Respelled (.nested inner) (.nested other)
  | both {left right left' right' : Expr} : Respelled left left' → Respelled right right' →
      Respelled (.binary left .and right) (.binary left' .and right')
  | either {left right left' right' : Expr} : Respelled left left' → Respelled right right' →
      Respelled (.binary left .or right) (.binary left' .or right')
  | equal {left right left' right' : Expr} : Alike left left' → Alike right right' →
      Respelled (.binary left .eq right) (.binary left' .eq right')
  | among {candidates others : List Expr} (subject : Expr) (negated : Bool) :
      List.Forall₂ Alike candidates others →
      Respelled (.inList subject candidates negated) (.inList subject others negated)

/-- Tells whether no conjunction within a condition binds a key on both sides in two spellings. -/
def spelledOnce (key : KeyColumn) : Expr → Bool
  | .nested inner => inner.spelledOnce key
  | .binary left .and right => left.spelledOnce key && right.spelledOnce key &&
      decide (∀ keys ∈ boundValues? key left, ∀ others ∈ boundValues? key right,
        SpelledAlike keys others)
  | .binary left .or right => left.spelledOnce key && right.spelledOnce key
  | _ => true

end Sql.Expr

/-! ### What they bind -/

section Bound

variable {key : KeyColumn}

theorem Sql.Expr.Alike.isMeantBy_eq {expr other : Expr} (alike : expr.Alike other) :
    key.isMeantBy expr = key.isMeantBy other := by
  rcases alike with rfl | ⟨value, same, isKey, isSame, -⟩
  · rfl
  · rw [KeyColumn.not_isMeantBy isKey, KeyColumn.not_isMeantBy isSame]

theorem Sql.Expr.Alike.keyLiteral?_rel {expr other : Expr} (alike : expr.Alike other) :
    Option.Rel (fun value same => value.bytes = same.bytes) (keyLiteral? expr)
      (keyLiteral? other) := by
  rcases alike with rfl | ⟨value, same, isKey, isSame, bytes⟩
  · exact rel_refl (fun value => Eq.refl value.bytes) _
  · rw [isKey, isSame]
    exact .some bytes

theorem sameBytes_singleton {expr other : Expr} (alike : expr.Alike other) :
    Option.Rel SameBytes ((keyLiteral? expr).map ([·])) ((keyLiteral? other).map ([·])) :=
  rel_map alike.keyLiteral?_rel fun bytes _ => by simp [bytes]

theorem boundByEquality_alike {left right left' right' : Expr} (lefts : left.Alike left')
    (rights : right.Alike right') : Option.Rel SameBytes (boundByEquality key left right)
      (boundByEquality key left' right') := by
  unfold boundByEquality
  rw [lefts.isMeantBy_eq, rights.isMeantBy_eq]
  split
  · exact sameBytes_singleton rights
  · split
    · exact sameBytes_singleton lefts
    · exact .none

theorem boundByList_alike {candidates others : List Expr}
    (each : List.Forall₂ Expr.Alike candidates others) :
    Option.Rel (List.Forall₂ fun value same => value.bytes = same.bytes)
      (candidates.mapM keyLiteral?) (others.mapM keyLiteral?) := by
  induction each with
  | nil => exact .some .nil
  | cons alike _ ih =>
    rw [List.mapM_cons, List.mapM_cons]
    exact rel_bind alike.keyLiteral?_rel fun bytes => rel_bind ih fun rest => .some (.cons bytes rest)

theorem boundByEither_sameBytes {left right left' right' : Option (List KeyValue)}
    (lefts : Option.Rel SameBytes left left') (rights : Option.Rel SameBytes right right') :
    Option.Rel SameBytes (boundByEither left right) (boundByEither left' right') :=
  rel_bind lefts fun same => rel_bind rights fun also => .some (same.union also)

theorem boundByBoth_sameBytes {left right left' right' : Option (List KeyValue)}
    (lefts : Option.Rel SameBytes left left') (rights : Option.Rel SameBytes right right')
    (once : ∀ keys ∈ left, ∀ others ∈ right, SpelledAlike keys others)
    (onceOther : ∀ keys ∈ left', ∀ others ∈ right', SpelledAlike keys others) :
    Option.Rel SameBytes (boundByBoth left right) (boundByBoth left' right') := by
  cases lefts with
  | none => exact rights
  | some same =>
    cases rights with
    | none => exact .some same
    | some also =>
      have both := same.inter also (once _ rfl _ rfl) (onceOther _ rfl _ rfl)
      refine .some ?_
      rw [both.isEmpty_eq]
      split
      · exact same
      · exact both

/-- **Respelled conditions bind the same keys**, if neither spells a key in two ways. -/
theorem boundValues?_respelled {condition other : Expr} (respelled : condition.Respelled other)
    (once : condition.spelledOnce key = true) (onceOther : other.spelledOnce key = true) :
    Option.Rel SameBytes (boundValues? key condition) (boundValues? key other) := by
  induction respelled with
  | rest expr => exact rel_refl SameBytes.refl _
  | nested _ ih => exact ih once onceOther
  | both _ _ ihLeft ihRight =>
    simp only [Expr.spelledOnce, Bool.and_eq_true, decide_eq_true_eq] at once onceOther
    obtain ⟨⟨onceLeft, onceRight⟩, across⟩ := once
    obtain ⟨⟨otherLeft, otherRight⟩, acrossOther⟩ := onceOther
    exact boundByBoth_sameBytes (ihLeft onceLeft otherLeft) (ihRight onceRight otherRight) across
      acrossOther
  | either _ _ ihLeft ihRight =>
    simp only [Expr.spelledOnce, Bool.and_eq_true] at once onceOther
    exact boundByEither_sameBytes (ihLeft once.1 onceOther.1) (ihRight once.2 onceOther.2)
  | equal lefts rights => exact boundByEquality_alike lefts rights
  | among subject negated each =>
    cases negated with
    | true => exact .none
    | false =>
      unfold boundValues?
      split
      · exact rel_map (boundByList_alike each) SameBytes.ofList
      · exact .none

end Bound

/-! ### Where they go -/

/-- No conjunction in the condition of a statement binds a key of its table in two spellings. -/
def Sql.Statement.SpelledOnce (schema : Schema) (statement : Statement) : Prop :=
  ∀ column ∈ Facts.column? schema statement, ∀ scope ∈ statement.scope?,
    scope.condition.spelledOnce (scope.keyColumn column) = true

instance (schema : Schema) (statement : Statement) : Decidable (statement.SpelledOnce schema) :=
  inferInstanceAs (Decidable (∀ column ∈ Facts.column? schema statement,
    ∀ scope ∈ statement.scope?, scope.condition.spelledOnce (scope.keyColumn column) = true))

/-- Statements with respelled conditions bind the same keys. -/
theorem boundKeys_respelled {schema : Schema} {statement : Statement} {condition other : Expr}
    (has : statement.condition? = some condition) (respelled : condition.Respelled other)
    (once : statement.SpelledOnce schema)
    (onceOther : (statement.withCondition other).SpelledOnce schema) :
    SameBytes (statement.boundKeys schema) ((statement.withCondition other).boundKeys schema) := by
  have others := Statement.scope?_withCondition has other
  unfold Statement.SpelledOnce at once onceOther
  unfold Statement.boundKeys
  rw [Statement.column?_withCondition, others] at onceOther ⊢
  cases column : Facts.column? schema statement with
  | none => exact SameBytes.refl _
  | some column' =>
    cases isScope : statement.scope? with
    | none => exact SameBytes.refl _
    | some scope =>
      obtain rfl : condition = scope.condition :=
        Option.some.inj (has.symm.trans (Statement.condition?_of_scope? isScope))
      rw [isScope] at onceOther
      have bound := boundValues?_respelled respelled (once _ column _ isScope)
        (onceOther _ column _ rfl)
      exact rel_getD bound (SameBytes.refl [])

/-- Sets of keys in different spellings have the same goal. -/
theorem Routing.goalOf_sameBytes (schema : Schema) (table : Option Table) {keys others : List KeyValue}
    (same : SameBytes keys others) (kind : Kind) :
    (goalOf schema table keys kind).toOption = (goalOf schema table others kind).toOption := by
  have mapped : ∀ computed : Except RouteError (List ShardId),
      (computed.map Goal.all).toOption = computed.toOption.map Goal.all := by
    intro computed
    cases computed <;> rfl
  unfold goalOf
  cases table with
  | none => rfl
  | some table =>
    dsimp only
    rw [same.isEmpty_eq]
    split
    · rfl
    · split
      · rfl
      · rw [mapped, mapped, placed_congr table same]

/-- **A statement goes to the same shards however its keys are spelled.** Let a statement have a condition,
and let literals in it be replaced by others for the same keys, each of them at its place alone. As long as
no conjunction, before or after, binds a key in two spellings, the other statement goes where the first
one goes, or neither goes anywhere. -/
theorem respelled_goal {schema : Schema} {sql respelt : String} {statement : Statement}
    {condition other : Expr} (parsed : Statement.parse sql = .ok statement)
    (has : statement.condition? = some condition) (respelled : condition.Respelled other)
    (parsedOther : Statement.parse respelt = .ok (statement.withCondition other))
    (once : statement.SpelledOnce schema)
    (onceOther : (statement.withCondition other).SpelledOnce schema) (charset : String)
    (kind : Kind) :
    ((route schema respelt charset kind).map Route.goal).toOption =
      ((route schema sql charset kind).map Route.goal).toOption := by
  have hasOther := Statement.insert?_withCondition statement other
  have same := boundKeys_respelled has respelled once onceOther
  rw [Routing.route_goal parsed (Statement.insert?_of_condition? has),
    Routing.route_goal parsedOther (hasOther.trans (Statement.insert?_of_condition? has)),
    Statement.table?_withCondition]
  split
  · exact (Routing.goalOf_sameBytes schema _ same kind).symm
  · rfl

/-- The query for all users of whom a condition holds. -/
def usersWhere (condition : Expr) : Statement :=
  .query
    { body := .select
        { items := ["*"]
          sources := [⟨.table { name := [⟨"users", none⟩] }, []⟩]
          condition := some condition } }

/-- A query for the seventh user goes to one shard of the demo layout, and so it does with the number
written as a text. -/
theorem seventh_user_respelled :
    let sql := "SELECT * FROM users WHERE id IN (7, 9) AND id = 7"
    let respelt := "SELECT * FROM users WHERE id IN ('7', 9) AND id = '7'"
    ∃ (schema : Schema) (statement : Statement) (condition other : Expr),
      Schema.ofLayout (Layout.demo 4) = .ok schema ∧ Statement.parse sql = .ok statement ∧
        statement.condition? = some condition ∧ condition.Respelled other ∧
          Statement.parse respelt = .ok (statement.withCondition other) ∧
            statement.SpelledOnce schema ∧ (statement.withCondition other).SpelledOnce schema ∧
              ((route schema respelt "utf8mb4" .select).map Route.goal).toOption =
                ((route schema sql "utf8mb4" .select).map Route.goal).toOption ∧
              ((route schema sql "utf8mb4" .select).map Route.goal).toOption = some (.all [3]) := by
  intro sql respelt
  let schema := (Schema.ofLayout (Layout.demo 4)).toOption.getD default
  let id := Expr.column [⟨"id", none⟩]
  let seven := Expr.literal (.number "7" false)
  let nine := Expr.literal (.number "9" false)
  let quoted := Expr.literal (.string '\'' "7")
  let condition := Expr.binary (.inList id [seven, nine] false) .and (.binary id .eq seven)
  let other := Expr.binary (.inList id [quoted, nine] false) .and (.binary id .eq quoted)
  have accepted : Schema.ofLayout (Layout.demo 4) = .ok schema :=
    eq_ok_of_isOk (by decide +kernel) default
  have parsed : Statement.parse sql = .ok (usersWhere condition) :=
    eq_ok_of_toOption (by decide +kernel)
  have parsedOther : Statement.parse respelt = .ok ((usersWhere condition).withCondition other) :=
    eq_ok_of_toOption (by decide +kernel)
  have alike : seven.Alike quoted := Or.inr ⟨.integer 7, .text "7", by decide +kernel⟩
  have respelled : condition.Respelled other :=
    .both (.among id false (.cons alike (.cons (Or.inl rfl) .nil))) (.equal (Or.inl rfl) alike)
  have once : (usersWhere condition).SpelledOnce schema := by decide +kernel
  have onceOther : ((usersWhere condition).withCondition other).SpelledOnce schema := by
    decide +kernel
  exact ⟨schema, usersWhere condition, condition, other, accepted, parsed, rfl, respelled, parsedOther,
    once, onceOther, respelled_goal parsed rfl respelled parsedOther once onceOther "utf8mb4" .select,
    by decide +kernel⟩

/-- **A conjunction that spells a key in two ways misses its shard**: of the shards of two users one is
left when one of the users is named by a number first, and then by a text. -/
theorem dropped_by_spelling :
    let sql := "SELECT * FROM users WHERE id IN (7, 9) AND id IN (7, 9)"
    let respelt := "SELECT * FROM users WHERE id IN (7, 9) AND id IN ('7', 9)"
    ∃ (schema : Schema) (statement : Statement) (condition other : Expr),
      Schema.ofLayout (Layout.demo 4) = .ok schema ∧ Statement.parse sql = .ok statement ∧
        statement.condition? = some condition ∧ condition.Respelled other ∧
          Statement.parse respelt = .ok (statement.withCondition other) ∧
            ((route schema sql "utf8mb4" .select).map Route.goal).toOption = some (.all [1, 3]) ∧
              ((route schema respelt "utf8mb4" .select).map Route.goal).toOption =
                some (.all [1]) := by
  intro sql respelt
  let schema := (Schema.ofLayout (Layout.demo 4)).toOption.getD default
  let id := Expr.column [⟨"id", none⟩]
  let seven := Expr.literal (.number "7" false)
  let nine := Expr.literal (.number "9" false)
  let quoted := Expr.literal (.string '\'' "7")
  let both := Expr.inList id [seven, nine] false
  let condition := Expr.binary both .and both
  let other := Expr.binary both .and (.inList id [quoted, nine] false)
  have accepted : Schema.ofLayout (Layout.demo 4) = .ok schema :=
    eq_ok_of_isOk (by decide +kernel) default
  have parsed : Statement.parse sql = .ok (usersWhere condition) :=
    eq_ok_of_toOption (by decide +kernel)
  have parsedOther : Statement.parse respelt = .ok ((usersWhere condition).withCondition other) :=
    eq_ok_of_toOption (by decide +kernel)
  have alike : seven.Alike quoted := Or.inr ⟨.integer 7, .text "7", by decide +kernel⟩
  have respelled : condition.Respelled other :=
    .both (.rest both) (.among id false (.cons alike (.cons (Or.inl rfl) .nil)))
  exact ⟨schema, usersWhere condition, condition, other, accepted, parsed, rfl, respelled, parsedOther,
    by decide +kernel, by decide +kernel⟩

end ScatterGather
