/-
**Rows that a statement writes out.**

An insertion that writes its rows out writes out at least one, and so an insertion without rows never
has to be split. That is a law of the reader of statements, and comes down to how its rules are made of
one another:

* `Gives`: a reader gives nothing but values of some kind, with one law for each way to make a reader
  of others;
* `HasRows`: bodies, insertions and statements in which no rows are written out without there being
  one;
* `query_gives`, `statement_gives` — queries and statements **have rows** at every depth;
* `rows_of_parse` — so has **every insertion that a text is**.
-/
import ScatterGather.Proofs.Sequence
import ScatterGather.Sql.Parse

namespace ScatterGather.Sql

namespace Parser

/-! ### What readers give -/

/-- A reader gives nothing but values of some kind. -/
def Gives {α : Type} (reader : Parser α) (kind : α → Prop) : Prop :=
  ∀ tokens found rest, reader tokens = .ok (found, rest) → kind found

namespace Gives

variable {α β : Type} {reader : Parser α} {next : α → Parser β} {kind : α → Prop}
  {result : β → Prop}

protected theorem bind (gives : Gives reader kind)
    (continues : ∀ found, kind found → Gives (next found) result) :
    Gives (reader >>= next) result := by
  intro tokens found rest given
  obtain ⟨first, read, given⟩ := bind_eq_ok.mp given
  exact continues first.1 (gives tokens first.1 first.2 read) first.2 found rest given

/-- A reader that goes on behind another one, whatever that gives. -/
theorem behind (continues : ∀ found, Gives (next found) result) :
    Gives (reader >>= next) result := by
  have any : Gives reader fun _ => True := fun _ _ _ _ => trivial
  exact any.bind fun found _ => continues found

protected theorem pure {found : α} (isKind : kind found) : Gives (pure found) kind := by
  intro tokens other rest given
  obtain rfl : found = other := congrArg Prod.fst (Except.ok.inj given)
  exact isKind

protected theorem map {function : α → β} (gives : Gives reader kind)
    (turns : ∀ found, kind found → result (function found)) :
    Gives (function <$> reader) result :=
  gives.bind fun found isKind => Gives.pure (turns found isKind)

protected theorem refuse : Gives refuse kind :=
  fun _ _ _ given => nomatch given

protected theorem ite {condition : Prop} [Decidable condition] {first second : Parser α}
    (yes : Gives first kind) (no : Gives second kind) :
    Gives (if condition then first else second) kind := by
  split
  · exact yes
  · exact no

/-- Items with commas between them are one at least. -/
theorem commaSeparated (item : Parser α) : Gives (commaSeparated item) (· ≠ []) :=
  behind fun _ => behind fun _ => Gives.pure (List.cons_ne_nil _ _)

end Gives

end Parser

/-! ### Rows written out -/

/-- No rows are written out in a body without there being one. -/
def Body.HasRows : Body → Prop
  | .values _ rows => rows ≠ []
  | _ => True

/-- No rows are written out in an insertion without there being one. -/
def Insert.HasRows (insert : Insert) : Prop :=
  ∀ query ∈ insert.source, query.body.HasRows

/-- No rows are written out in an insertion into a table without there being one. -/
def Insertion.HasRows : Insertion → Prop
  | .table insert => insert.HasRows
  | .directory _ => True

/-- No rows are written out in a statement without there being one. -/
def Statement.HasRows : Statement → Prop
  | .insert written => written.HasRows
  | _ => True

namespace Parser

/-! ### Queries -/

/-- Bodies between set operators are a body of the same kind, or one of another kind. -/
theorem combined_gives {part : Parser Body} (gives : Gives part Body.HasRows)
    (operators : List String) : Gives (combined operators part) Body.HasRows := by
  have joined : ∀ (rest : List (String × Body)) (first : Body), first.HasRows →
      (rest.foldl (fun left joined => .combined left joined.1 joined.2) first).HasRows := by
    intro rest
    induction rest with
    | nil => exact fun _ hasRows => hasRows
    | cons next rest ih => exact fun _ _ => ih _ trivial
  exact gives.bind fun first hasRows => Gives.behind fun rest => Gives.pure (joined rest first hasRows)

theorem rows_gives (grammar : Grammar) : Gives (rows grammar) Body.HasRows :=
  (Gives.commaSeparated _).bind fun _ some => Gives.pure fun none => some (List.map_eq_nil_iff.mp none)

theorem simpleBody_gives (grammar : Grammar) : Gives (simpleBody grammar) Body.HasRows := by
  unfold simpleBody tableRows
  repeat first
    | exact rows_gives grammar
    | exact Gives.pure trivial
    | exact Gives.refuse
    | refine Gives.ite ?_ ?_
    | refine Gives.behind fun _ => ?_
    | split

/-- **A query has rows** if it writes any out. -/
theorem query_gives (grammar : Grammar) : Gives (query grammar) fun query => query.body.HasRows := by
  have body : Gives (body grammar) Body.HasRows :=
    combined_gives (combined_gives (simpleBody_gives grammar) _) _
  refine Gives.behind fun _ => Gives.behind fun _ => Gives.ite ?_ ?_
  · exact Gives.behind fun _ => Gives.pure trivial
  · refine Gives.behind fun _ => Gives.ite ?_ ?_
    · exact Gives.behind fun _ => Gives.pure trivial
    · exact body.bind fun _ hasRows => Gives.behind fun _ => Gives.pure hasRows

/-! ### Statements -/

section Statements

variable {grammar : Grammar} (queries : Gives grammar.query fun query => query.body.HasRows)

include queries

theorem insertionInTable_gives (opening : String) :
    Gives (insertionInTable grammar opening) Insertion.HasRows := by
  have noSource : ∀ {insert : Insert}, insert.source = none → insert.HasRows := by
    intro insert none query inside
    rw [none] at inside
    cases inside
  have sourced : ∀ (table : List Ident) (columns : List Ident) (partition : Option String),
      Gives (do
        let source ← grammar.query
        return .table { opening, table, columns, partition, source
                        clauses := ← insertClauses grammar }) Insertion.HasRows := by
    refine fun table columns partition => queries.bind fun query hasRows => Gives.behind fun _ => ?_
    refine Gives.pure fun other isSource => ?_
    obtain rfl := Option.some.inj isSource
    exact hasRows
  refine Gives.behind fun _ => Gives.behind fun _ => Gives.ite ?_ ?_
  · exact Gives.behind fun _ => Gives.pure (noSource rfl)
  -- Whatever is read before the rows does not matter to them.
  · repeat first
      | exact sourced _ _ _
      | refine Gives.ite ?_ ?_
      | refine Gives.behind fun _ => ?_
      | dsimp only

theorem insertion_gives (verb : String) : Gives (insertion grammar verb) Insertion.HasRows := by
  unfold insertion insertionInFiles
  repeat first
    | exact insertionInTable_gives queries _
    | exact Gives.pure trivial
    | refine Gives.ite ?_ ?_
    | refine Gives.behind fun _ => ?_
    | split

/-- **Every rule gives statements that have rows**, and all but one give no insertion at all. -/
theorem statementOf_gives (keyword : String) :
    Gives (statementOf grammar keyword) Statement.HasRows := by
  have insertions : ∀ verb : String,
      Gives (ofInsertion <$> insertion grammar verb) Statement.HasRows := fun verb => by
    refine (insertion_gives queries verb).map fun insertion hasRows => ?_
    cases insertion with
    | table insert => exact hasRows
    | directory spelling => trivial
  unfold statementOf
  split
  · exact insertions "INSERT"
  · exact insertions "REPLACE"
  · exact Gives.behind fun _ => Gives.pure trivial
  · exact Gives.behind fun _ => Gives.pure trivial
  -- The rules of all other statements end with a statement of another kind.
  all_goals
    first
    | unfold create createTable createView createPolicy createExternalTable createSecret createNew
        createExtension createIndex createVirtualTable createSchema createDatabase createRole
        createSequence createType createProcedure
    | unfold alter alterTable alterView alterIndex alterPolicy
    | unfold drop dropFunctions dropPolicy dropSecret dropNamed
    | unfold merge | unfold truncate | unfold explain | unfold showStatement | unfold setStatement
    | unfold useStatement | unfold begin | unfold start | unfold commit | unfold rollback
    | unfold savepoint | unfold release | unfold callStatement | unfold kill | unfold grant
    | unfold revoke | unfold declareCursor | unfold fetchRows | unfold closeCursor | unfold prepare
    | unfold execute | unfold deallocate | unfold copy | unfold unload | unfold flush
    | unfold analyze | unfold repair | unfold assert | unfold cache | unfold uncache
    | unfold discard | unfold attach | unfold pragma | exact Gives.refuse
  all_goals
    repeat first
    | refine Gives.ite ?_ ?_
    | refine Gives.behind fun _ => ?_
    | exact Gives.pure trivial
    | exact Gives.pure (by split <;> trivial)
    | exact Gives.refuse
    | split
    | dsimp only

/-- Statements have rows if the queries of the depth below have. -/
theorem statement_gives : Gives (statement grammar) Statement.HasRows := by
  unfold statement lockTables
  repeat first
    | exact statementOf_gives queries _
    | refine Gives.ite ?_ ?_
    | refine Gives.behind fun _ => ?_
    | exact Gives.pure trivial

end Statements

/-- **Queries and statements have rows** at every depth. -/
theorem atDepth_gives (depth : Nat) :
    Gives (Grammar.atDepth depth).query (fun query => query.body.HasRows) ∧
      Gives (Grammar.atDepth depth).statement Statement.HasRows := by
  induction depth with
  | zero => exact ⟨(fun _ _ _ given => nomatch given), (fun _ _ _ given => nomatch given)⟩
  | succ depth ih => exact ⟨query_gives _, statement_gives ih.1⟩

/-- Statements one after the other are of the kind that each of them is. -/
theorem statementsWithin_gives {grammar : Grammar} {kind : Statement → Prop}
    (gives : Gives grammar.statement kind) (rounds : Nat) :
    ∀ ended, Gives (statementsWithin grammar rounds ended) fun found => ∀ each ∈ found, kind each := by
  induction rounds with
  | zero => exact fun _ => Gives.pure fun _ inside => absurd inside List.not_mem_nil
  | succ rounds ih =>
    intro ended
    unfold statementsWithin
    refine Gives.behind fun _ => Gives.behind fun _ => ?_
    split
    · exact Gives.pure fun _ inside => absurd inside List.not_mem_nil
    · refine Gives.ite (gives.bind fun first isKind => (ih false).bind fun rest areKind => ?_) ?_
      · exact Gives.pure (List.forall_mem_cons.mpr ⟨isKind, areKind⟩)
      · split
        · exact Gives.pure fun _ inside => absurd inside List.not_mem_nil
        · exact Gives.refuse

end Parser

/-! ### Texts -/

namespace Statement

/-- **Every statement that a text is has rows.** -/
theorem hasRows_of_parse {text : String} {statement : Statement}
    (parsed : parse text = .ok statement) : statement.HasRows := by
  have all : Parser.Gives (Parser.statements (Grammar.atDepth maxDepth))
      fun found => ∀ each ∈ found, each.HasRows :=
    Parser.Gives.behind fun _ => Parser.statementsWithin_gives (Parser.atDepth_gives maxDepth).2 _ _
  unfold parse at parsed
  split at parsed
  · cases parsed
  · next found whole =>
    obtain rfl := Except.ok.inj parsed
    obtain ⟨tokens, -, whole⟩ := bind_eq_ok.mp whole
    obtain ⟨result, read, given⟩ := bind_eq_ok.mp whole
    have only : result.1 = [found] := Except.ok.inj given
    refine all tokens result.1 result.2 read found ?_
    rw [only]
    exact List.mem_cons_self
  · cases parsed

/-- **An insertion that writes its rows out has some.** -/
theorem rows_of_parse {text : String} {insert : Insert}
    (parsed : parse text = .ok (.insert insert)) {preamble : Option String} {explicitRow : Bool}
    {rows : List (List Expr)} {tail : Tail}
    (source : insert.source = some ⟨preamble, .values explicitRow rows, tail⟩) : rows ≠ [] := by
  have hasRows : insert.HasRows := hasRows_of_parse parsed
  exact hasRows _ source

end Statement

end ScatterGather.Sql
