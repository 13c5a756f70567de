/-
**Columns made known, and rows read by them.**

A merged result can be ordered once the names of its columns are known, and a row can be read once
their number is. Both can fail, and then nothing changes:

* `keysOf`, `missing?`: the columns to sort by, and the first order key that names no column;
* `learn_eq` — columns are refused for the first order key **without a column, and for nothing else**;
* `Coordinator.misfit?`, `Coordinator.onFields_eq`: why the columns a shard sends do not fit, and what
  becomes known if they do;
* `refused?`, `add_eq` — a row is refused if it comes before the columns or cannot be read.
-/
import ScatterGather.Reply.Coordinator

namespace ScatterGather

open Wire

namespace Gathering

/-! ### Columns to sort by -/

/-- The columns that an order means, as far as they are known. -/
def keysOf (columns : List (String × Column)) (orderBy : List OrderKey) : List SortKey :=
  orderBy.filterMap fun key =>
    (lookup? columns key.column).map fun column => ⟨column, key.ascending⟩

/-- The first order key that names no column. -/
def missing? (columns : List (String × Column)) (orderBy : List OrderKey) : Option OrderKey :=
  orderBy.find? fun key => (lookup? columns key.column).isNone

theorem missing?_cons (columns : List (String × Column)) (key : OrderKey) (rest : List OrderKey) :
    missing? columns (key :: rest) =
      if (lookup? columns key.column).isNone then some key else missing? columns rest := by
  unfold missing?
  rw [List.find?_cons]
  cases (lookup? columns key.column).isNone <;> rfl

/-- All order keys are resolved, or the first without a column is told. -/
theorem mapM_resolve (columns : List (String × Column)) (orderBy : List OrderKey) :
    orderBy.mapM (resolve columns) =
      match missing? columns orderBy with
      | some key => .error (.unknownOrderColumn key.column)
      | none => .ok (keysOf columns orderBy) := by
  induction orderBy with
  | nil => rfl
  | cons key rest ih =>
    rw [List.mapM_cons, ih, missing?_cons]
    cases found : lookup? columns key.column with
    | none =>
      simp only [resolve, found]
      rfl
    | some column =>
      simp only [resolve, found, keysOf, List.filterMap_cons, Option.map_some]
      cases missing? columns rest <;> rfl

/-- What is known once columns are. -/
def learned (gathering : Gathering) (columns : List (String × Column)) (fieldCount : Nat) :
    Gathering :=
  { gathering with sortKeys := keysOf columns gathering.orderBy, fieldCount := some fieldCount }

/-- **Columns are refused for an order key without a column, and for nothing else.** -/
theorem learn_eq (gathering : Gathering) (columns : List (String × Column)) (fieldCount : Nat) :
    gathering.learn columns fieldCount =
      match missing? columns gathering.orderBy with
      | some key => .error (.unknownOrderColumn key.column)
      | none => .ok (gathering.learned columns fieldCount) := by
  rw [learn, mapM_resolve]
  cases missing? columns gathering.orderBy <;> rfl

/-! ### Rows -/

/-- Why a row is refused, where `fieldCount` columns are known. -/
def refused? (fieldCount : Option Nat) (payload : List UInt8) : Option String :=
  match fieldCount with
  | none => some "rows offered before the column layout was known"
  | some count =>
    match Row.read payload count with
    | .ok _ => none
    | .error cause => some ("malformed row: " ++ cause.message)

/-- A row that is not refused is added behind the others. -/
theorem add_of_read {gathering : Gathering} {payload : List UInt8} {count : Nat} {row : Row}
    (known : gathering.fieldCount = some count) (read : Row.read payload count = .ok row) :
    gathering.add payload = .ok { gathering with rows := gathering.rows ++ [row] } := by
  simp only [add, known, read]

/-- **What becomes of a row**: it is read and added, or refused. -/
theorem add_eq (gathering : Gathering) (payload : List UInt8) :
    (∃ count row, gathering.fieldCount = some count ∧ Row.read payload count = .ok row ∧
        refused? gathering.fieldCount payload = none ∧
        gathering.add payload = .ok { gathering with rows := gathering.rows ++ [row] }) ∨
      ∃ cause, refused? gathering.fieldCount payload = some (GatherError.message cause) ∧
        gathering.add payload = .error cause := by
  cases known : gathering.fieldCount with
  | none => exact Or.inr ⟨.notInitialized, rfl, by simp only [add, known]⟩
  | some count =>
    cases read : Row.read payload count with
    | ok row =>
      refine Or.inl ⟨count, row, rfl, read, ?_, ?_⟩
      · simp only [refused?, read]
      · rw [add_of_read known read, known]
    | error cause =>
      refine Or.inr ⟨.row cause, ?_, ?_⟩
      · simp only [refused?, read]
        rfl
      · simp only [add, known, read]

end Gathering

/-! ### Columns as shards send them -/

namespace Coordinator

/-- Why columns do not fit an order: one of them cannot be read, or an order key names none. -/
def misfit? (orderBy : List OrderKey) (fields : List Packet) : Option String :=
  match columnsOf fields with
  | .error cause => some ("malformed field packet: " ++ cause.message)
  | .ok columns =>
    (Gathering.missing? columns orderBy).map fun key =>
      s!"ORDER BY column {key.column} is not in the result"

/-- The columns to sort by, if the columns can be read. -/
def sortKeysOf (orderBy : List OrderKey) (fields : List Packet) : List SortKey :=
  match columnsOf fields with
  | .error _ => []
  | .ok columns => Gathering.keysOf columns orderBy

/-- What is known once columns are taken in that fit. -/
def knowing (state : Coordinator) (set : FieldSet) : Coordinator :=
  let sortKeys := sortKeysOf state.gathering.orderBy set.fields
  { state with
    gathering := { state.gathering with sortKeys, fieldCount := some set.fields.length }
    fields := some set }

/-- **Columns that fit become known**, and others change nothing. -/
theorem setFields_eq (state : Coordinator) (set : FieldSet) :
    state.setFields set =
      match misfit? state.gathering.orderBy set.fields with
      | some text => .error text
      | none => .ok (state.knowing set) := by
  cases read : columnsOf set.fields with
  | error cause => simp only [setFields, misfit?, read]
  | ok columns =>
    simp only [setFields, misfit?, read, Gathering.learn_eq]
    cases lacking : Gathering.missing? columns state.gathering.orderBy with
    | some key => rfl
    | none =>
      simp only [Option.map_none, knowing, sortKeysOf, read, Gathering.learned]

/-- **The first columns count**, as long as nothing has failed. -/
theorem onFields_eq (state : Coordinator) (set : FieldSet) (connection : Connection) :
    state.onFields set connection =
      if state.failed || state.fieldsSeen then (state, [])
      else
        match misfit? state.gathering.orderBy set.fields with
        | some text =>
          (failWith { state with fieldsSeen := true } text, [.release connection])
        | none => (knowing { state with fieldsSeen := true } set, []) := by
  unfold onFields
  split
  · rfl
  · simp only [setFields_eq]
    cases misfit? state.gathering.orderBy set.fields <;> rfl

end Coordinator

end ScatterGather
