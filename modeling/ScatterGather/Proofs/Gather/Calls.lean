/-
**Calls of a gathering.**

Columns are made known, rows are added, and all of them are taken, as often as one likes and in any order;
columns and rows may be refused:

* `Gathering.call`, `Gathering.after`: what a call is answered with and what it leaves, and what some calls
  leave, **the latest of them first**;
* `known?`, `keysAfter`, `offers`: the columns last made known, the keys to sort by that come of them, and
  the payloads added since rows were last taken, all told **by the answers to the calls**;
* `Holds`, `holds_after`: a gathering holds these keys, and the rows of these payloads, **call by call**;
* `rows_taken` — all rows that were added are taken, **once each and in their order**, and no others.
-/
import ScatterGather.Proofs.Gather.Columns
import ScatterGather.Proofs.Gather.Comparison
import Mathlib.Data.List.Forall2

namespace ScatterGather

open Wire

namespace Gathering

/-! ### Calls and answers -/

/-- A call of a gathering. -/
inductive Call where
  | learn (columns : List (String × Column)) (fieldCount : Nat)
  | add (payload : List UInt8)
  | take
  deriving DecidableEq, Repr

/-- What a call is answered with. -/
inductive Answer where
  | done
  | refused (cause : GatherError)
  | rows (rows : List Row)
  deriving DecidableEq, Repr

/-- The answer to what may fail. -/
def attempt (gathering : Gathering) : Except GatherError Gathering → Answer × Gathering
  | .ok next => (.done, next)
  | .error cause => (.refused cause, gathering)

/-- What a call is answered with, and what it leaves. -/
def call (gathering : Gathering) : Call → Answer × Gathering
  | .learn columns fieldCount => gathering.attempt (gathering.learn columns fieldCount)
  | .add payload => gathering.attempt (gathering.add payload)
  | .take => (.rows gathering.take.1, gathering.take.2)

section History

variable (start : Gathering)

/-- What some calls leave, the latest of which is the first. -/
def after : List Call → Gathering
  | [] => start
  | latest :: earlier => ((after earlier).call latest).2

/-- What a call is answered with after some others. -/
def answer (latest : Call) (earlier : List Call) : Answer :=
  ((start.after earlier).call latest).1

/-- The columns that were last made known, and their number. -/
def known? : List Call → Option (List (String × Column) × Nat)
  | [] => none
  | .learn columns fieldCount :: earlier =>
    if start.answer (.learn columns fieldCount) earlier = .done then some (columns, fieldCount)
    else known? earlier
  | _ :: earlier => known? earlier

/-- The keys to sort by, as the columns that were last made known have them. -/
def keysAfter (calls : List Call) : List SortKey :=
  match start.known? calls with
  | some (columns, _) => keysOf columns start.orderBy
  | none => []

/-- The payloads that were added since the last rows were taken, in order, each with the number of columns
that was known then. -/
def offers : List Call → List (List UInt8 × Option Nat)
  | [] => []
  | .take :: _ => []
  | .add payload :: earlier =>
    if start.answer (.add payload) earlier = .done then
      offers earlier ++ [(payload, (start.known? earlier).map Prod.snd)]
    else offers earlier
  | .learn .. :: earlier => offers earlier

end History

/-- A row is what an added payload is read as. -/
def ReadAs (offer : List UInt8 × Option Nat) (row : Row) : Prop :=
  ∃ count, offer.2 = some count ∧ Row.read offer.1 count = .ok row

/-! ### Single calls -/

/-- A call that is refused changes nothing. -/
theorem call_refused {gathering : Gathering} {latest : Call} {cause : GatherError}
    (refused : (gathering.call latest).1 = .refused cause) :
    (gathering.call latest).2 = gathering := by
  have unchanged : ∀ outcome, (gathering.attempt outcome).1 = .refused cause →
      (gathering.attempt outcome).2 = gathering := by
    intro outcome same
    cases outcome with
    | ok next => cases same
    | error _ => rfl
  cases latest with
  | learn columns fieldCount => exact unchanged _ refused
  | add payload => exact unchanged _ refused
  | take => cases refused

/-- Columns are made known unless an order key names none. -/
theorem call_learn (gathering : Gathering) (columns : List (String × Column)) (fieldCount : Nat) :
    gathering.call (.learn columns fieldCount) =
      match missing? columns gathering.orderBy with
      | some key => (.refused (.unknownOrderColumn key.column), gathering)
      | none => (.done, gathering.learned columns fieldCount) := by
  rw [call, learn_eq]
  cases missing? columns gathering.orderBy <;> rfl

/-- A row is added if it can be read. -/
theorem call_add (gathering : Gathering) (payload : List UInt8) :
    (∃ row, ReadAs (payload, gathering.fieldCount) row ∧ gathering.call (.add payload) =
        (.done, { gathering with rows := gathering.rows ++ [row] })) ∨
      ∃ cause, gathering.call (.add payload) = (.refused cause, gathering) := by
  rw [call]
  rcases gathering.add_eq payload with ⟨count, row, known, read, -, added⟩ | ⟨cause, -, refused⟩
  · exact Or.inl ⟨row, ⟨count, known, read⟩, by rw [added, attempt]⟩
  · exact Or.inr ⟨cause, by rw [refused, attempt]⟩

/-! ### What is held -/

/-- What a gathering holds after some calls. -/
structure Holds (start : Gathering) (calls : List Call) (gathering : Gathering) : Prop where
  orderBy : gathering.orderBy = start.orderBy
  sortKeys : gathering.sortKeys = start.keysAfter calls
  fieldCount : gathering.fieldCount = (start.known? calls).map Prod.snd
  rows : List.Forall₂ ReadAs (start.offers calls) gathering.rows

namespace Holds

variable {start : Gathering} {earlier : List Call}

/-- A call that is refused leaves what was held. -/
theorem refused (holds : Holds start earlier (start.after earlier)) {latest : Call}
    {cause : GatherError} (answered : start.answer latest earlier = .refused cause) :
    Holds start (latest :: earlier) (start.after (latest :: earlier)) := by
  have notDone : start.answer latest earlier ≠ .done := by
    rw [answered]
    exact nofun
  have known : start.known? (latest :: earlier) = start.known? earlier := by
    cases latest with
    | learn columns fieldCount => exact if_neg notDone
    | add payload => rfl
    | take => rfl
  have offered : start.offers (latest :: earlier) = start.offers earlier := by
    cases latest with
    | learn columns fieldCount => rfl
    | add payload => exact if_neg notDone
    | take => cases answered
  rw [after, call_refused answered]
  refine ⟨holds.orderBy, ?_, ?_, offered ▸ holds.rows⟩
  · rw [keysAfter, known]
    exact holds.sortKeys
  · rw [known]
    exact holds.fieldCount

theorem learn (holds : Holds start earlier (start.after earlier))
    (columns : List (String × Column)) (fieldCount : Nat) :
    Holds start (.learn columns fieldCount :: earlier)
      (start.after (.learn columns fieldCount :: earlier)) := by
  have called := (start.after earlier).call_learn columns fieldCount
  cases lacking : missing? columns (start.after earlier).orderBy with
  | some key =>
    rw [lacking] at called
    exact holds.refused (congrArg Prod.fst called)
  | none =>
    rw [lacking] at called
    have known : start.known? (.learn columns fieldCount :: earlier) = some (columns, fieldCount) :=
      if_pos (congrArg Prod.fst called)
    rw [after, called]
    refine ⟨holds.orderBy, ?_, ?_, holds.rows⟩
    · rw [keysAfter, known, learned, holds.orderBy]
    · rw [known]
      rfl

theorem add (holds : Holds start earlier (start.after earlier)) (payload : List UInt8) :
    Holds start (.add payload :: earlier) (start.after (.add payload :: earlier)) := by
  rcases (start.after earlier).call_add payload with ⟨row, read, called⟩ | ⟨cause, called⟩
  · have offered : start.offers (.add payload :: earlier) =
        start.offers earlier ++ [(payload, (start.known? earlier).map Prod.snd)] :=
      if_pos (congrArg Prod.fst called)
    rw [after, called]
    refine ⟨holds.orderBy, holds.sortKeys, holds.fieldCount, ?_⟩
    -- The row is read with the columns known at this call, whatever becomes known later.
    rw [offered, ← holds.fieldCount]
    exact List.rel_append holds.rows (.cons read .nil)
  · exact holds.refused (congrArg Prod.fst called)

theorem take (holds : Holds start earlier (start.after earlier)) :
    Holds start (.take :: earlier) (start.after (.take :: earlier)) :=
  ⟨holds.orderBy, holds.sortKeys, holds.fieldCount, .nil⟩

end Holds

/-- **A gathering holds what its calls were answered with**, from its beginning on. -/
theorem holds_after (window : Window) (orderBy : List OrderKey) (calls : List Call) :
    Holds { window, orderBy } calls (after { window, orderBy } calls) := by
  induction calls with
  | nil => exact ⟨rfl, rfl, rfl, .nil⟩
  | cons latest earlier ih =>
    cases latest with
    | learn columns fieldCount => exact ih.learn columns fieldCount
    | add payload => exact ih.add payload
    | take => exact ih.take

/-! ### What is taken -/

/-- **All rows that were added are taken, and no others.** Whatever the order is and whatever was called
before, a call that is refused changes nothing; as many rows are held as were added since the last were
taken, which are what the added payloads are read as; and when they are taken, each is taken once and none
is left. They come as they were added if there is no key to sort by; otherwise, where the keys that were
last made known order these rows at all, they come in this order, and those that no key tells apart as
they were added. A row comes before another by the first key that tells them apart. -/
theorem rows_taken (window : Window) (orderBy : List OrderKey) (calls : List Call) :
    let start : Gathering := { window, orderBy }
    let left := start.after calls
    let keys := start.keysAfter calls
    (∀ latest cause, start.answer latest calls = .refused cause →
        start.after (latest :: calls) = left) ∧
      left.rows.length = (start.offers calls).length ∧
      List.Forall₂ ReadAs (start.offers calls) left.rows ∧
      (∃ taken, start.answer .take calls = .rows taken ∧ MergedBy keys left.rows taken) ∧
      start.after (.take :: calls) = { left with rows := [] } ∧
      ∀ first second, (compareRows keys first second = .lt ↔ Precedes keys first second) ∧
        (compareRows keys first second = .eq ↔ ∀ key ∈ keys, key.Ties first second) := by
  intro start left keys
  have holds : Holds start calls left := holds_after window orderBy calls
  have merged := left.merged_mergedBy
  rw [holds.sortKeys] at merged
  exact ⟨fun latest cause => call_refused, holds.rows.length_eq.symm, holds.rows,
    ⟨left.merged, rfl, merged⟩, rfl, fun first second => ⟨compareRows_eq_lt, compareRows_eq_eq⟩⟩

/-- Between a two and a one that are added, columns without the one to sort by and a row that is cut off
are refused; then the one is taken before the two. -/
theorem one_and_two_taken :
    let start : Gathering := { window := {}, orderBy := [⟨"ID", true⟩] }
    let row := fun digit : UInt8 => Row.mk [some [digit]]
    let unnamed := Call.learn [("NAME", ⟨0, 0xfd⟩)] 1
    let before : List Call := [.add [0x01, 0x32], .learn [("ID", ⟨0, 0x03⟩)] 1]
    let calls : List Call := .add [0x01, 0x31] :: .add [0x02, 0x31] :: unnamed :: before
    start.answer unnamed before = .refused (.unknownOrderColumn "ID") ∧
      start.after (unnamed :: before) = start.after before ∧
      TotalOn (compareRows (start.keysAfter calls)) (start.after calls).rows ∧
      (start.after calls).rows = [row 0x32, row 0x31] ∧
      MergedBy (start.keysAfter calls) [row 0x32, row 0x31] [row 0x31, row 0x32] := by
  intro start row unnamed before calls
  obtain ⟨refused, keys, rows, answered⟩ :
      start.answer unnamed before = .refused (.unknownOrderColumn "ID") ∧
        start.keysAfter calls = [⟨⟨0, 0x03⟩, true⟩] ∧
          (start.after calls).rows = [row 0x32, row 0x31] ∧
            start.answer .take calls = .rows [row 0x31, row 0x32] := by
    decide +kernel
  have unchanged := (rows_taken {} [⟨"ID", true⟩] before).1 unnamed _ refused
  obtain ⟨-, -, -, ⟨taken, given, merged⟩, -, -⟩ := rows_taken {} [⟨"ID", true⟩] calls
  obtain rfl : taken = [row 0x31, row 0x32] := Answer.rows.inj (given.symm.trans answered)
  have total : TotalOn (compareRows (start.keysAfter calls)) (start.after calls).rows := by
    rw [keys, rows]
    exact totalOn_compareRows (List.forall_mem_singleton.mpr fun _ => ⟨.number, by decide +kernel⟩)
  exact ⟨refused, unchanged, total, rows, rows ▸ merged⟩

end Gathering

end ScatterGather
