/-
**How rows compare.**

Texts of a numeric column are compared as numbers where both of them spell one, and as bytes where one
does not; and NaN, which is a number by its name alone, is like every number. Each of these orders is a
total preorder, but all of them together are not:

* `TotalOn.then`, `totalOn_of_agrees`: total preorders on some rows, two of them one after the other, and
  what agrees with a total preorder of all rows;
* `nullFirst`, `SortKey.compareBy`: NULL and the direction, **whatever the order of the texts is**;
* `Spelling`, `compareAs`, `compareNumerals_eq`: the texts of a numeric column by what they spell, and the
  order of those that spell the same;
* `SortKey.Alike`, `totalOn_compareRows`: rows whose texts spell the same, column by column, **are in order
  by all columns**;
* `SortKey.Puts`, `SortKey.Ties`, `Precedes`: the order of rows in words, the first key that tells them apart;
* `rows_compared` — the order **turns around with any rows**, and is transitive on those;
* `two_before_one`: which it is not where NaN is among numbers.
-/
import ScatterGather.Proofs.Gather.StableSort
import ScatterGather.Proofs.Number.Ranked

namespace ScatterGather

open Wire

/-! ### Total preorders on some rows -/

section Total

variable {order other : Row → Row → Ordering} {rows : List Row}

/-- A total preorder on some rows is one on the rows by themselves. -/
theorem totalOn_iff_transCmp : TotalOn order rows ↔
    Std.TransCmp fun a b : {row // row ∈ rows} => order a.1 b.1 := by
  constructor
  · intro total
    have : Std.OrientedCmp fun a b : {row // row ∈ rows} => order a.1 b.1 :=
      ⟨fun {a b} => total.swap b.1 b.2 a.1 a.2⟩
    exact ⟨fun {a b c} => total.trans a.1 a.2 b.1 b.2 c.1 c.2⟩
  · intro lawful
    refine ⟨fun a inA b inB => lawful.eq_swap (a := ⟨b, inB⟩) (b := ⟨a, inA⟩), ?_⟩
    intro a inA b inB c inC
    exact lawful.isLE_trans (a := ⟨a, inA⟩) (b := ⟨b, inB⟩) (c := ⟨c, inC⟩)

/-- Two orders one after the other: the second tells apart what the first does not. -/
theorem TotalOn.then (first : TotalOn order rows) (second : TotalOn other rows) :
    TotalOn (fun a b => (order a b).then (other a b)) rows := by
  -- Lexicographic orders are known to be transitive on whole types, of which the rows at hand make one.
  rw [totalOn_iff_transCmp] at first second ⊢
  exact inferInstanceAs (Std.TransCmp (compareLex
    (fun a b : {row // row ∈ rows} => order a.1 b.1) fun a b => other a.1 b.1))

/-- An order that is on some rows the same as a total preorder. -/
theorem totalOn_of_agrees (other : Row → Row → Ordering) [lawful : Std.TransCmp other]
    (agrees : ∀ a ∈ rows, ∀ b ∈ rows, order a b = other a b) : TotalOn order rows := by
  constructor
  · intro a inA b inB
    rw [agrees b inB a inA, agrees a inA b inB]
    exact lawful.eq_swap
  · intro a inA b inB c inC
    rw [agrees a inA b inB, agrees b inB c inC, agrees a inA c inC]
    exact lawful.isLE_trans

end Total

/-! ### NULL and the direction -/

/-- An order of texts with NULL before all of them. -/
def nullFirst (texts : List UInt8 → List UInt8 → Ordering) :
    Option (List UInt8) → Option (List UInt8) → Ordering
  | none, none => .eq
  | none, some _ => .lt
  | some _, none => .gt
  | some left, some right => texts left right

section NullFirst

variable {texts : List UInt8 → List UInt8 → Ordering}

instance [oriented : Std.OrientedCmp texts] : Std.OrientedCmp (nullFirst texts) where
  eq_swap {left right} := by
    cases left <;> cases right
    case some.some => exact oriented.eq_swap
    all_goals rfl

instance [lawful : Std.TransCmp texts] : Std.TransCmp (nullFirst texts) where
  isLE_trans {left middle right} first second := by
    cases left <;> cases middle <;> cases right
    case some.some.some => exact lawful.isLE_trans first second
    all_goals first | rfl | cases first | cases second

end NullFirst

namespace SortKey

/-- The order of two rows by one column, where the order of its texts is given. -/
def compareBy (key : SortKey) (texts : List UInt8 → List UInt8 → Ordering) (left right : Row) :
    Ordering :=
  let order := nullFirst texts (cell left key.column) (cell right key.column)
  if key.ascending then order else order.swap

/-- The order of the texts of a column. -/
def texts (column : Column) : List UInt8 → List UInt8 → Ordering :=
  if column.isNumeric then compareNumerals else compareBytes

theorem compare_eq (key : SortKey) : key.compare = key.compareBy (texts key.column) := by
  have cells : ∀ left right, compareCells key.column left right =
      nullFirst (texts key.column) left right := by
    intro left right
    cases left <;> cases right
    case some.some =>
      simp only [compareCells, nullFirst, texts]
      split <;> rfl
    all_goals rfl
  funext left right
  rw [compare, cells]
  rfl

section Direction

variable (key : SortKey) {order other : List UInt8 → List UInt8 → Ordering}

theorem compareBy_congr {left right : Row} (same : ∀ bytes others, cell left key.column = some bytes →
    cell right key.column = some others → order bytes others = other bytes others) :
    key.compareBy order left right = key.compareBy other left right := by
  have cells : nullFirst order (cell left key.column) (cell right key.column) =
      nullFirst other (cell left key.column) (cell right key.column) := by
    cases isLeft : cell left key.column <;> cases isRight : cell right key.column
    case some.some => exact same _ _ isLeft isRight
    all_goals rfl
  rw [compareBy, cells, compareBy]

instance [Std.OrientedCmp order] : Std.OrientedCmp (key.compareBy order) where
  eq_swap {left right} := by
    have swapped : nullFirst order (cell left key.column) (cell right key.column) =
        (nullFirst order (cell right key.column) (cell left key.column)).swap :=
      Std.OrientedCmp.eq_swap
    unfold compareBy
    split
    · exact swapped
    · exact congrArg Ordering.swap swapped

instance [Std.TransCmp order] : Std.TransCmp (key.compareBy order) where
  isLE_trans {left middle right} first second := by
    by_cases ascending : key.ascending = true
    · simp only [compareBy, ascending, if_true] at first second ⊢
      exact Std.TransCmp.isLE_trans first second
    · have turned : ∀ a b, key.compareBy order a b =
          nullFirst order (cell b key.column) (cell a key.column) := by
        intro a b
        rw [compareBy, if_neg ascending]
        exact Std.OrientedCmp.eq_swap.symm
      rw [turned] at first second ⊢
      exact Std.TransCmp.isLE_trans second first

end Direction

end SortKey

/-! ### Texts -/

instance : Std.TransCmp compareBytes := by
  have same : compareBytes = List.compareLex compare := by
    funext left right
    induction left generalizing right with
    | nil => cases right <;> rfl
    | cons byte rest ih =>
      cases right with
      | nil => rfl
      | cons other others => rw [compareBytes, ih, List.compareLex_cons_cons]
  exact same ▸ inferInstance

/-- What a text spells, as far as its order is concerned. -/
inductive Spelling where
  | number
  | nan
  | other
  deriving DecidableEq, Repr

/-- What a text spells. -/
def Spelling.of (bytes : List UInt8) : Spelling :=
  match numeral? bytes with
  | some .nan => .nan
  | some _ => .number
  | none => .other

/-- The rank of the number that a text spells. -/
def rankOf (bytes : List UInt8) : WithBot (WithTop ℚ) :=
  ((numeral? bytes).getD .nan).rank

/-- The order of texts that spell the same. -/
def compareAs : Spelling → List UInt8 → List UInt8 → Ordering
  | .number => compareOn rankOf
  | .nan => fun _ _ => .eq
  | .other => compareBytes

instance (spelling : Spelling) : Std.TransCmp (compareAs spelling) := by
  cases spelling with
  | number => exact inferInstanceAs (Std.TransCmp (compareOn rankOf))
  | nan => exact { eq_swap := rfl, isLE_trans := fun _ _ => rfl }
  | other => exact inferInstanceAs (Std.TransCmp compareBytes)

theorem Spelling.of_eq_number {bytes : List UInt8} :
    Spelling.of bytes = .number ↔ ∃ value, value ≠ .nan ∧ numeral? bytes = some value := by
  unfold Spelling.of
  split <;> simp_all

theorem Spelling.of_eq_nan {bytes : List UInt8} :
    Spelling.of bytes = .nan ↔ numeral? bytes = some .nan := by
  unfold Spelling.of
  split <;> simp_all

theorem Spelling.of_eq_other {bytes : List UInt8} :
    Spelling.of bytes = .other ↔ numeral? bytes = none := by
  unfold Spelling.of
  split <;> simp_all

/-- **Texts that spell the same** are ordered by their numbers, not at all, or as bytes. -/
theorem compareNumerals_eq {left right : List UInt8} {spelling : Spelling}
    (isLeft : Spelling.of left = spelling) (isRight : Spelling.of right = spelling) :
    compareNumerals left right = compareAs spelling left right := by
  cases spelling with
  | number =>
    obtain ⟨value, isNumber, spelled⟩ := Spelling.of_eq_number.mp isLeft
    obtain ⟨other, otherNumber, otherSpelled⟩ := Spelling.of_eq_number.mp isRight
    simp only [compareNumerals, compareAs, compareOn, rankOf, spelled, otherSpelled,
      Binary64.compare?_eq_rank isNumber otherNumber, Option.getD_some]
  | nan =>
    simp only [compareNumerals, compareAs, Spelling.of_eq_nan.mp isLeft,
      Spelling.of_eq_nan.mp isRight, Binary64.compare?_nan_left, Option.getD_none]
  | other =>
    simp only [compareNumerals, compareAs, Spelling.of_eq_other.mp isLeft]

/-- Texts turn around whatever they spell. -/
instance : Std.OrientedCmp compareNumerals where
  eq_swap {left right} := by
    have bytes : compareBytes left right = (compareBytes right left).swap := Std.OrientedCmp.eq_swap
    unfold compareNumerals
    cases numeral? left with
    | none => cases numeral? right <;> exact bytes
    | some value =>
      cases numeral? right with
      | none => exact bytes
      | some other =>
        simp only [Binary64.compare?_swap other value]
        cases Binary64.compare? other value <;> rfl

instance (column : Column) : Std.OrientedCmp (SortKey.texts column) := by
  unfold SortKey.texts
  split <;> infer_instance

/-! ### Rows -/

/-- If a column is numeric, the texts that some rows have in it spell numbers, all of them, or all of them
NaN, or none of them either. -/
def SortKey.Alike (key : SortKey) (rows : List Row) : Prop :=
  key.column.isNumeric = true → ∃ spelling, ∀ row ∈ rows, ∀ bytes ∈ SortKey.cell row key.column,
    Spelling.of bytes = spelling

/-- **Rows are ordered by a column** in which their cells are alike. -/
theorem SortKey.Alike.totalOn {key : SortKey} {rows : List Row} (alike : key.Alike rows) :
    TotalOn key.compare rows := by
  rw [key.compare_eq, texts]
  split
  · next numeric =>
    -- Texts of several spellings have no order in common, so it is that of the texts in these rows alone.
    obtain ⟨spelling, spelled⟩ := alike numeric
    refine totalOn_of_agrees (key.compareBy (compareAs spelling)) ?_
    exact fun a inA b inB => key.compareBy_congr fun bytes others isA isB =>
      compareNumerals_eq (spelled a inA bytes isA) (spelled b inB others isB)
  · exact totalOn_of_agrees (key.compareBy compareBytes) fun _ _ _ _ => rfl

/-- **Rows are ordered by several columns** in each of which their cells are alike. -/
theorem totalOn_compareRows {keys : List SortKey} {rows : List Row}
    (alike : ∀ key ∈ keys, key.Alike rows) : TotalOn (compareRows keys) rows := by
  induction keys with
  | nil => exact totalOn_unordered rows
  | cons key rest ih =>
    obtain ⟨here, later⟩ := List.forall_mem_cons.mp alike
    exact here.totalOn.then (ih later)

instance (keys : List SortKey) : Std.OrientedCmp (compareRows keys) := by
  induction keys with
  | nil => exact ⟨rfl⟩
  | cons key rest ih =>
    have first : Std.OrientedCmp key.compare := key.compare_eq ▸ inferInstance
    exact inferInstanceAs (Std.OrientedCmp (compareLex key.compare (compareRows rest)))

/-! ### The order in words -/

namespace SortKey

variable (key : SortKey) (first second : Row)

/-- The cell of a row comes before that of another: it is NULL or missing and the other is not, or its
text comes before the other text. -/
def CellBefore : Prop :=
  match cell first key.column, cell second key.column with
  | none, some _ => True
  | some text, some other => texts key.column text other = .lt
  | _, none => False

/-- A key puts a row before another. -/
def Puts : Prop :=
  if key.ascending then key.CellBefore first second else key.CellBefore second first

/-- A key does not tell two rows apart. -/
def Ties : Prop :=
  match cell first key.column, cell second key.column with
  | none, none => True
  | some text, some other => texts key.column text other = .eq
  | _, _ => False

theorem nullFirst_eq_lt : nullFirst (texts key.column) (cell first key.column)
    (cell second key.column) = .lt ↔ key.CellBefore first second := by
  unfold CellBefore
  cases cell first key.column <;> cases cell second key.column <;> simp [nullFirst]

theorem compare_eq_lt : key.compare first second = .lt ↔ key.Puts first second := by
  rw [key.compare_eq, compareBy, Puts]
  split
  · exact key.nullFirst_eq_lt first second
  · rw [← Std.OrientedCmp.eq_swap]
    exact key.nullFirst_eq_lt second first

theorem compare_eq_eq : key.compare first second = .eq ↔ key.Ties first second := by
  have cells : nullFirst (texts key.column) (cell first key.column) (cell second key.column) = .eq ↔
      key.Ties first second := by
    unfold Ties
    cases cell first key.column <;> cases cell second key.column <;> simp [nullFirst]
  rw [key.compare_eq, compareBy]
  split
  · exact cells
  · rw [Ordering.swap_eq_eq]
    exact cells

end SortKey

/-- A row comes before another by some keys: the first that tells them apart puts it there. -/
def Precedes : List SortKey → Row → Row → Prop
  | [], _, _ => False
  | key :: rest, first, second =>
    key.Puts first second ∨ key.Ties first second ∧ Precedes rest first second

theorem compareRows_eq_lt {keys : List SortKey} {first second : Row} :
    compareRows keys first second = .lt ↔ Precedes keys first second := by
  induction keys with
  | nil => exact ⟨nofun, nofun⟩
  | cons key rest ih =>
    rw [compareRows, Ordering.then_eq_lt, key.compare_eq_lt, key.compare_eq_eq, ih, Precedes]

theorem compareRows_eq_eq {keys : List SortKey} {first second : Row} :
    compareRows keys first second = .eq ↔ ∀ key ∈ keys, key.Ties first second := by
  induction keys with
  | nil => exact ⟨fun _ => nofun, fun _ => rfl⟩
  | cons key rest ih =>
    rw [compareRows, Ordering.then_eq_eq, key.compare_eq_eq, ih, List.forall_mem_cons]

/-! ### Three rows -/

/-- **How three rows compare.** Whatever bytes are in their cells, the order of two rows by some columns
turns around with them, and no row is told apart from itself. If in every numeric column the texts of
three rows spell numbers, or all NaN, or none of them either, and the first row is not after the second
nor the second after the third, then the first is not after the third. -/
theorem rows_compared (keys : List SortKey) (a b c : Row) :
    compareRows keys b a = (compareRows keys a b).swap ∧ compareRows keys a a = .eq ∧
      ((∀ key ∈ keys, key.Alike [a, b, c]) → compareRows keys a b ≠ .gt →
        compareRows keys b c ≠ .gt → compareRows keys a c ≠ .gt) := by
  refine ⟨Std.OrientedCmp.eq_swap, Std.ReflCmp.compare_self, fun alike first second => ?_⟩
  exact Ordering.isLE_iff_ne_gt.mp ((totalOn_compareRows alike).trans a (by simp) b (by simp) c (by simp)
    (Ordering.isLE_iff_ne_gt.mpr first) (Ordering.isLE_iff_ne_gt.mpr second))

/-- Three rows by their prices, the one without a price first, and those of one price by their names from
the last to the first. -/
theorem prices_compared :
    let keys : List SortKey := [⟨⟨0, 0xf6⟩, true⟩, ⟨⟨1, 0xfd⟩, false⟩]
    let row := fun (price : Option String) (name : String) =>
      Row.mk [price.map Text.Utf8.encode, some (Text.Utf8.encode name)]
    let unknown := row none "tea"
    let milk := row (some "9.50") "milk"
    let bread := row (some "9.5") "bread"
    (∀ key ∈ keys, key.Alike [unknown, milk, bread]) ∧ compareRows keys unknown milk ≠ .gt ∧
      compareRows keys milk bread ≠ .gt ∧ compareRows keys unknown bread ≠ .gt := by
  intro keys row unknown milk bread
  have alike : ∀ key ∈ keys, key.Alike [unknown, milk, bread] := by
    refine List.forall_mem_cons.mpr ⟨fun _ => ⟨.number, by decide +kernel⟩, ?_⟩
    exact List.forall_mem_singleton.mpr nofun
  obtain ⟨first, second⟩ : compareRows keys unknown milk ≠ .gt ∧ compareRows keys milk bread ≠ .gt := by
    decide +kernel
  exact ⟨alike, first, second, (rows_compared keys unknown milk bread).2.2 alike first second⟩

/-- **NaN stands between all numbers**: it keeps a two from being sorted behind a one. -/
theorem two_before_one :
    let keys : List SortKey := [⟨⟨0, 0x05⟩, true⟩]
    let row := fun text : String => Row.mk [some (Text.Utf8.encode text)]
    compareRows keys (row "2") (row "nan") ≠ .gt ∧ compareRows keys (row "nan") (row "1") ≠ .gt ∧
      compareRows keys (row "2") (row "1") = .gt ∧
        sortRows (compareRows keys) [row "2", row "nan", row "1"] = [row "2", row "nan", row "1"] := by
  decide +kernel

/-- Numbers and other texts go round in a circle. -/
example :
    let keys : List SortKey := [⟨⟨0, 0xf6⟩, true⟩]
    let row := fun text : String => Row.mk [some (Text.Utf8.encode text)]
    compareRows keys (row "10") (row "1x") = .lt ∧ compareRows keys (row "1x") (row "9") = .lt ∧
      compareRows keys (row "9") (row "10") = .lt := by
  decide +kernel

end ScatterGather
