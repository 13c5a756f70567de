/-
**The order of rows, and the window on them.**

* `OrderKey`: a column that a merged result is ordered by;
* `Window`: the part of a merged result that the client asked for;
* `Window.emitted`, `Window.cut`: how many rows of a result it lets through, and which;
* `Column`: where a column stands in a row, and its type;
* `SortKey.compare`, `compareRows`: the order of rows by one column, and by several;
* `sortRows`: rows in an order, those that it does not tell apart as they came;
* `sortRows_perm`: sorting loses no row and makes up none.
-/
import ScatterGather.Number.Binary64
import ScatterGather.Wire.Reply

namespace ScatterGather

open Wire

/-! ### What is asked for -/

/-- A column to order by, its name in uppercase, and the direction. -/
structure OrderKey where
  column : String
  ascending : Bool := true
  deriving DecidableEq, Repr, Inhabited

/-- The rows to skip, and how many rows follow at most. -/
structure Window where
  offset : Nat := 0
  limit : Option Nat := none
  deriving DecidableEq, Repr, Inhabited

namespace Window

/-- The number of rows that a window lets through of a total. -/
def emitted (window : Window) (total : Nat) : Nat :=
  match window.limit with
  | some limit => min (total - window.offset) limit
  | none => total - window.offset

/-- The rows that a window lets through. -/
def cut {α : Type} (window : Window) (rows : List α) : List α :=
  match window.limit with
  | some limit => (rows.drop window.offset).take limit
  | none => rows.drop window.offset

/-- A window lets through as many rows as it says. -/
theorem length_cut {α : Type} (window : Window) (rows : List α) :
    (window.cut rows).length = window.emitted rows.length := by
  obtain ⟨offset, _ | limit⟩ := window
  · exact List.length_drop
  · simp only [cut, emitted, List.length_take, List.length_drop]
    exact Nat.min_comm _ _

end Window

/-! ### Columns -/

/-- A column of a result: where it stands in a row, and its type. -/
structure Column where
  index : Nat
  type : UInt8
  deriving DecidableEq, Repr, Inhabited

/-- The types whose texts are compared as numbers. -/
def Column.numericTypes : List UInt8 :=
  [0x00, 0x01, 0x02, 0x03, 0x04, 0x05, 0x08, 0x09, 0x0d, 0xf6]

/-- Tells whether the texts of a column are compared as numbers. -/
def Column.isNumeric (column : Column) : Bool :=
  numericTypes.contains column.type

/-! ### The order of cells -/

/-- A column to sort by, and the direction. -/
structure SortKey where
  column : Column
  ascending : Bool
  deriving DecidableEq, Repr, Inhabited

/-- The order of byte strings: that of the first bytes that differ, or else the shorter one first. -/
def compareBytes : List UInt8 → List UInt8 → Ordering
  | [], [] => .eq
  | [], _ :: _ => .lt
  | _ :: _, [] => .gt
  | left :: lefts, right :: rights => (compare left right).then (compareBytes lefts rights)

/-- The number that bytes spell, if they are ASCII text. Other bytes spell none. -/
def numeral? (bytes : List UInt8) : Option Binary64 :=
  if bytes.all (· < 0x80) then Binary64.read? (bytes.map fun byte => Char.ofNat byte.toNat)
  else none

/-- The order of two texts as numbers; texts that are none are ordered as bytes, and what is not a
number is equal to all numbers. -/
def compareNumerals (left right : List UInt8) : Ordering :=
  match numeral? left, numeral? right with
  | some left, some right => (Binary64.compare? left right).getD .eq
  | _, _ => compareBytes left right

namespace SortKey

/-- The order of two cells of a column, NULL first. -/
def compareCells (column : Column) : Option (List UInt8) → Option (List UInt8) → Ordering
  | none, none => .eq
  | none, some _ => .lt
  | some _, none => .gt
  | some left, some right =>
    if column.isNumeric then compareNumerals left right else compareBytes left right

/-- The cell of a row in a column; a row that has no such cell has NULL in it. -/
def cell (row : Row) (column : Column) : Option (List UInt8) :=
  (row.cells[column.index]?).join

/-- The order of two rows by one column. -/
def compare (key : SortKey) (left right : Row) : Ordering :=
  let order := compareCells key.column (cell left key.column) (cell right key.column)
  if key.ascending then order else order.swap

end SortKey

/-- The order of two rows by several columns, the first that tells them apart. -/
def compareRows : List SortKey → Row → Row → Ordering
  | [], _, _ => .eq
  | key :: rest, left, right => (key.compare left right).then (compareRows rest left right)

/-! ### Sorting -/

/-- Puts a row among sorted rows in descending order, before all that it is not less than. -/
def insertRow (order : Row → Row → Ordering) (row : Row) : List Row → List Row
  | [] => [row]
  | last :: rest =>
    if order row last = .lt then last :: insertRow order row rest else row :: last :: rest

/-- Putting a row among others adds that row alone. -/
theorem insertRow_perm (order : Row → Row → Ordering) (row : Row) (sorted : List Row) :
    (insertRow order row sorted).Perm (row :: sorted) := by
  induction sorted with
  | nil => exact List.Perm.refl _
  | cons last rest ih =>
    rw [insertRow]
    split
    · exact (ih.cons last).trans (List.Perm.swap row last rest)
    · exact List.Perm.refl _

/-- The rows in ascending order. Rows that the order does not tell apart stay in their order. -/
def sortRows (order : Row → Row → Ordering) (rows : List Row) : List Row :=
  (rows.foldl (fun sorted row => insertRow order row sorted) []).reverse

/-- Sorting puts the rows in another order, and that is all. -/
theorem sortRows_perm (order : Row → Row → Ordering) (rows : List Row) :
    (sortRows order rows).Perm rows := by
  suffices steps : ∀ sorted : List Row,
      (rows.foldl (fun sorted row => insertRow order row sorted) sorted).Perm (rows ++ sorted) by
    have whole := steps []
    rw [List.append_nil] at whole
    exact (List.reverse_perm _).trans whole
  induction rows with
  | nil => exact List.Perm.refl
  | cons row rest ih =>
    intro sorted
    refine (ih _).trans ?_
    exact ((insertRow_perm order row sorted).append_left rest).trans List.perm_middle

end ScatterGather
