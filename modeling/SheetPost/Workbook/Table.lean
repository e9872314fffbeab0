import SheetPost.Workbook.Cell
import SheetPost.Workbook.Schema

/-!
# Tables

A table is a named list of rows, and its rows may differ in length. It is read as if it went on
without end: every position has a cell, and the positions outside the rows hold empty ones. Writing
a cell grows the table just as far as it must. The first row is the header; rows are numbered from
1, so the first row of data is row 2.
-/

namespace SheetPost

/-- The place of a row in its sheet. It is kept as the number of rows above it, so there is no row
0 to rule out; `number` is the number that people see. Counted with 32 bits, positions would begin
anew in a sheet of `2 ^ 32` rows; here the count has no bound, and no such sheet is meant. -/
structure RowPosition where
  above : Nat
deriving DecidableEq

namespace RowPosition

def number (row : RowPosition) : Nat :=
  row.above + 1

def ofNumber? : Nat → Option RowPosition
  | 0 => none
  | above + 1 => some ⟨above⟩

instance : ToString RowPosition := ⟨fun row => integerText row.number⟩

end RowPosition

structure Table where
  name : String
  rows : List (List Cell)
deriving DecidableEq

/-! Lists are extended with a filler where a position lies past their end. -/

/-- Change the element at a position, filling the list up to it first. -/
def modifyFilled {α : Type} (filler : α) (change : α → α) : (position : Nat) → List α → List α
  | 0, [] => [change filler]
  | 0, head :: tail => change head :: tail
  | position + 1, [] => filler :: modifyFilled filler change position []
  | position + 1, head :: tail => head :: modifyFilled filler change position tail

theorem getElem?_modifyFilled_same {α : Type} (filler : α) (change : α → α) (position : Nat)
    (values : List α) :
    (modifyFilled filler change position values)[position]? =
      some (change (values[position]?.getD filler)) := by
  induction position generalizing values with
  | zero => cases values <;> rfl
  | succ position induction =>
      cases values with
      | nil => simpa [modifyFilled] using induction []
      | cons head tail => simpa [modifyFilled] using induction tail

theorem getElem?_modifyFilled_other {α : Type} (filler : α) (change : α → α)
    {position other : Nat} (different : other ≠ position) (values : List α) :
    (modifyFilled filler change position values)[other]?.getD filler =
      values[other]?.getD filler := by
  induction position generalizing values other with
  | zero =>
      obtain ⟨other, rfl⟩ := Nat.exists_eq_succ_of_ne_zero different
      cases values <;> simp [modifyFilled]
  | succ position induction =>
      cases other with
      | zero => cases values <;> simp [modifyFilled]
      | succ other =>
          have apart : other ≠ position := fun equal => different (congrArg _ equal)
          cases values with
          | nil => simpa [modifyFilled] using induction apart []
          | cons head tail => simpa [modifyFilled] using induction apart tail

theorem length_modifyFilled {α : Type} (filler : α) (change : α → α) (position : Nat)
    (values : List α) :
    (modifyFilled filler change position values).length = max values.length (position + 1) := by
  induction position generalizing values with
  | zero =>
      cases values with
      | nil => rfl
      | cons head tail => simp only [modifyFilled, List.length_cons]; omega
  | succ position induction =>
      cases values with
      | nil =>
          simp only [modifyFilled, List.length_cons, induction, List.length_nil]
          omega
      | cons head tail =>
          simp only [modifyFilled, List.length_cons, induction]
          omega

namespace Table

def ofSchema (schema : Schema) : Table :=
  ⟨schema.name, [schema.columns.map Cell.ofText]⟩

def rowCount (table : Table) : Nat :=
  table.rows.length

def dataRows (table : Table) : List (RowPosition × List Cell) :=
  (table.rows.zipIdx.map fun row => (⟨row.2⟩, row.1)).drop 1

/-- The cell at a position, empty outside the rows. -/
def get (table : Table) (row : RowPosition) (column : Nat) : Cell :=
  (table.rows[row.above]?.getD [])[column]?.getD .empty

/-- Put a cell at a position, growing the table as far as needed. -/
def set (table : Table) (row : RowPosition) (column : Nat) (cell : Cell) : Table :=
  { table with
    rows := modifyFilled [] (modifyFilled .empty (fun _ => cell) column) row.above table.rows }

def push (table : Table) (cells : List Cell) : Table :=
  { table with rows := table.rows ++ [cells] }

def clear (table : Table) : Table :=
  { table with rows := [] }

@[simp] theorem get_set_same (table : Table) (row : RowPosition) (column : Nat) (cell : Cell) :
    (table.set row column cell).get row column = cell := by
  simp [get, set, getElem?_modifyFilled_same]

theorem get_set_other (table : Table) {row otherRow : RowPosition} {column otherColumn : Nat}
    (cell : Cell) (different : otherRow ≠ row ∨ otherColumn ≠ column) :
    (table.set row column cell).get otherRow otherColumn = table.get otherRow otherColumn := by
  by_cases sameRow : otherRow = row
  · subst sameRow
    have apart : otherColumn ≠ column := different.resolve_left (fun apart => apart rfl)
    simp [get, set, getElem?_modifyFilled_same, getElem?_modifyFilled_other _ _ apart]
  · have apart : otherRow.above ≠ row.above := fun equal =>
      sameRow (by cases otherRow; cases row; cases equal; rfl)
    simp [get, set, getElem?_modifyFilled_other _ _ apart]

theorem rowCount_set (table : Table) (row : RowPosition) (column : Nat) (cell : Cell) :
    (table.set row column cell).rowCount = max table.rowCount row.number := by
  simp [rowCount, set, length_modifyFilled, RowPosition.number]

@[simp] theorem name_set (table : Table) (row : RowPosition) (column : Nat) (cell : Cell) :
    (table.set row column cell).name = table.name := rfl

end Table

end SheetPost
