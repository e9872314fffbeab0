import Mathlib.Data.List.Induction
import SheetPost.Workbook.Table

namespace SheetPost

inductive CellValue where
  | text (value : String)
  | number (value : Number)
  | date (value : Date)
  | cell (value : Cell)

def CellValue.asCell : CellValue → Cell
  | text value => .ofText value
  | number value => .number value
  | date value => .date value
  | cell value => value

structure CellWrite where
  row : RowPosition
  column : Nat
  value : CellValue

/-- The last of the writes at a position. -/
def lastWrite? (writes : List CellWrite) (row : RowPosition) (column : Nat) : Option CellWrite :=
  writes.reverse.find? fun write => write.row = row ∧ write.column = column

theorem lastWrite?_concat (writes : List CellWrite) (write : CellWrite) (row : RowPosition)
    (column : Nat) :
    lastWrite? (writes ++ [write]) row column =
      if write.row = row ∧ write.column = column then some write
      else lastWrite? writes row column := by
  rw [lastWrite?, List.reverse_concat, List.find?_cons]
  by_cases here : write.row = row ∧ write.column = column
  · rw [if_pos here, decide_eq_true here]
  · rw [if_neg here, decide_eq_false here]
    rfl

theorem lastWrite?_eq_none_iff {writes : List CellWrite} {row : RowPosition} {column : Nat} :
    lastWrite? writes row column = none ↔
      ∀ write ∈ writes, ¬(write.row = row ∧ write.column = column) := by
  simp only [lastWrite?, List.find?_eq_none, List.mem_reverse, decide_eq_true_eq]

namespace Table

def row (table : Table) (position : RowPosition) : List Cell :=
  table.rows[position.above]?.getD []

def cell? (table : Table) (row : RowPosition) (column : Nat) : Option Cell :=
  (table.row row)[column]?

theorem get_eq (table : Table) (row : RowPosition) (column : Nat) :
    table.get row column = (table.cell? row column).getD .empty := rfl

/-! ## One write -/

theorem row_set_same (table : Table) (position : RowPosition) (column : Nat) (cell : Cell) :
    (table.set position column cell).row position =
      modifyFilled .empty (fun _ => cell) column (table.row position) := by
  rw [row, set, getElem?_modifyFilled_same, Option.getD_some, row]

theorem row_set_other (table : Table) {position other : RowPosition} (column : Nat) (cell : Cell)
    (different : other ≠ position) :
    (table.set position column cell).row other = table.row other := by
  have apart : other.above ≠ position.above := fun same =>
    different (by cases other; cases position; cases same; rfl)
  rw [row, set, getElem?_modifyFilled_other _ _ apart, row]

theorem length_row_set (table : Table) (position other : RowPosition) (column : Nat) (cell : Cell) :
    (table.row other).length ≤ ((table.set position column cell).row other).length := by
  by_cases same : other = position
  · rw [same, row_set_same, length_modifyFilled]
    exact Nat.le_max_left _ _
  · exact Nat.le_of_eq (congrArg List.length (row_set_other table column cell same).symm)

/-! ## Any writes -/

def written (table : Table) (writes : List CellWrite) : Table :=
  writes.foldl (fun table write => table.set write.row write.column write.value.asCell) table

theorem written_concat (table : Table) (writes : List CellWrite) (write : CellWrite) :
    table.written (writes ++ [write]) =
      (table.written writes).set write.row write.column write.value.asCell :=
  List.foldl_append

theorem name_written (table : Table) (writes : List CellWrite) :
    (table.written writes).name = table.name := by
  induction writes using List.reverseRecOn with
  | nil => rfl
  | append_singleton writes write induction => rw [written_concat, name_set, induction]

theorem get_written (table : Table) (writes : List CellWrite) (row : RowPosition) (column : Nat) :
    (table.written writes).get row column =
      match lastWrite? writes row column with
      | some write => write.value.asCell
      | none => table.get row column := by
  induction writes using List.reverseRecOn with
  | nil => rfl
  | append_singleton writes write induction =>
      rw [written_concat, lastWrite?_concat]
      by_cases here : write.row = row ∧ write.column = column
      · rcases here with ⟨rfl, rfl⟩
        rw [get_set_same, if_pos ⟨rfl, rfl⟩]
      · have apart : row ≠ write.row ∨ column ≠ write.column := by
          by_contra same
          rw [not_or, not_not, not_not] at same
          exact here ⟨same.1.symm, same.2.symm⟩
        rw [get_set_other _ _ apart, if_neg here, induction]

theorem rowCount_written (table : Table) (writes : List CellWrite) :
    (table.written writes).rowCount = (writes.map (·.row.number)).foldl max table.rowCount := by
  induction writes using List.reverseRecOn with
  | nil => rfl
  | append_singleton writes write induction =>
      rw [written_concat, rowCount_set, induction, List.map_append, List.foldl_append]
      rfl

theorem length_row_written (table : Table) (writes : List CellWrite) (position : RowPosition) :
    (table.row position).length ≤ ((table.written writes).row position).length := by
  induction writes using List.reverseRecOn with
  | nil => exact Nat.le_refl _
  | append_singleton writes write induction =>
      rw [written_concat]
      exact Nat.le_trans induction (length_row_set _ _ _ _ _)

theorem row_written_of_notMem (table : Table) {writes : List CellWrite} {position : RowPosition}
    (untouched : position ∉ writes.map (·.row)) :
    (table.written writes).row position = table.row position := by
  induction writes using List.reverseRecOn with
  | nil => rfl
  | append_singleton writes write induction =>
      rw [List.map_append, List.mem_append, not_or, List.map_singleton, List.mem_singleton]
        at untouched
      rw [written_concat, row_set_other _ _ _ untouched.2, induction untouched.1]

theorem row_of_rowCount_lt {table : Table} {position : RowPosition}
    (outside : table.rowCount < position.number) : table.row position = [] := by
  have beyond : table.rows.length ≤ position.above := Nat.lt_succ_iff.mp outside
  rw [row, List.getElem?_eq_none beyond, Option.getD_none]

/-- What writes make of a table: a map from positions to cells that they change one after the other,
and rows that are no more and no longer than need be. -/
structure HoldsWrites (table : Table) (writes : List CellWrite) (after : Table) : Prop where
  name : after.name = table.name
  cells : ∀ row column, after.get row column =
    match lastWrite? writes row column with
    | some write => write.value.asCell
    | none => (table.cell? row column).getD .empty
  rowCount : after.rowCount = (writes.map (·.row.number)).foldl max table.rowCount
  noShorter : ∀ position, (table.row position).length ≤ (after.row position).length
  untouched : ∀ position, position ∉ writes.map (·.row) → after.row position = table.row position
  filledIn : ∀ position, position ∉ writes.map (·.row) → table.rowCount < position.number →
    ∀ column, after.get position column = .empty

theorem written_holdsWrites (table : Table) (writes : List CellWrite) :
    HoldsWrites table writes (table.written writes) where
  name := table.name_written writes
  cells := table.get_written writes
  rowCount := table.rowCount_written writes
  noShorter := table.length_row_written writes
  untouched := fun _ => table.row_written_of_notMem
  filledIn := by
    intro position untouched outside column
    rw [get_eq, cell?, row_written_of_notMem _ untouched, row_of_rowCount_lt outside]
    rfl

/-- A ragged table: a cell written twice far outside, a cell that is wiped, and a row that is only
filled in. -/
theorem written_holdsWrites_ragged :
    let table : Table := ⟨"Notes", [[.text "a"], [.text "b", .boolean true, .number .zero]]⟩
    let far : RowPosition := ⟨3⟩
    let after := table.written [⟨far, 2, .text "first"⟩, ⟨⟨1⟩, 0, .text ""⟩, ⟨far, 2, .text "OK"⟩]
    after.get far 2 = .text "OK" ∧ after.get ⟨1⟩ 0 = .empty ∧
      after.get ⟨1⟩ 1 = .boolean true ∧ after.get far 7 = .empty ∧ after.rowCount = 4 ∧
      after.row ⟨0⟩ = [.text "a"] ∧ ∀ column, after.get ⟨2⟩ column = .empty := by
  intro table far after
  have holds := table.written_holdsWrites
    [⟨far, 2, .text "first"⟩, ⟨⟨1⟩, 0, .text ""⟩, ⟨far, 2, .text "OK"⟩]
  exact ⟨holds.cells far 2, holds.cells ⟨1⟩ 0, holds.cells ⟨1⟩ 1, holds.cells far 7, holds.rowCount,
    holds.untouched ⟨0⟩ (by decide), holds.filledIn ⟨2⟩ (by decide) (by decide)⟩

end Table

end SheetPost
