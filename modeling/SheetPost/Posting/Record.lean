import SheetPost.Gateway.Operation
import SheetPost.Workbook.Cell
import SheetPost.Workbook.Schema

namespace SheetPost

def cellAt (cells : List Cell) (column : Nat) : Cell :=
  cells[column]?.getD .empty

/-- A number that is there and not zero. -/
def requiredNumber? (cells : List Cell) (column : Nat) : Option Number :=
  let cell := cellAt cells column
  if cell.isTruthy then cell.number?.filter fun number => !number.isZero else none

/-- A text that is there, without blanks around it. -/
def requiredText? (cells : List Cell) (column : Nat) : Option String :=
  let cell := cellAt cells column
  if cell.isTruthy then some (trim cell.shown) else none

/-- A date that is there: in ISO form where it is understood, as typed where it is not. -/
def requiredDate? (cells : List Cell) (column : Nat) : Option String :=
  let cell := cellAt cells column
  if cell.isTruthy then
    some (match cell.date? with
      | some date => date.text
      | none => trim cell.shown)
  else none

/-! What is read at a column depends on the cell at that column and on nothing else. -/

theorem requiredNumber?_congr {cells others : List Cell} {column : Nat}
    (same : cellAt cells column = cellAt others column) :
    requiredNumber? cells column = requiredNumber? others column := by
  rw [requiredNumber?, requiredNumber?, same]

theorem requiredText?_congr {cells others : List Cell} {column : Nat}
    (same : cellAt cells column = cellAt others column) :
    requiredText? cells column = requiredText? others column := by
  rw [requiredText?, requiredText?, same]

theorem requiredDate?_congr {cells others : List Cell} {column : Nat}
    (same : cellAt cells column = cellAt others column) :
    requiredDate? cells column = requiredDate? others column := by
  rw [requiredDate?, requiredDate?, same]

/-- Records that are read from the rows of one sheet and can be created one by one. -/
class SheetRecord (α : Type) where
  schema : Schema
  statusColumn : Nat
  /-- The layout knows the same column. -/
  schema_statusColumn : schema.statusColumn = some statusColumn
  ofRow? : List Cell → Option α
  /-- The outcome of an earlier run does not change the record. -/
  ofRow?_congr : ∀ {cells others : List Cell},
    (∀ column, column ≠ statusColumn → cellAt cells column = cellAt others column) →
      ofRow? cells = ofRow? others
  create : α → Operation

instance : SheetRecord NewTransaction where
  schema := .transactions
  statusColumn := 4
  schema_statusColumn := rfl
  ofRow? cells := do
    let amount ← requiredNumber? cells 0
    let category ← requiredText? cells 1
    let date ← requiredDate? cells 3
    return { amount, category, description := (cellAt cells 2).shown, date }
  ofRow?_congr same := by
    simp only [requiredNumber?_congr (same 0 (by decide)), requiredText?_congr (same 1 (by decide)),
      requiredDate?_congr (same 3 (by decide)), same 2 (by decide)]
  create := .createTransaction

instance : SheetRecord NewBudget where
  schema := .budgets
  statusColumn := 2
  schema_statusColumn := rfl
  ofRow? cells := do
    let category ← requiredText? cells 0
    let limit ← requiredNumber? cells 1
    return { category, limit }
  ofRow?_congr same := by
    simp only [requiredText?_congr (same 0 (by decide)), requiredNumber?_congr (same 1 (by decide))]
  create := .createBudget

end SheetPost
