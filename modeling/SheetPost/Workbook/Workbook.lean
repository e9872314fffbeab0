import SheetPost.Workbook.Table

namespace SheetPost

structure Workbook where
  sheets : List Table
deriving DecidableEq

/-- Replace the table of the same name in place, or add the table at the end. -/
def putTable (table : Table) : List Table → List Table
  | [] => [table]
  | head :: tail => if head.name = table.name then table :: tail else head :: putTable table tail

namespace Workbook

def empty : Workbook := ⟨[]⟩

def standard : Workbook :=
  ⟨Schema.all.map Table.ofSchema⟩

def sheet? (workbook : Workbook) (name : String) : Option Table :=
  workbook.sheets.find? (·.name == name)

def insert (workbook : Workbook) (table : Table) : Workbook :=
  ⟨putTable table workbook.sheets⟩

def ofTables (tables : List Table) : Workbook :=
  tables.foldl insert empty

def sheetFor (workbook : Workbook) (schema : Schema) : Table :=
  (workbook.sheet? schema.name).getD (Table.ofSchema schema)

/-- Add the sheet of a layout if it is missing. -/
def ensure (workbook : Workbook) (schema : Schema) : Workbook :=
  workbook.insert (workbook.sheetFor schema)

/-- Change the sheet of a layout, adding it first if it is missing. -/
def update (workbook : Workbook) (schema : Schema) (change : Table → Table) : Workbook :=
  workbook.insert (change (workbook.sheetFor schema))

end Workbook

/-! Lookup after putting a table, and the names in the list. -/

theorem find?_putTable_same (table : Table) (tables : List Table) :
    (putTable table tables).find? (·.name == table.name) = some table := by
  induction tables with
  | nil => simp [putTable]
  | cons head tail induction =>
      unfold putTable
      split
      · simp
      · next different => simp [different, induction]

theorem find?_putTable_other (table : Table) (tables : List Table) {name : String}
    (different : name ≠ table.name) :
    (putTable table tables).find? (·.name == name) = tables.find? (·.name == name) := by
  have apart : (table.name == name) = false := by simpa using different.symm
  induction tables with
  | nil => simp [putTable, apart]
  | cons head tail induction =>
      unfold putTable
      split
      · next same => simp [apart, same]
      · simp only [List.find?_cons, induction]

theorem names_putTable (table : Table) (tables : List Table) :
    (putTable table tables).map (·.name) =
      if table.name ∈ tables.map (·.name) then tables.map (·.name)
      else tables.map (·.name) ++ [table.name] := by
  induction tables with
  | nil => simp [putTable]
  | cons head tail induction =>
      unfold putTable
      split
      · next same => simp [same]
      · next different =>
          simp only [List.map_cons, induction, List.mem_cons, Ne.symm different, false_or]
          split <;> simp

namespace Workbook

@[simp] theorem sheet?_insert_same (workbook : Workbook) (table : Table) :
    (workbook.insert table).sheet? table.name = some table :=
  find?_putTable_same table workbook.sheets

theorem sheet?_insert_other (workbook : Workbook) (table : Table) {name : String}
    (different : name ≠ table.name) :
    (workbook.insert table).sheet? name = workbook.sheet? name :=
  find?_putTable_other table workbook.sheets different

@[simp] theorem name_sheetFor (workbook : Workbook) (schema : Schema) :
    (workbook.sheetFor schema).name = schema.name := by
  unfold sheetFor sheet?
  cases found : workbook.sheets.find? (·.name == schema.name) with
  | none => rfl
  | some table => simpa using List.find?_some found

theorem sheetFor_update (workbook : Workbook) (schema : Schema) {change : Table → Table}
    (kept : (change (workbook.sheetFor schema)).name = schema.name) :
    (workbook.update schema change).sheetFor schema = change (workbook.sheetFor schema) := by
  rw [sheetFor, update, ← kept, sheet?_insert_same]
  rfl

end Workbook

end SheetPost
