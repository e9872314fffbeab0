import SheetPost.Posting.Outcome
import SheetPost.Posting.Record

namespace SheetPost

structure Extraction (α : Type) where
  /-- The records to send, with their rows in ascending order. -/
  entries : List (RowPosition × α)
  alreadyProcessed : List RowPosition

namespace Extraction

variable {α : Type}

def rows (extraction : Extraction α) : List RowPosition :=
  extraction.entries.map (·.1)

def records (extraction : Extraction α) : List α :=
  extraction.entries.map (·.2)

def isEmpty (extraction : Extraction α) : Bool :=
  extraction.entries.isEmpty

end Extraction

def eligible (α : Type) [SheetRecord α] (sheet : Table) : List (RowPosition × α) :=
  sheet.dataRows.filterMap fun row =>
    (SheetRecord.ofRow? row.2).map fun record => (row.1, record)

def isProcessed (α : Type) [SheetRecord α] (sheet : Table) (row : RowPosition) : Bool :=
  trim (sheet.get row (SheetRecord.statusColumn α)).shown == Outcome.okText

/-- The records of a sheet, without those already processed where these are to be skipped. -/
def extract (α : Type) [SheetRecord α] (sheet : Table) (skipProcessed : Bool) : Extraction α :=
  let skipped (entry : RowPosition × α) : Bool := skipProcessed && isProcessed α sheet entry.1
  { entries := (eligible α sheet).filter fun entry => !skipped entry
    alreadyProcessed := ((eligible α sheet).filter skipped).map (·.1) }

end SheetPost
