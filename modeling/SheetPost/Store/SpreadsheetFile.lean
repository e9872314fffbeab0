import SheetPost.Disk.Disk

/-!
# Spreadsheet files on the disk

Loading needs a file of the format. Saving first makes sure that the format can hold every cell, and
only then opens the file; that the names of two sheets differ in case only shows last, when the file
is empty already.
-/

namespace SheetPost.SpreadsheetFile

def load (path : String) (disk : Disk) : Except StoreError Workbook :=
  match disk.read path with
  | .ok (.book book) => book.workbook
  | _ => .error (.during ("Failed to open Excel file: " ++ path) (.malformed .xlsx))

def save (path : String) (workbook : Workbook) : ExceptT StoreError (StateM Disk) Unit := do
  let book ← ExceptT.mk (pure (Book.ofWorkbook workbook))
  let failure : StoreError := .during ("Failed to save Excel file: " ++ path) (.malformed .xlsx)
  match (← get).write path (if book.namesApart then .book book else .text "") with
  | .ok disk =>
      set disk
      if !book.namesApart then throw failure
  | .error _ => throw failure

end SheetPost.SpreadsheetFile
