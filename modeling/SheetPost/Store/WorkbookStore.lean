import SheetPost.Store.SheetDirectory
import SheetPost.Store.SpreadsheetFile

namespace SheetPost

inductive WorkbookStore where
  | spreadsheet (path : String)
  | directory (path : String)
deriving DecidableEq

namespace WorkbookStore

def ofPath (path : String) : WorkbookStore :=
  match Path.fileName? path with
  | some name => if Path.hasExtension "xlsx" name then spreadsheet path else directory path
  | none => directory path

def location : WorkbookStore → String
  | spreadsheet path | directory path => path

def load : WorkbookStore → Disk → Except StoreError Workbook
  | spreadsheet path => SpreadsheetFile.load path
  | directory path => SheetDirectory.load path

def save : WorkbookStore → Workbook → ExceptT StoreError (StateM Disk) Unit
  | spreadsheet path => SpreadsheetFile.save path
  | directory path => SheetDirectory.save path

end WorkbookStore

end SheetPost
