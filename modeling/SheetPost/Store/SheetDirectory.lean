import SheetPost.Csv.Record
import SheetPost.Disk.Disk

/-!
# Directories of sheets

A workbook may be kept as a directory with one file of records for each sheet, named for the sheet.
Loading takes the known sheets first and the others in the order of their file names. All cells are
texts. Saving writes one file after the other, so a failure may come when some are written already.
-/

namespace SheetPost.SheetDirectory

def fileName (sheet : String) : String :=
  sheet ++ ".csv"

def sheetName? (file : String) : Option String :=
  if Path.hasExtension "csv" file then some (Path.stemAndExtension file).1 else none

/-- The place of a sheet among the known ones; the others come after them. -/
def rank (sheet : String) : Nat :=
  Schema.all.findIdx (·.name == sheet)

/-- The files of a directory that hold sheets, with the names of the sheets, in loading order. -/
def sheetFiles (files : List String) : List (String × String) :=
  let sheets := files.filterMap fun file => (sheetName? file).map fun sheet => (file, sheet)
  (sheets.mergeSort fun first second => first.1 ≤ second.1).mergeSort
    fun first second => rank first.2 ≤ rank second.2

def recordsOf : Content → Except StoreError (List (List String))
  | .text value => .ok (Csv.recordsOfText value)
  | .bytes values =>
      match Csv.recordsOfBytes? values with
      | some records => .ok records
      | none => .error (.malformed .csv)
  | .book _ => .error (.malformed .csv)

def onFile {α : Type} (activity : String) : Except FileFault α → Except StoreError α :=
  Except.mapError fun fault => .during activity (.file fault)

/-- A file is opened first and read then; that a directory is no file shows only in reading. -/
def loadSheet (disk : Disk) (path sheet : String) : Except StoreError Table := do
  discard (onFile ("Failed to open sheet: " ++ path) (disk.find path))
  let activity := "Failed to parse sheet: " ++ path
  let content ← onFile activity (disk.read path)
  let records ← (recordsOf content).mapError (.during activity)
  return ⟨sheet, records.map (·.map Cell.ofText)⟩

def load (directory : String) (disk : Disk) : Except StoreError Workbook := do
  if !disk.isDirectory directory then
    throw (.said ("Workbook directory does not exist: " ++ directory))
  let files ← onFile ("Failed to list directory: " ++ directory) (disk.list directory)
  let tables ← (sheetFiles files).mapM fun (file, sheet) =>
    loadSheet disk (Path.join directory file) sheet
  return .ofTables tables

def contentOf (table : Table) : Content :=
  .text (Csv.textOfRecords (table.rows.map (·.map (·.shown))))

def saveSheet (directory : String) (table : Table) : ExceptT StoreError (StateM Disk) Unit := do
  let path := Path.join directory (fileName table.name)
  let disk ← get
  set (← ExceptT.mk (pure (onFile ("Failed to create sheet: " ++ path)
    (disk.write path (contentOf table)))))

def save (directory : String) (workbook : Workbook) : ExceptT StoreError (StateM Disk) Unit := do
  (Disk.makeDirectories directory).adapt fun fault =>
    .during ("Failed to create directory: " ++ directory) (.file fault)
  workbook.sheets.forM (saveSheet directory)

end SheetPost.SheetDirectory
