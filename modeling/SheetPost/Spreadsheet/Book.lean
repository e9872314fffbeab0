import SheetPost.Calendar.Serial
import SheetPost.Store.StoreError
import SheetPost.Text.Lowercase
import SheetPost.Workbook.Workbook

/-!
# Spreadsheet files

A spreadsheet file lists sheets, and a sheet lists the cells that hold something, each with its
place. Texts, numbers and booleans are stored as such. A date is a number with a format that shows
it as one; other programs also store elapsed times, dates as text, and errors. Each cell is spelled
out in the file with line ends of its own, and the errors have a fixed set of spellings; a sheet
with another one is not read at all. Styles and formulas are left out, as no cell of a workbook has
a place for them.

What the format cannot hold makes saving fail: some names of sheets, long texts, cells far out, and
dates before the year 1900 or after 9999.
-/

namespace SheetPost

/-- What a file stores for a cell. A date number and an elapsed time are numbers of days. -/
inductive StoredCell where
  | number (value : Number)
  | dateNumber (serial : Number)
  | elapsed (serial : Number)
  | text (value : String)
  | boolean (value : Bool)
  | isoDate (spelling : String)
  /-- An error, and whether it is one that can be read. -/
  | error (known : Bool)
deriving DecidableEq

inductive StoredKind where
  | number
  | dateNumber
  | elapsed
  | text
  | boolean
  | isoDate
  | error
deriving DecidableEq

structure StoredSheet where
  name : String
  cells : List ((Nat × Nat) × StoredCell)
deriving DecidableEq

structure Book where
  sheets : List StoredSheet
deriving DecidableEq

/-! ## Reading -/

namespace StoredCell

def lineEnds : List Char → List Char
  | '\r' :: '\n' :: rest => '\n' :: lineEnds rest
  | '\r' :: rest => '\n' :: lineEnds rest
  | character :: rest => character :: lineEnds rest
  | [] => []

example : lineEnds "a\r\nb\rc\n\r".toList = "a\nb\nc\n\n".toList := by decide +kernel

def errors : List String :=
  ["#DIV/0!", "#N/A", "#NAME?", "#NULL!", "#NUM!", "#REF!", "#VALUE!"]

/-- The cell that a file describes by a kind and a spelling. What should be a number and is none is
a text, and so is no spelling at all. -/
def ofSpelling (kind : StoredKind) (spelling : String) : StoredCell :=
  let spelling := String.ofList (lineEnds spelling.toList)
  let numeric (stored : Number → StoredCell) : StoredCell :=
    ((Number.read? spelling).map stored).getD (.text spelling)
  match kind with
  | .number => numeric .number
  | .dateNumber => numeric .dateNumber
  | .elapsed => numeric .elapsed
  | .text => .text spelling
  | .boolean => .boolean (spelling != "0")
  | .isoDate => .isoDate spelling
  | .error => .error (errors.contains spelling)

/-- A number that stands for a date, or the number itself where it stands for none. -/
def dateOfNumber (serial : Number) : Except StoreError Cell :=
  match Date.ofSerial serial with
  | .ok (some date) => .ok (.date date)
  | .ok none => .ok (.number serial)
  | .error overflow => .error (.overflow overflow)

def cell : StoredCell → Except StoreError Cell
  | number value => .ok (.number value)
  | dateNumber serial | elapsed serial => dateOfNumber serial
  | text value => .ok (.ofText value)
  | boolean value => .ok (.boolean value)
  | isoDate spelling =>
      .ok (match Date.read? spelling with
        | some date => .date date
        | none => .ofText spelling)
  | error _ => .ok .empty

end StoredCell

namespace StoredSheet

def cellAt (sheet : StoredSheet) (row column : Nat) : Except StoreError Cell :=
  match sheet.cells.reverse.lookup (row, column) with
  | some stored => stored.cell
  | none => .ok .empty

/-- Whether every cell can be read, also one behind which another cell has the same place. -/
def readable (sheet : StoredSheet) : Bool :=
  sheet.cells.all (·.2 != .error false)

/-- The rows of a sheet. Its cells span a box: every row in it has its width, the rows above it have
no cells, and the cells to its left are empty. -/
def rows (sheet : StoredSheet) : Except StoreError (List (List Cell)) :=
  if !sheet.readable then
    .error (.during ("Failed to read sheet: " ++ sheet.name) (.malformed .xlsx))
  else match sheet.cells.map (·.1) with
  | [] => .ok []
  | place :: places =>
      let firstRow := places.foldl (fun first place => min first place.1) place.1
      let lastRow := places.foldl (fun last place => max last place.1) place.1
      let firstColumn := places.foldl (fun first place => min first place.2) place.2
      let lastColumn := places.foldl (fun last place => max last place.2) place.2
      (List.range (lastRow + 1)).mapM fun row =>
        if row < firstRow then .ok []
        else (List.range (lastColumn + 1)).mapM fun column =>
          if column < firstColumn then .ok .empty else sheet.cellAt row column

end StoredSheet

namespace Book

/-- The workbook in a file. Sheets are looked up by name, so of two sheets with one name the first
is read twice. -/
def workbook (book : Book) : Except StoreError Workbook := do
  let tables ← book.sheets.mapM fun sheet => do
    let first := (book.sheets.find? (·.name == sheet.name)).getD sheet
    return Table.mk sheet.name (← first.rows)
  return .ofTables tables

/-! ## Writing -/

def forbiddenInName : List Char := ['[', ']', ':', '*', '?', '/', '\\']

def isSheetName (name : String) : Bool :=
  let characters := name.toList
  !characters.isEmpty && characters.length ≤ 31 &&
    !characters.any forbiddenInName.contains &&
    characters.head? != some '\'' && characters.getLast? != some '\''

def rowLimit : Nat := 1048576

def columnLimit : Nat := 16384

def textLimit : Nat := 32767

/-- What is stored for a number; a file has no numbers beyond the finite ones. -/
def storedNumber : Number → StoredCell
  | .nan => .text "NAN"
  | .infinite negative => .text (if negative then "-INF" else "INF")
  | value => .number value

/-- What is stored for a cell: nothing for an empty one, and an error where the format has no place
for it. -/
def storedCell? : Cell → Except StoreError (Option StoredCell)
  | .empty => .ok none
  | .text value =>
      if textLimit < value.length then .error (.refused .longText)
      else .ok (if value = "" then none else some (.text value))
  | .number value => .ok (some (storedNumber value))
  | .boolean value => .ok (some (.boolean value))
  | .date value =>
      match value.storedSerial? with
      | some serial => .ok (some (.dateNumber (.ofNat serial)))
      | none => .error (.refused (.date (value.year % 65536).toNat value.month value.day))

/-- Store a cell at its place, if there is anything to store. Rows are counted with 32 bits and
columns with 16. -/
def storeAt? (row column : Nat) (cell : Cell) :
    Except StoreError (Option ((Nat × Nat) × StoredCell)) := do
  match ← storedCell? cell with
  | none => return none
  | some stored =>
      let row := row % 4294967296
      let column := column % 65536
      if rowLimit ≤ row ∨ columnLimit ≤ column then throw (.refused .farPlace)
      return some ((row, column), stored)

def storedSheet (table : Table) : Except StoreError StoredSheet := do
  if !isSheetName table.name then throw (.malformed .xlsx)
  let rows ← table.rows.zipIdx.mapM fun (cells, row) =>
    cells.zipIdx.mapM fun (cell, column) => storeAt? row column cell
  return ⟨table.name, (rows.flatMap id).filterMap id⟩

/-- The sheets of a workbook as a file stores them. A file has one sheet at least. -/
def ofWorkbook (workbook : Workbook) : Except StoreError Book := do
  let sheets ← workbook.sheets.mapM storedSheet
  return ⟨if sheets.isEmpty then [⟨"Sheet1", []⟩] else sheets⟩

def namesApart (book : Book) : Bool :=
  let names := book.sheets.map fun sheet => lowercase sheet.name
  names.eraseDups.length == names.length

end Book

end SheetPost
