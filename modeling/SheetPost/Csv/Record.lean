/-!
# Records of separated fields

A file of records keeps one record a line, with commas between its fields. A field that begins with
a quote may hold commas and line ends up to the closing quote, and a quote in it is written twice.
The reader accepts more than the writer produces: any of the two line end characters ends a record,
empty lines are passed over, and what follows a closing quote is part of the field.

Files are read as text where they are text, and otherwise byte by byte, so the reader is told which
units are the marks.
-/

namespace SheetPost.Csv

/-- The units that give a file its structure. -/
structure Marks (α : Type) where
  comma : α
  quote : α
  newline : α
  carriageReturn : α

def characterMarks : Marks Char := ⟨',', '"', '\n', '\r'⟩

def byteMarks : Marks UInt8 := ⟨0x2C, 0x22, 0x0A, 0x0D⟩

/-! ## Reading -/

inductive Place where
  | betweenRecords
  | fieldStart
  | bare
  | quoted
  /-- Behind a quote inside a quoted field, which closes it unless another one follows. -/
  | afterQuote
deriving DecidableEq

/-- The reader's place, the units of the field so far and the fields before it, last ones first. -/
structure Progress (α : Type) where
  place : Place
  field : List α
  fields : List (List α)

namespace Progress

variable {α : Type}

def start : Progress α := ⟨.betweenRecords, [], []⟩

def record (progress : Progress α) : List (List α) :=
  (progress.field.reverse :: progress.fields).reverse

def push (progress : Progress α) (place : Place) (unit : α) : Progress α :=
  { progress with place, field := unit :: progress.field }

def closeField (progress : Progress α) : Progress α :=
  ⟨.fieldStart, [], progress.field.reverse :: progress.fields⟩

end Progress

section Reading

variable {α : Type} [DecidableEq α] (marks : Marks α)

def Marks.isLineEnd (unit : α) : Bool :=
  unit = marks.newline ∨ unit = marks.carriageReturn

def bareStep (progress : Progress α) (unit : α) : Option (List (List α)) × Progress α :=
  if unit = marks.comma then (none, progress.closeField)
  else if marks.isLineEnd unit then (some progress.record, .start)
  else (none, progress.push .bare unit)

def step (progress : Progress α) (unit : α) : Option (List (List α)) × Progress α :=
  match progress.place with
  | .betweenRecords =>
      if marks.isLineEnd unit then (none, progress)
      else if unit = marks.quote then (none, { progress with place := .quoted })
      else bareStep marks progress unit
  | .fieldStart =>
      if unit = marks.quote then (none, { progress with place := .quoted })
      else bareStep marks progress unit
  | .bare => bareStep marks progress unit
  | .quoted =>
      if unit = marks.quote then (none, { progress with place := .afterQuote })
      else (none, progress.push .quoted unit)
  | .afterQuote =>
      if unit = marks.quote then (none, progress.push .quoted unit)
      else bareStep marks progress unit

/-- The records from here on. The end of the file ends the last record. -/
def recordsFrom (progress : Progress α) : List α → List (List (List α))
  | [] => if progress.place = .betweenRecords then [] else [progress.record]
  | unit :: rest =>
      match step marks progress unit with
      | (some record, next) => record :: recordsFrom next rest
      | (none, next) => recordsFrom next rest

def records (units : List α) : List (List (List α)) :=
  recordsFrom marks .start units

end Reading

/-- A mark of byte order at the very start is no part of a text. -/
def dropByteOrderMark : List Char → List Char
  | '\uFEFF' :: rest => rest
  | characters => characters

def recordsOfText (text : String) : List (List String) :=
  (records characterMarks (dropByteOrderMark text.toList)).map (·.map String.ofList)

/-- The records of bytes that need not be text as a whole; none where a field is not text. -/
def recordsOfBytes? (bytes : List UInt8) : Option (List (List String)) :=
  let bytes := match bytes with
    | 0xEF :: 0xBB :: 0xBF :: rest => rest
    | _ => bytes
  (records byteMarks bytes).mapM (·.mapM fun field => String.fromUTF8? ⟨field.toArray⟩)

example : recordsOfText "a,b\n\n\"c\"\"d\"e," = [["a", "b"], ["c\"de", ""]] := by decide +kernel

/-! ## Writing -/

def needsQuotes (field : List Char) : Bool :=
  field.any fun character => [',', '"', '\n', '\r'].contains character

def writtenField (field : List Char) : List Char :=
  if needsQuotes field then
    '"' :: (field.flatMap fun character => if character = '"' then ['"', '"'] else [character]) ++
      ['"']
  else field

/-- A record on its line. One that would leave the line empty is written as a quoted field of
nothing. -/
def writtenRecord (fields : List (List Char)) : List Char :=
  let line := [','].intercalate (fields.map writtenField)
  (if line.isEmpty then ['"', '"'] else line) ++ ['\n']

def textOfRecords (records : List (List String)) : String :=
  String.ofList (records.flatMap fun record => writtenRecord (record.map (·.toList)))

example : textOfRecords [["a", "b,c"], [], ["q\"", ""]] = "a,\"b,c\"\n\"\"\n\"q\"\"\",\n" := by
  decide +kernel

end SheetPost.Csv
