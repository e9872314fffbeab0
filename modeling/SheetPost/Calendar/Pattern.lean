import SheetPost.Calendar.Date
import SheetPost.Text.Blank
import SheetPost.Text.Digit

namespace SheetPost

inductive DatePiece where
  | year
  | month
  | day
  | mark (character : Char)
  | gap
deriving DecidableEq

abbrev DatePattern := List DatePiece

/-- A year in four digits, with a sign where four digits do not hold it. -/
def yearText (year : Int) : List Char :=
  if year < 0 then '-' :: paddedNumeral 4 year.natAbs
  else if year ≤ 9999 then paddedNumeral 4 year.natAbs
  else '+' :: paddedNumeral 4 year.natAbs

example : yearText 25 = "0025".toList ∧ yearText (-1) = "-0001".toList := by decide
example : yearText 10000 = "+10000".toList := by decide

/-- At most `limit` digits from the front, and what follows them; at least one digit is needed. -/
def takeNumber? (limit : Nat) (characters : List Char) : Option (Nat × List Char) :=
  let digits := (characters.take limit).takeWhile isDigit
  if digits.isEmpty then none
  else some (numeralValue digits, characters.drop digits.length)

def takeYear? (characters : List Char) : Option (Int × List Char) :=
  match characters with
  | '-' :: rest => (takeNumber? rest.length rest).map fun (value, rest) => (-(value : Int), rest)
  | '+' :: rest => (takeNumber? rest.length rest).map fun (value, rest) => ((value : Int), rest)
  | _ => (takeNumber? 4 characters).map fun (value, rest) => ((value : Int), rest)

/-- The fields that have been read so far; a missing one is zero, which is no month and no day. -/
structure DateFields where
  year : Int
  month : Nat
  day : Nat

namespace DatePattern

def write (date : Date) : DatePattern → List Char
  | [] => []
  | .year :: pieces => yearText date.year ++ write date pieces
  | .month :: pieces => paddedNumeral 2 date.month ++ write date pieces
  | .day :: pieces => paddedNumeral 2 date.day ++ write date pieces
  | .mark character :: pieces => character :: write date pieces
  | .gap :: pieces => write date pieces

def readFields? (fields : DateFields) : DatePattern → List Char → Option DateFields
  | [], [] => some fields
  | [], _ :: _ => none
  | .year :: pieces, characters => do
      let (year, rest) ← takeYear? (characters.dropWhile isBlank)
      readFields? { fields with year } pieces rest
  | .month :: pieces, characters => do
      let (month, rest) ← takeNumber? 2 (characters.dropWhile isBlank)
      readFields? { fields with month } pieces rest
  | .day :: pieces, characters => do
      let (day, rest) ← takeNumber? 2 (characters.dropWhile isBlank)
      readFields? { fields with day } pieces rest
  | .mark expected :: pieces, character :: rest =>
      if character = expected then readFields? fields pieces rest else none
  | .mark _ :: _, [] => none
  | .gap :: pieces, characters => readFields? fields pieces (characters.dropWhile isBlank)

def read? (pattern : DatePattern) (characters : List Char) : Option Date := do
  let fields ← readFields? ⟨0, 0, 0⟩ pattern characters
  Date.of? fields.year fields.month fields.day

/-! The four patterns in which a sheet may hold a date, in the order in which they are tried. -/

def iso : DatePattern := [.year, .mark '-', .month, .mark '-', .day]

def slashed : DatePattern := [.year, .mark '/', .month, .mark '/', .day]

def dotted : DatePattern := [.day, .mark '.', .month, .mark '.', .year]

def monthFirst : DatePattern := [.month, .mark '/', .day, .mark '/', .year]

def inSheets : List DatePattern := [iso, slashed, dotted, monthFirst]

/-- The pattern of a date on the command line: as `iso`, with blanks around every part. -/
def spaced : DatePattern :=
  [.year, .gap, .mark '-', .month, .gap, .mark '-', .day, .gap]

end DatePattern

namespace Date

def text (date : Date) : String :=
  String.ofList (DatePattern.iso.write date)

/-- The date that a text in a sheet denotes: the first pattern that fits decides. A time of day,
which a `T` sets off, is left out. -/
def read? (text : String) : Option Date :=
  let characters := text.toList.takeWhile (· != 'T')
  DatePattern.inSheets.findSome? (·.read? characters)

end Date

end SheetPost
