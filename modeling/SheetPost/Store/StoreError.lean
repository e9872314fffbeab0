import SheetPost.Calendar.Serial
import SheetPost.Disk.FileFault
import SheetPost.Text.Digit

/-!
# Failures of a store

Loading and saving fail for a cause, and every layer that passes the failure on says what it was
doing. The text of a failure names these activities from the outermost to the innermost, and the
cause last. What is wrong with a malformed file is not told; what a spreadsheet file has no place
for is told in the full message only.
-/

namespace SheetPost

inductive Format where
  | json
  | toml
  | csv
  | xlsx
deriving DecidableEq

def Format.complaint : Format → String
  | json => "<json error>"
  | toml => "<toml error>"
  | csv => "<csv error>"
  | xlsx => "<xlsx error>"

/-- What a spreadsheet file has no place for. The year of a date is what is left of it after it was
cut to sixteen bits. -/
inductive Refusal where
  | longText
  | date (year month day : Nat)
  | farPlace
deriving DecidableEq

def Refusal.message : Refusal → String
  | longText => "String exceeds Excel's limit of 32,767 characters."
  | date year month day =>
      "Date range error: '" ++ integerText year ++ "-" ++ integerText month ++ "-" ++
        integerText day ++ "'"
  | farPlace => "Row or column exceeds Excel's allowed limits (1,048,576 x 16,384)."

inductive StoreError where
  | said (text : String)
  | file (fault : FileFault)
  | malformed (format : Format)
  | refused (refusal : Refusal)
  | overflow (count : DayCountOverflow)
  | during (activity : String) (cause : StoreError)
deriving DecidableEq

namespace StoreError

/-- The text of a failure, in which a refusal has the given words. -/
def messageWith (words : Refusal → String) : StoreError → String
  | said text => text
  | file fault => fault.message
  | malformed format => format.complaint
  | refused refusal => words refusal
  | overflow _ => "day count out of range"
  | during activity cause => activity ++ ": " ++ cause.messageWith words

def fullMessage : StoreError → String :=
  messageWith Refusal.message

/-- The message that tells of a refusal no more than of a malformed file. -/
def message : StoreError → String :=
  messageWith fun _ => Format.xlsx.complaint

/-- The day count at the root of a failure. A reader that meets one stops at once, whatever it was
doing. -/
def overflow? : StoreError → Option DayCountOverflow
  | overflow count => some count
  | during _ cause => cause.overflow?
  | _ => none

end StoreError

end SheetPost
