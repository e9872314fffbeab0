import SheetPost.Calendar.DayNumber
import SheetPost.Number.Basic

/-!
# Serial day numbers

A spreadsheet file stores a date as a number of days. Day 1 is the first of January 1900 and day 60
is a twenty-ninth of February 1900 that never was, so from day 61 on the count runs one ahead of
the calendar. Reading gives day 60 the date of day 61. Writing produces day 60 only for a date whose
year is not 1900 but is stored as 1900.
-/

namespace SheetPost

structure DayCountOverflow where
  days : Nat
deriving DecidableEq

namespace Date

def serialOrigin : Date :=
  ⟨1899, 12, 31, by decide⟩

def lastCountedDay : Nat := 106751991167

/-- The date of a serial number, whose fraction is a time of day and does not count. Serial
numbers below 1, and those whose day is out of range, have no date. -/
def ofSerial (serial : Number) : Except DayCountOverflow (Option Date) :=
  match serial with
  | .finite false magnitude =>
      let days := magnitude.whole
      if days = 0 then .ok none
      else if lastCountedDay < days then .error ⟨days⟩
      else .ok (serialOrigin.addDays? (if 61 ≤ days then (days : Int) - 1 else days))
  | _ => .ok none

def serial (date : Date) : Nat :=
  let days := (date.dayNumber - serialOrigin.dayNumber).toNat
  if 60 ≤ days then days + 1 else days

/-- The serial number that a file stores for a date. Of the year only the low sixteen bits are kept,
and they must make a date between the years 1900 and 9999, the origin excepted; in the year 1900 the
day that never was makes one as well. -/
def storedSerial? (date : Date) : Option Nat :=
  let year := date.year % 65536
  if year = 1900 ∧ date.month = 2 ∧ date.day = 29 then some 60
  else (of? year date.month date.day).bind fun kept =>
    if kept = serialOrigin ∨ (1900 ≤ kept.year ∧ kept.year ≤ 9999) then some kept.serial else none

end Date

end SheetPost
