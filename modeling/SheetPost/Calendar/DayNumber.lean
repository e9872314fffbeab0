import SheetPost.Calendar.Date

namespace SheetPost

def yearStart (year : Int) : Int :=
  365 * year + (year + 3) / 4 - (year + 99) / 100 + (year + 399) / 400

example : yearStart 0 = 0 ∧ yearStart 1 = 366 ∧ yearStart (-1) = -365 := by decide
example : yearStart 2000 - yearStart 1600 = 146097 := by decide

def monthStart (year : Int) : (month : Nat) → Nat
  | 0 | 1 => 0
  | month + 2 => monthStart year (month + 1) + daysInMonth year (month + 1)

example : monthStart 2024 3 = 60 ∧ monthStart 2025 12 = 334 := by decide

def yearOfDay (number : Int) : Int :=
  let guess := number * 400 / 146097
  if number < yearStart guess then guess - 1
  else if number < yearStart (guess + 1) then guess
  else guess + 1

/-- Month and day of the month, counting `rest` days on from the first of the first month listed. -/
def splitMonths (year : Int) : (months : List Nat) → (rest : Nat) → Option (Nat × Nat)
  | [], _ => none
  | month :: months, rest =>
      if rest < daysInMonth year month then some (month, rest + 1)
      else splitMonths year months (rest - daysInMonth year month)

namespace Date

def dayNumber (date : Date) : Int :=
  yearStart date.year + monthStart date.year date.month + date.day - 1

def ofDayNumber? (number : Int) : Option Date :=
  let year := yearOfDay number
  let days := (number - yearStart year).toNat
  match splitMonths year [1, 2, 3, 4, 5, 6, 7, 8, 9, 10, 11, 12] days with
  | some (month, day) => of? year month day
  | none => none

def addDays? (date : Date) (days : Int) : Option Date :=
  ofDayNumber? (date.dayNumber + days)

def previous? (date : Date) : Option Date :=
  date.addDays? (-1)

instance : LE Date := ⟨fun first second => first.dayNumber ≤ second.dayNumber⟩

instance (first second : Date) : Decidable (first ≤ second) :=
  inferInstanceAs (Decidable (first.dayNumber ≤ second.dayNumber))

end Date

end SheetPost
