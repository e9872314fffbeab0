namespace SheetPost

def isLeapYear (year : Int) : Bool :=
  year % 4 = 0 ∧ (year % 100 ≠ 0 ∨ year % 400 = 0)

example : isLeapYear 2024 = true ∧ isLeapYear 1900 = false ∧ isLeapYear 2000 = true := by decide
example : isLeapYear (-4) = true ∧ isLeapYear (-100) = false := by decide

def daysInMonth (year : Int) : (month : Nat) → Nat
  | 2 => if isLeapYear year then 29 else 28
  | 4 | 6 | 9 | 11 => 30
  | _ => 31

def firstYear : Int := -262143

def lastYear : Int := 262142

structure IsDate (year : Int) (month day : Nat) : Prop where
  afterFirst : firstYear ≤ year
  beforeLast : year ≤ lastYear
  monthPositive : 1 ≤ month
  monthInYear : month ≤ 12
  dayPositive : 1 ≤ day
  dayInMonth : day ≤ daysInMonth year month

instance (year : Int) (month day : Nat) : Decidable (IsDate year month day) :=
  decidable_of_iff
    (firstYear ≤ year ∧ year ≤ lastYear ∧ 1 ≤ month ∧ month ≤ 12 ∧ 1 ≤ day ∧
      day ≤ daysInMonth year month)
    ⟨fun ⟨afterFirst, beforeLast, monthPositive, monthInYear, dayPositive, dayInMonth⟩ =>
        ⟨afterFirst, beforeLast, monthPositive, monthInYear, dayPositive, dayInMonth⟩,
      fun date => ⟨date.afterFirst, date.beforeLast, date.monthPositive, date.monthInYear,
        date.dayPositive, date.dayInMonth⟩⟩

structure Date where
  year : Int
  month : Nat
  day : Nat
  isDate : IsDate year month day
deriving DecidableEq

namespace Date

def of? (year : Int) (month day : Nat) : Option Date :=
  if isDate : IsDate year month day then some ⟨year, month, day, isDate⟩ else none

theorem of?_eq_some_iff (year : Int) (month day : Nat) (date : Date) :
    of? year month day = some date ↔
      date.year = year ∧ date.month = month ∧ date.day = day := by
  rw [of?]
  constructor
  · intro equal
    split at equal
    · cases equal; exact ⟨rfl, rfl, rfl⟩
    · cases equal
  · rintro ⟨rfl, rfl, rfl⟩
    simp [date.isDate]

theorem of?_fields (date : Date) : of? date.year date.month date.day = some date :=
  (of?_eq_some_iff ..).2 ⟨rfl, rfl, rfl⟩

end Date

end SheetPost
