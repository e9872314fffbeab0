import SheetPost.Calendar.DayNumber

namespace SheetPost.Date

theorem isDate_first (date : Date) : IsDate date.year date.month 1 where
  afterFirst := date.isDate.afterFirst
  beforeLast := date.isDate.beforeLast
  monthPositive := date.isDate.monthPositive
  monthInYear := date.isDate.monthInYear
  dayPositive := Nat.le_refl 1
  dayInMonth := Nat.le_trans date.isDate.dayPositive date.isDate.dayInMonth

def firstOfMonth (date : Date) : Date :=
  ⟨date.year, date.month, 1, date.isDate_first⟩

def firstOfNextMonth? (date : Date) : Option Date :=
  if date.month = 12 then of? (date.year + 1) 1 1 else of? date.year (date.month + 1) 1

def monthRange (date : Date) : Date × Date :=
  (date.firstOfMonth, (date.firstOfNextMonth?.bind previous?).getD date)

end SheetPost.Date
