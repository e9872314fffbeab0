import SheetPost.Calendar.Month
import SheetPost.Proofs.Calendar.DayNumber

namespace SheetPost.Date

def monthNumber (date : Date) : Int :=
  12 * date.year + date.month - 1

theorem monthNumber_eq_iff {first second : Date} :
    first.monthNumber = second.monthNumber ↔
      first.year = second.year ∧ first.month = second.month := by
  have firstDate := first.isDate
  have secondDate := second.isDate
  have lowFirst := firstDate.monthPositive
  have highFirst := firstDate.monthInYear
  have lowSecond := secondDate.monthPositive
  have highSecond := secondDate.monthInYear
  unfold monthNumber
  omega

/-! ## The order of the days -/

def monthBegin (date : Date) : Int :=
  yearStart date.year + monthStart date.year date.month

theorem dayNumber_eq (date : Date) : date.dayNumber = date.monthBegin + date.day - 1 := rfl

theorem monthBegin_congr {first second : Date} (same : first.monthNumber = second.monthNumber) :
    first.monthBegin = second.monthBegin := by
  rcases monthNumber_eq_iff.mp same with ⟨year, month⟩
  rw [monthBegin, year, month, monthBegin]

theorem monthBegin_next {date next : Date} (follows : next.monthNumber = date.monthNumber + 1) :
    next.monthBegin = date.monthBegin + daysInMonth date.year date.month := by
  have isDate := date.isDate
  have isNext := next.isDate
  have lowMonth := isDate.monthPositive
  have highMonth := isDate.monthInYear
  have lowNext := isNext.monthPositive
  have highNext := isNext.monthInYear
  have ended := monthStart_succ date.year lowMonth
  unfold monthNumber at follows
  unfold monthBegin
  by_cases december : date.month = 12
  · have year : next.year = date.year + 1 := by omega
    have month : next.month = 1 := by omega
    rw [december, monthStart_after_last] at ended
    rw [year, month, december, yearStart_succ, monthStart]
    omega
  · have year : next.year = date.year := by omega
    have month : next.month = date.month + 1 := by omega
    rw [year, month]
    omega

theorem monthBegin_add_days_le {date later : Date} (order : date.monthNumber < later.monthNumber) :
    date.monthBegin + daysInMonth date.year date.month ≤ later.monthBegin := by
  have isDate := date.isDate
  have isLater := later.isDate
  have highMonth := isDate.monthInYear
  have lowLater := isLater.monthPositive
  unfold monthNumber at order
  unfold monthBegin
  by_cases sameYear : later.year = date.year
  · have ended := monthStart_add_days_le date.year isDate.monthPositive
      (by omega : date.month < later.month)
    rw [sameYear]
    omega
  · have ended := monthStart_add_days_le date.year isDate.monthPositive
      (Nat.lt_succ_of_le highMonth)
    rw [monthStart_after_last] at ended
    have years : ¬ yearStart later.year < yearStart (date.year + 1) := by
      rw [yearStart_lt_iff]
      have := isLater.monthInYear
      have := isDate.monthPositive
      omega
    rw [yearStart_succ] at years
    omega

theorem le_iff {first second : Date} :
    first ≤ second ↔
      first.monthNumber < second.monthNumber ∨
        first.monthNumber = second.monthNumber ∧ first.day ≤ second.day := by
  have order : first ≤ second ↔ first.dayNumber ≤ second.dayNumber := Iff.rfl
  have firstPositive := first.isDate.dayPositive
  have firstInMonth := first.isDate.dayInMonth
  have secondPositive := second.isDate.dayPositive
  have secondInMonth := second.isDate.dayInMonth
  rw [order, dayNumber_eq, dayNumber_eq]
  rcases lt_trichotomy first.monthNumber second.monthNumber with before | same | after
  · have begins := monthBegin_add_days_le before
    omega
  · have begins := monthBegin_congr same
    omega
  · have begins := monthBegin_add_days_le after
    omega

/-- The days up to this one are those before the next. -/
def IsDayBefore (date next : Date) : Prop :=
  ∀ day : Date, day ≤ date ↔ ¬ next ≤ day

/-! ## The last day of a month -/

theorem isDate_last (date : Date) :
    IsDate date.year date.month (daysInMonth date.year date.month) :=
  { date.isDate_first with
    dayPositive := Nat.le_trans date.isDate.dayPositive date.isDate.dayInMonth
    dayInMonth := Nat.le_refl _ }

def lastOfMonth (date : Date) : Date :=
  ⟨date.year, date.month, daysInMonth date.year date.month, date.isDate_last⟩

def StartsMonthAfter (next date : Date) : Prop :=
  next.monthNumber = date.monthNumber + 1 ∧ next.day = 1

instance (next date : Date) : Decidable (next.StartsMonthAfter date) :=
  inferInstanceAs (Decidable (_ ∧ _))

theorem firstOfNextMonth?_eq_some_iff {date next : Date} :
    date.firstOfNextMonth? = some next ↔ next.StartsMonthAfter date := by
  have isDate := date.isDate
  have isNext := next.isDate
  have highMonth := isDate.monthInYear
  have lowNext := isNext.monthPositive
  have highNext := isNext.monthInYear
  unfold firstOfNextMonth? StartsMonthAfter monthNumber
  split
  · rw [of?_eq_some_iff]
    omega
  · rw [of?_eq_some_iff]
    omega

theorem previous?_of_startsMonthAfter {date next : Date} (starts : next.StartsMonthAfter date) :
    next.previous? = some date.lastOfMonth := by
  have begins := monthBegin_next starts.1
  have last : date.lastOfMonth.monthBegin = date.monthBegin := rfl
  have length : date.lastOfMonth.day = daysInMonth date.year date.month := rfl
  refine ofDayNumber?_eq_some_iff.mpr ?_
  rw [dayNumber_eq, dayNumber_eq, starts.2, begins, last, length]
  omega

theorem isDayBefore_of_startsMonthAfter {date next : Date} (starts : next.StartsMonthAfter date) :
    date.lastOfMonth.IsDayBefore next := by
  intro day
  have dayPositive := day.isDate.dayPositive
  have last : date.lastOfMonth.monthNumber = date.monthNumber := rfl
  have length : date.lastOfMonth.day = daysInMonth date.year date.month := rfl
  have inMonth : day.monthNumber = date.monthNumber →
      day.day ≤ daysInMonth date.year date.month := by
    intro same
    rcases monthNumber_eq_iff.mp same with ⟨year, month⟩
    rw [← year, ← month]
    exact day.isDate.dayInMonth
  rw [le_iff, le_iff, starts.1, starts.2, last, length]
  omega

/-! ## The range of a date -/

theorem monthRange_of_startsMonthAfter {date next : Date} (starts : next.StartsMonthAfter date) :
    date.monthRange = (date.firstOfMonth, date.lastOfMonth) := by
  have found := firstOfNextMonth?_eq_some_iff.mpr starts
  have before := previous?_of_startsMonthAfter starts
  rw [monthRange, found, Option.bind_some, before, Option.getD_some]

theorem monthRange_cases (date : Date) :
    date.monthRange = (date.firstOfMonth, date.lastOfMonth) ∨
      date.monthRange = (date.firstOfMonth, date) := by
  cases found : date.firstOfNextMonth? with
  | some next =>
      exact .inl (monthRange_of_startsMonthAfter (firstOfNextMonth?_eq_some_iff.mp found))
  | none => exact .inr (by rw [monthRange, found, Option.bind_none, Option.getD_none])

theorem firstOfMonth_le (date : Date) : date.firstOfMonth ≤ date :=
  le_iff.mpr (.inr ⟨rfl, date.isDate.dayPositive⟩)

theorem le_lastOfMonth (date : Date) : date ≤ date.lastOfMonth :=
  le_iff.mpr (.inr ⟨rfl, date.isDate.dayInMonth⟩)

theorem inMonth_iff {date day : Date} :
    date.firstOfMonth ≤ day ∧ day ≤ date.lastOfMonth ↔ day.monthNumber = date.monthNumber := by
  have dayPositive := day.isDate.dayPositive
  have first : date.firstOfMonth.monthNumber = date.monthNumber := rfl
  have last : date.lastOfMonth.monthNumber = date.monthNumber := rfl
  constructor
  · rintro ⟨afterFirst, beforeLast⟩
    rw [le_iff, first] at afterFirst
    rw [le_iff, last] at beforeLast
    omega
  · intro same
    have begins := le_iff.mpr (.inr ⟨first.trans same.symm, dayPositive⟩)
    have ends := day.le_lastOfMonth
    rcases monthNumber_eq_iff.mp same with ⟨year, month⟩
    refine ⟨begins, ?_⟩
    unfold lastOfMonth at ends ⊢
    simp only [year, month] at ends
    exact ends

/-- Ranges of days that cut the calendar into its months. Where a month is followed by another one,
its range is the whole month. -/
structure CutsMonths (range : Date → Date × Date) : Prop where
  begins : ∀ date, (range date).1.year = date.year ∧ (range date).1.month = date.month ∧
    (range date).1.day = 1
  encloses : ∀ date, (range date).1 ≤ date ∧ date ≤ (range date).2
  ends : ∀ date, (range date).2.year = date.year ∧ (range date).2.month = date.month
  whole : ∀ date next : Date, next.StartsMonthAfter date →
    (range date).2.day = daysInMonth date.year date.month ∧ (range date).2.IsDayBefore next
  shared : ∀ date other next : Date, next.StartsMonthAfter date →
    other.year = date.year → other.month = date.month → range other = range date
  adjacent : ∀ date later next : Date, next.StartsMonthAfter date →
    later.monthNumber = date.monthNumber + 1 → (range date).2.IsDayBefore (range later).1
  days : ∀ date next day : Date, next.StartsMonthAfter date →
    ((range date).1 ≤ day ∧ day ≤ (range date).2 ↔
      day.year = date.year ∧ day.month = date.month)

theorem monthRange_cutsMonths : CutsMonths monthRange where
  begins := fun _ => ⟨rfl, rfl, rfl⟩
  encloses := by
    intro date
    rcases date.monthRange_cases with range | range <;> rw [range]
    · exact ⟨date.firstOfMonth_le, date.le_lastOfMonth⟩
    · exact ⟨date.firstOfMonth_le, le_iff.mpr (.inr ⟨rfl, Nat.le_refl _⟩)⟩
  ends := by
    intro date
    rcases date.monthRange_cases with range | range <;> rw [range] <;> exact ⟨rfl, rfl⟩
  whole := by
    intro date next starts
    rw [monthRange_of_startsMonthAfter starts]
    exact ⟨rfl, isDayBefore_of_startsMonthAfter starts⟩
  shared := by
    intro date other next starts year month
    have same := monthNumber_eq_iff.mpr ⟨year, month⟩
    have startsOther : next.StartsMonthAfter other := by
      rw [StartsMonthAfter, same]
      exact starts
    rw [monthRange_of_startsMonthAfter starts, monthRange_of_startsMonthAfter startsOther]
    unfold firstOfMonth lastOfMonth
    simp only [year, month]
  adjacent := by
    intro date later next starts follows
    have startsLater : later.firstOfMonth.StartsMonthAfter date := ⟨follows, rfl⟩
    rw [monthRange_of_startsMonthAfter starts]
    exact isDayBefore_of_startsMonthAfter startsLater
  days := by
    intro date next day starts
    rw [monthRange_of_startsMonthAfter starts, ← monthNumber_eq_iff]
    exact inMonth_iff

/-- A February with a leap day, the turn of a year, and the last month of the calendar. -/
theorem monthRange_cutsMonths_turn :
    let february : Date := ⟨2024, 2, 14, by decide⟩
    let march : Date := ⟨2024, 3, 1, by decide⟩
    let december : Date := ⟨2025, 12, 31, by decide⟩
    let january : Date := ⟨2026, 1, 20, by decide⟩
    let newYear : Date := ⟨2026, 1, 1, by decide⟩
    let last : Date := ⟨262142, 12, 5, by decide⟩
    (march.StartsMonthAfter february ∧ february.monthRange.2.day = 29 ∧
        february.monthRange.2.IsDayBefore march) ∧
      (newYear.StartsMonthAfter december ∧ january.monthNumber = december.monthNumber + 1 ∧
        december.monthRange.2.IsDayBefore january.monthRange.1) ∧
      last.firstOfNextMonth? = none ∧ last.monthRange.1 ≤ last ∧ last ≤ last.monthRange.2 := by
  intro february march december january newYear last
  have leaps : march.StartsMonthAfter february := by decide
  have turns : newYear.StartsMonthAfter december := by decide
  have whole := monthRange_cutsMonths.whole february march leaps
  refine ⟨⟨leaps, whole⟩, ⟨turns, by decide, ?_⟩, by decide, monthRange_cutsMonths.encloses last⟩
  exact monthRange_cutsMonths.adjacent december january newYear turns (by decide)

end SheetPost.Date
