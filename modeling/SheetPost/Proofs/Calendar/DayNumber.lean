import Mathlib.Order.Monotone.Basic
import SheetPost.Calendar.DayNumber

namespace SheetPost

/-! ## Years -/

def daysInYear (year : Int) : Nat :=
  if isLeapYear year then 366 else 365

theorem yearStart_succ (year : Int) : yearStart (year + 1) = yearStart year + daysInYear year := by
  unfold yearStart daysInYear isLeapYear
  by_cases leap : year % 4 = 0 ∧ (year % 100 ≠ 0 ∨ year % 400 = 0)
  · rw [if_pos (decide_eq_true leap)]
    omega
  · rw [if_neg (by simpa using leap)]
    omega

theorem daysInYear_pos (year : Int) : 0 < daysInYear year := by
  unfold daysInYear
  split <;> omega

theorem yearStart_lt_iff {first second : Int} :
    yearStart first < yearStart second ↔ first < second := by
  have ascends : StrictMono yearStart := by
    apply strictMono_int_of_lt_succ
    intro year
    have positive := daysInYear_pos year
    rw [yearStart_succ]
    omega
  exact ascends.lt_iff_lt

/-- In 400 years there are 146097 days. -/
theorem yearStart_bounds (year : Int) :
    146097 * year ≤ 400 * yearStart year + 396 ∧ 400 * yearStart year ≤ 146097 * year + 699 := by
  unfold yearStart
  omega

theorem yearOfDay_bounds (number : Int) :
    yearStart (yearOfDay number) ≤ number ∧ number < yearStart (yearOfDay number + 1) := by
  unfold yearOfDay
  generalize guessed : number * 400 / 146097 = guess
  have before := yearStart_bounds (guess - 1)
  have after := yearStart_bounds (guess + 1 + 1)
  dsimp only
  split
  · rw [Int.sub_add_cancel]
    omega
  · split <;> omega

theorem yearOfDay_eq_iff {number year : Int} :
    yearOfDay number = year ↔ yearStart year ≤ number ∧ number < yearStart (year + 1) := by
  have found := yearOfDay_bounds number
  constructor
  · rintro rfl
    exact found
  · rintro ⟨low, high⟩
    have notEarlier := yearStart_lt_iff.mp (found.1.trans_lt high)
    have notLater := yearStart_lt_iff.mp (low.trans_lt found.2)
    omega

/-! ## Months -/

theorem monthStart_succ (year : Int) {month : Nat} (positive : 1 ≤ month) :
    monthStart year (month + 1) = monthStart year month + daysInMonth year month := by
  cases month with
  | zero => cases positive
  | succ month => rfl

theorem monthStart_add_days_le (year : Int) {month later : Nat} (positive : 1 ≤ month)
    (order : month < later) :
    monthStart year month + daysInMonth year month ≤ monthStart year later := by
  induction later, order using Nat.le_induction with
  | base => rw [monthStart_succ year positive]
  | succ later order induction =>
      rw [monthStart_succ year (by omega)]
      omega

theorem monthStart_after_last (year : Int) : monthStart year 13 = daysInYear year := by
  simp only [monthStart, daysInMonth, daysInYear]
  split <;> rfl

theorem splitMonths_eq_some_iff (year : Int) {first : Nat} (count rest month day : Nat)
    (positive : 1 ≤ first) :
    splitMonths year (List.range' first count) rest = some (month, day) ↔
      (first ≤ month ∧ month < first + count) ∧ (1 ≤ day ∧ day ≤ daysInMonth year month) ∧
        monthStart year first + rest + 1 = monthStart year month + day := by
  induction count generalizing first rest with
  | zero =>
      apply iff_of_false
      · exact nofun
      · omega
  | succ count induction =>
      have next := monthStart_succ year positive
      have later : first < month → monthStart year first + daysInMonth year first ≤
          monthStart year month := monthStart_add_days_le year positive
      rw [List.range'_succ, splitMonths]
      split
      · constructor
        · intro same
          cases same
          omega
        · rintro ⟨⟨low, _⟩, ⟨dayLow, _⟩, placed⟩
          obtain rfl : first = month := by
            by_contra different
            have := later (by omega)
            omega
          obtain rfl : rest + 1 = day := by omega
          rfl
      · rw [induction _ (Nat.le_succ_of_le positive), next]
        by_cases same : first = month
        · subst same
          omega
        · omega

theorem splitMonths_isSome (year : Int) {first : Nat} (count rest : Nat) (positive : 1 ≤ first)
    (inside : monthStart year first + rest < monthStart year (first + count)) :
    (splitMonths year (List.range' first count) rest).isSome = true := by
  induction count generalizing first rest with
  | zero =>
      rw [Nat.add_zero] at inside
      omega
  | succ count induction =>
      have next := monthStart_succ year positive
      rw [List.range'_succ, splitMonths]
      split
      · rfl
      · apply induction _ (Nat.le_succ_of_le positive)
        have same : first + 1 + count = first + (count + 1) := by omega
        rw [next, same]
        omega

/-! ## Dates -/

namespace Date

theorem yearOfDay_dayNumber (date : Date) : yearOfDay date.dayNumber = date.year := by
  have isDate := date.isDate
  have days := isDate.dayInMonth
  have ended := monthStart_add_days_le date.year isDate.monthPositive
    (Nat.lt_succ_of_le isDate.monthInYear)
  rw [monthStart_after_last] at ended
  have positive := isDate.dayPositive
  rw [yearOfDay_eq_iff, yearStart_succ, dayNumber]
  omega

theorem splitMonths_year {year : Int} {rest month day : Nat} :
    splitMonths year [1, 2, 3, 4, 5, 6, 7, 8, 9, 10, 11, 12] rest = some (month, day) ↔
      (1 ≤ month ∧ month < 13) ∧ (1 ≤ day ∧ day ≤ daysInMonth year month) ∧
        rest + 1 = monthStart year month + day := by
  have months := splitMonths_eq_some_iff year 12 rest month day (Nat.le_refl 1)
  have start : monthStart year 1 = 0 := rfl
  rw [start, Nat.zero_add] at months
  exact months

theorem ofDayNumber?_eq_some_iff {number : Int} {date : Date} :
    ofDayNumber? number = some date ↔ date.dayNumber = number := by
  unfold ofDayNumber?
  constructor
  · intro found
    dsimp only at found
    split at found
    · next month day split =>
        rcases (of?_eq_some_iff ..).mp found with ⟨year, rfl, rfl⟩
        rcases splitMonths_year.mp split with ⟨_, _, placed⟩
        have bounds := yearOfDay_bounds number
        rw [dayNumber, year]
        omega
    · cases found
  · rintro rfl
    rw [yearOfDay_dayNumber]
    have isDate := date.isDate
    have bounds := yearOfDay_eq_iff.mp date.yearOfDay_dayNumber
    have split : splitMonths date.year [1, 2, 3, 4, 5, 6, 7, 8, 9, 10, 11, 12]
        (date.dayNumber - yearStart date.year).toNat = some (date.month, date.day) := by
      refine splitMonths_year.mpr ⟨⟨isDate.monthPositive, Nat.lt_succ_of_le isDate.monthInYear⟩,
        ⟨isDate.dayPositive, isDate.dayInMonth⟩, ?_⟩
      have positive := isDate.dayPositive
      unfold dayNumber
      omega
    dsimp only
    rw [split]
    exact of?_fields date

theorem exists_of_dayNumber {number : Int} (first : yearStart firstYear ≤ number)
    (last : number < yearStart (lastYear + 1)) : ∃ date : Date, date.dayNumber = number := by
  have bounds := yearOfDay_bounds number
  have afterFirst := yearStart_lt_iff.mp (first.trans_lt bounds.2)
  have beforeLast := yearStart_lt_iff.mp (bounds.1.trans_lt last)
  have length := yearStart_succ (yearOfDay number)
  let rest := (number - yearStart (yearOfDay number)).toNat
  have found : (splitMonths (yearOfDay number) (List.range' 1 12) rest).isSome = true := by
    apply splitMonths_isSome _ _ _ (Nat.le_refl 1)
    have start : monthStart (yearOfDay number) 1 = 0 := rfl
    have end_ : monthStart (yearOfDay number) (1 + 12) = _ := monthStart_after_last _
    omega
  rcases Option.isSome_iff_exists.mp found with ⟨⟨month, day⟩, split⟩
  rcases splitMonths_year.mp split with ⟨⟨monthLow, monthHigh⟩, ⟨dayLow, dayHigh⟩, placed⟩
  refine ⟨⟨yearOfDay number, month, day, ?_⟩, ?_⟩
  · exact ⟨by omega, by omega, monthLow, by omega, dayLow, dayHigh⟩
  · unfold dayNumber
    dsimp only
    omega

theorem dayNumber_lt_yearStart_iff (date : Date) (year : Int) :
    date.dayNumber < yearStart year ↔ date.year < year := by
  have bounds := yearOfDay_eq_iff.mp date.yearOfDay_dayNumber
  constructor
  · intro before
    exact yearStart_lt_iff.mp (bounds.1.trans_lt before)
  · intro earlier
    have next : yearStart (date.year + 1) ≤ yearStart year :=
      Int.not_lt.mp (mt yearStart_lt_iff.mp (Int.not_lt.mpr earlier))
    exact bounds.2.trans_le next

end Date

end SheetPost
