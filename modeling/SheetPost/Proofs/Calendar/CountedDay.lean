import SheetPost.Proofs.Calendar.Serial
import SheetPost.Proofs.Number.ExactValue

/-!
# The count of days that serial numbers follow

Serial numbers count days from the first of January 1900 on, which is day 1, in a calendar of its
own: February 1900 has a twenty-ninth there. That day is day 60. Reading follows this count to the
end of the calendar, gives day 60 the date of day 61, and looks at nothing but the whole part of a
serial number. So it keeps the order of the numbers, and no other two days share a date.
-/

namespace SheetPost

/-! ## The count -/

/-- The days of a month as the count has them. -/
def daysCounted (year : Int) (month : Nat) : Nat :=
  if year = 1900 ∧ month = 2 then 29 else daysInMonth year month

def monthsCounted (year : Int) : (months : Nat) → Nat
  | 0 => 0
  | months + 1 => monthsCounted year months + daysCounted year (months + 1)

def yearsCounted : (years : Nat) → Nat
  | 0 => 0
  | years + 1 => yearsCounted years + monthsCounted (1900 + years) 12

example : yearsCounted 1 = 366 ∧ monthsCounted 1900 2 = 60 ∧ monthsCounted 1901 2 = 59 := by decide

def Date.countedDay (date : Date) : Nat :=
  yearsCounted (date.year - 1900).toNat + monthsCounted date.year (date.month - 1) + date.day

theorem monthsCounted_eq (year : Int) (months : Nat) :
    monthsCounted year months =
      monthStart year (months + 1) + if year = 1900 ∧ 2 ≤ months then 1 else 0 := by
  induction months with
  | zero => simp [monthsCounted, monthStart]
  | succ months induction =>
      rw [monthsCounted, induction, monthStart_succ year (Nat.succ_pos months), daysCounted]
      by_cases common : year = 1900
      · by_cases february : months = 1
        · subst common february
          decide
        · have same : 2 ≤ months ↔ 2 ≤ months + 1 := by omega
          simp [common, february, same]
          omega
      · simp [common]

theorem monthsCounted_year (year : Int) :
    monthsCounted year 12 = daysInYear year + if year = 1900 then 1 else 0 := by
  simp [monthsCounted_eq, monthStart_after_last]

theorem yearsCounted_eq (years : Nat) :
    (yearsCounted years : Int) =
      yearStart (1900 + years) - yearStart 1900 + if years = 0 then 0 else 1 := by
  induction years with
  | zero => simp [yearsCounted]
  | succ years induction =>
      have next := yearStart_succ (1900 + years)
      have isFirst : (1900 : Int) + years = 1900 ↔ years = 0 := by omega
      have isNext : (1900 : Int) + (years + 1 : Nat) = 1900 + years + 1 := by omega
      rw [isNext, next, yearsCounted, monthsCounted_year]
      push_cast
      rw [induction]
      by_cases begins : years = 0
      · simp [begins]
      · simp [begins, isFirst]
        omega

namespace Date

theorem sixty_le_iff {date : Date} (first : date.year = 1900) :
    60 ≤ monthStart 1900 date.month + date.day ↔ 3 ≤ date.month := by
  have ⟨_, _, monthPositive, _, dayPositive, dayInMonth⟩ := date.isDate
  rw [first] at dayInMonth
  constructor
  · intro late
    by_contra early
    have january : monthStart 1900 1 + daysInMonth 1900 1 = 31 := by decide
    have february : monthStart 1900 2 + daysInMonth 1900 2 = 59 := by decide
    have month : date.month = 1 ∨ date.month = 2 := by omega
    rcases month with month | month <;> rw [month] at late dayInMonth <;> omega
  · intro march
    have begins := monthStart_add_days_le 1900 (by omega : 1 ≤ 2) march
    have february : monthStart 1900 2 + daysInMonth 1900 2 = 59 := by decide
    omega

theorem countedDay_eq_serial {date : Date} (counted : 1900 ≤ date.year) :
    date.countedDay = date.serial := by
  have ⟨_, _, monthPositive, _, dayPositive, _⟩ := date.isDate
  have begins : yearStart 1900 = 693961 := by decide
  have years := yearsCounted_eq (date.year - 1900).toNat
  have sum : 1900 + ((date.year - 1900).toNat : Int) = date.year := by omega
  rw [sum, begins] at years
  have months := monthsCounted_eq date.year (date.month - 1)
  rw [Nat.sub_add_cancel monthPositive] at months
  unfold countedDay serial
  rw [dayNumber_serialOrigin, dayNumber, months]
  dsimp only
  by_cases first : date.year = 1900
  · have late := sixty_le_iff first
    have same : 2 ≤ date.month - 1 ↔ 3 ≤ date.month := by omega
    have passed : (yearStart 1900 + monthStart 1900 date.month + date.day - 1 - 693960).toNat =
        monthStart 1900 date.month + date.day := by omega
    have none : yearsCounted (1900 - 1900 : Int).toNat = 0 := rfl
    simp only [first, same, ← late, passed, none, true_and]
    split <;> omega
  · have after : yearStart 1901 ≤ yearStart date.year := by
      apply Int.not_lt.mp
      rw [yearStart_lt_iff]
      omega
    have next : yearStart 1901 = 694326 := by decide
    have notFirst : (date.year - 1900).toNat ≠ 0 := by omega
    rw [if_neg notFirst] at years
    simp only [first, false_and, if_false]
    split <;> omega

/-! ## Days of the count and dates -/

/-- The date that a day of the count stands for. Day 60 never was; it stands for the day after. -/
def CountsTo (day : Int) (date : Date) : Prop :=
  1900 ≤ date.year ∧ (day = date.countedDay ∨ day = 60 ∧ date.countedDay = 61)

instance (day : Int) (date : Date) : Decidable (CountsTo day date) :=
  inferInstanceAs (Decidable (_ ∧ _))

theorem year_of_serialOrigin_lt {date : Date} :
    1900 ≤ date.year ↔ serialOrigin.dayNumber < date.dayNumber := by
  have before := date.dayNumber_lt_yearStart_iff 1900
  have begins : yearStart 1900 = 693961 := by decide
  rw [dayNumber_serialOrigin]
  omega

theorem countsTo_iff {day : Int} {date : Date} :
    CountsTo day date ↔
      1 ≤ day ∧ date.dayNumber = serialOrigin.dayNumber + daysOfSerial day.toNat := by
  constructor
  · intro ⟨counted, stands⟩
    have after := year_of_serialOrigin_lt.mp counted
    have placed := daysOfSerial_serial (Int.le_of_lt after)
    have positive := serial_pos after
    rw [countedDay_eq_serial counted] at stands
    rcases stands with same | ⟨never, next⟩
    · subst same
      simp only [Int.toNat_natCast]
      omega
    · subst never
      rw [next] at placed
      exact ⟨by omega, placed.symm⟩
  · intro ⟨positive, placed⟩
    have days : 1 ≤ daysOfSerial day.toNat := by
      unfold daysOfSerial
      split <;> omega
    have counted : 1900 ≤ date.year := year_of_serialOrigin_lt.mpr (by omega)
    have number := serial_of_daysOfSerial placed
    rw [← countedDay_eq_serial counted] at number
    refine ⟨counted, ?_⟩
    split at number <;> omega

def ofCountedDay (day : Int) : Except DayCountOverflow (Option Date) :=
  if day < 1 then .ok none
  else if lastCountedDay < day then .error ⟨day.toNat⟩
  else .ok (serialOrigin.addDays? (daysOfSerial day.toNat))

theorem ofSerial_eq_ofCountedDay {serial : Number} {value : ℚ}
    (known : serial.value? = some value) : ofSerial serial = ofCountedDay ⌊value⌋ := by
  cases serial with
  | nan => cases known
  | infinite negative => cases known
  | finite negative magnitude =>
      cases negative with
      | true =>
          cases known
          have below : ⌊-magnitude.value⌋ < 1 := by
            rw [Int.floor_lt]
            have := magnitude.value_nonneg
            push_cast
            linarith
          rw [ofCountedDay, if_pos below]
          rfl
      | false =>
          cases known
          rw [magnitude.floor_value, ofCountedDay, ofSerial]
          by_cases none : magnitude.whole = 0
          · simp [none]
          · have some_ : ¬(magnitude.whole : Int) < 1 := by omega
            rw [if_neg none, if_neg some_]
            by_cases beyond : lastCountedDay < magnitude.whole
            · simp [beyond]
            · simp [beyond, daysOfSerial]

theorem lt_of_countsTo {day : Int} {date : Date} (stands : CountsTo day date) :
    day ≤ lastCountedDay := by
  have ⟨_, placed⟩ := countsTo_iff.mp stands
  have last := (date.dayNumber_lt_yearStart_iff (lastYear + 1)).mpr
    (Int.lt_add_one_of_le date.isDate.beforeLast)
  have end_ : yearStart (lastYear + 1) = 95745765 := by decide
  rw [end_, placed, dayNumber_serialOrigin] at last
  unfold daysOfSerial at last
  rw [lastCountedDay]
  split at last <;> omega

theorem ofCountedDay_eq_date_iff {day : Int} {date : Date} :
    ofCountedDay day = .ok (some date) ↔ CountsTo day date := by
  have found : serialOrigin.addDays? (daysOfSerial day.toNat) = some date ↔ _ :=
    ofDayNumber?_eq_some_iff
  constructor
  · intro read
    unfold ofCountedDay at read
    split at read
    · cases read
    · split at read
      · cases read
      · rw [countsTo_iff]
        have isDate := found.mp (Except.ok.inj read)
        omega
  · intro stands
    have notBeyond := lt_of_countsTo stands
    have ⟨positive, placed⟩ := countsTo_iff.mp stands
    rw [ofCountedDay, if_neg (by omega), if_neg (by omega), found.mpr placed]

theorem ofCountedDay_eq_error_iff {day : Int} {overflow : DayCountOverflow} :
    ofCountedDay day = .error overflow ↔ lastCountedDay < day ∧ overflow = ⟨day.toNat⟩ := by
  unfold ofCountedDay
  have positive : 0 < lastCountedDay := by decide
  split
  · simp
    omega
  · split
    · simp_all [eq_comm]
    · simp_all

/-! ## Reading follows the count -/

def firstCounted : Date :=
  ⟨1900, 1, 1, by decide⟩

theorem firstCounted_le_iff {date : Date} : firstCounted ≤ date ↔ 1900 ≤ date.year := by
  have order : firstCounted ≤ date ↔ firstCounted.dayNumber ≤ date.dayNumber := Iff.rfl
  have first : firstCounted.dayNumber = serialOrigin.dayNumber + 1 := by decide
  rw [order, year_of_serialOrigin_lt]
  omega

theorem le_of_countsTo {day later : Int} {date laterDate : Date} (stands : CountsTo day date)
    (standsLater : CountsTo later laterDate) (order : day ≤ later) : date ≤ laterDate := by
  have ⟨_, placed⟩ := countsTo_iff.mp stands
  have ⟨_, placedLater⟩ := countsTo_iff.mp standsLater
  have days : daysOfSerial day.toNat ≤ daysOfSerial later.toNat := by
    unfold daysOfSerial
    split <;> split <;> omega
  change date.dayNumber ≤ laterDate.dayNumber
  omega

theorem share_iff {day later : Int} (order : day < later) :
    (∃ date, CountsTo day date ∧ CountsTo later date) ↔ day = 60 ∧ later = 61 := by
  constructor
  · intro ⟨date, ⟨_, stands⟩, ⟨_, standsLater⟩⟩
    omega
  · intro ⟨never, next⟩
    subst never next
    exact ⟨⟨1900, 3, 1, by decide⟩, by decide, by decide⟩

/-- A reader of serial numbers follows the count: whole numbers are the days of the count, and what
is behind the point does not matter. -/
structure FollowsCount (read : Number → Except DayCountOverflow (Option Date)) : Prop where
  ascends : ∀ serial later value laterValue date laterDate, serial.value? = some value →
    later.value? = some laterValue → value ≤ laterValue → read serial = .ok (some date) →
      read later = .ok (some laterDate) → date ≤ laterDate
  wholePart : ∀ serial other value otherValue, serial.value? = some value →
    other.value? = some otherValue → ⌊value⌋ = ⌊otherValue⌋ → read serial = read other
  oneCollision : ∀ serial other (day later : ℤ), serial.value? = some (day : ℚ) →
    other.value? = some (later : ℚ) → day < later →
      ((∃ date, read serial = .ok (some date) ∧ read other = .ok (some date)) ↔
        day = 60 ∧ later = 61)
  reaches : ∀ date, firstCounted ≤ date →
    ∃ serial, serial.value? = some (date.countedDay : ℚ) ∧ read serial = .ok (some date)

theorem ofSerial_followsCount : FollowsCount ofSerial where
  ascends := by
    intro serial later value laterValue date laterDate known laterKnown order read laterRead
    rw [ofSerial_eq_ofCountedDay known, ofCountedDay_eq_date_iff] at read
    rw [ofSerial_eq_ofCountedDay laterKnown, ofCountedDay_eq_date_iff] at laterRead
    exact le_of_countsTo read laterRead (Int.floor_mono order)
  wholePart := by
    intro serial other value otherValue known otherKnown same
    rw [ofSerial_eq_ofCountedDay known, ofSerial_eq_ofCountedDay otherKnown, same]
  oneCollision := by
    intro serial other day later known otherKnown order
    simp only [ofSerial_eq_ofCountedDay known, ofSerial_eq_ofCountedDay otherKnown,
      Int.floor_intCast, ofCountedDay_eq_date_iff]
    exact share_iff order
  reaches := by
    intro date counted
    rw [firstCounted_le_iff] at counted
    have stands : CountsTo date.countedDay date := ⟨counted, .inl rfl⟩
    have small : date.countedDay < 2 ^ 53 := by
      have := lt_of_countsTo stands
      rw [lastCountedDay] at this
      omega
    have known := Number.value?_ofNat date.countedDay small
    refine ⟨.ofNat date.countedDay, known, ?_⟩
    rw [ofSerial_eq_ofCountedDay known, Int.floor_natCast, ofCountedDay_eq_date_iff]
    exact stands

/-- A moment on the first of January 2025, both numbers for the first of March 1900, and the last
day of the calendar. -/
theorem ofSerial_followsCount_seam :
    let moment : Magnitude := ⟨182635 * 2 ^ 35, -37, by decide⟩
    let last : Date := ⟨262142, 12, 31, by decide⟩
    ofSerial (.finite false moment) = ofSerial (.ofNat 45658) ∧
      (∃ date, ofSerial (.ofNat 60) = .ok (some date) ∧ ofSerial (.ofNat 61) = .ok (some date)) ∧
      (∀ date, ofSerial (.ofNat 60) = .ok (some date) → ∀ laterDate,
        ofSerial (.ofNat 45658) = .ok (some laterDate) → date ≤ laterDate) ∧
      ∃ serial, serial.value? = some (last.countedDay : ℚ) ∧ ofSerial serial = .ok (some last) := by
  intro moment last
  have whole : moment.whole = 45658 := by decide +kernel
  have sixty := Number.value?_ofNat 60 (by decide)
  have sixtyOne := Number.value?_ofNat 61 (by decide)
  have newYear := Number.value?_ofNat 45658 (by decide)
  refine ⟨ofSerial_followsCount.wholePart _ _ moment.value _ rfl newYear ?_,
    (ofSerial_followsCount.oneCollision _ _ 60 61 sixty sixtyOne (by decide)).mpr ⟨rfl, rfl⟩, ?_,
    ofSerial_followsCount.reaches last (by decide)⟩
  · rw [moment.floor_value, whole, Int.floor_natCast]
  · intro date read laterDate laterRead
    exact ofSerial_followsCount.ascends _ _ _ _ _ _ sixty newYear (by norm_num) read laterRead

end Date

end SheetPost
