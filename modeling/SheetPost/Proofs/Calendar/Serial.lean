import SheetPost.Calendar.Serial
import SheetPost.Proofs.Calendar.DayNumber
import SheetPost.Proofs.Number.WholeNumber

namespace SheetPost.Date

def daysOfSerial (days : Nat) : Int :=
  if 61 ≤ days then (days : Int) - 1 else days

theorem ofSerial_eq_date_iff {serial : Number} {date : Date} :
    ofSerial serial = .ok (some date) ↔
      ∃ magnitude, serial = .finite false magnitude ∧ magnitude.whole ≠ 0 ∧
        magnitude.whole ≤ lastCountedDay ∧
        date.dayNumber = serialOrigin.dayNumber + daysOfSerial magnitude.whole := by
  unfold ofSerial
  split
  · next magnitude =>
      dsimp only
      split
      · next below => simp [below]
      · next nonzero =>
          split
          · next beyond => simp [Nat.not_le.mpr beyond]
          · next counted =>
              have found : serialOrigin.addDays? (daysOfSerial magnitude.whole) = some date ↔ _ :=
                ofDayNumber?_eq_some_iff
              unfold daysOfSerial at found
              simp [daysOfSerial, nonzero, Nat.not_lt.mp counted, found]
  · next other =>
      constructor
      · intro same
        cases same
      · rintro ⟨magnitude, rfl, _⟩
        exact absurd rfl (other magnitude)

/-! ## Years that a file has dates for -/

/-- The year is one of those that a file has dates for. -/
def InFile (date : Date) : Prop :=
  1900 ≤ date.year ∧ date.year ≤ 9999

instance (date : Date) : Decidable date.InFile :=
  inferInstanceAs (Decidable (_ ∧ _))

theorem dayNumber_serialOrigin : serialOrigin.dayNumber = 693960 := by decide

theorem inFile_iff (date : Date) :
    date.InFile ↔ serialOrigin.dayNumber < date.dayNumber ∧ date.dayNumber < 3652425 := by
  have first := date.dayNumber_lt_yearStart_iff 1900
  have last := date.dayNumber_lt_yearStart_iff 10000
  have start : yearStart 1900 = 693961 := by decide
  have end_ : yearStart 10000 = 3652425 := by decide
  rw [start] at first
  rw [end_] at last
  rw [dayNumber_serialOrigin, InFile]
  omega

theorem serial_of_daysOfSerial {date : Date} {days : Nat}
    (placed : date.dayNumber = serialOrigin.dayNumber + daysOfSerial days) :
    date.serial = if days = 60 then 61 else days := by
  unfold serial
  rw [placed, daysOfSerial]
  dsimp only
  split <;> split <;> split <;> omega

theorem daysOfSerial_serial {date : Date} (order : serialOrigin.dayNumber ≤ date.dayNumber) :
    serialOrigin.dayNumber + daysOfSerial date.serial = date.dayNumber := by
  unfold serial daysOfSerial
  dsimp only
  split <;> split <;> omega

theorem serial_pos {date : Date} (after : serialOrigin.dayNumber < date.dayNumber) :
    date.serial ≠ 0 := by
  unfold serial
  dsimp only
  split <;> omega

theorem serial_lt {date : Date} (inFile : date.InFile) : date.serial < 2958466 := by
  have bounds := date.inFile_iff.mp inFile
  rw [dayNumber_serialOrigin] at bounds
  unfold serial
  rw [dayNumber_serialOrigin]
  dsimp only
  split <;> omega

theorem ofSerial_serial {date : Date} (inFile : date.InFile) :
    ofSerial (.ofNat date.serial) = .ok (some date) := by
  have small := serial_lt inFile
  have after := (date.inFile_iff.mp inFile).1
  have exact_ : date.serial < 2 ^ 53 := by omega
  rcases Number.ofNat_eq_finite exact_ with ⟨magnitude, same, whole⟩
  refine ofSerial_eq_date_iff.mpr ⟨magnitude, same, ?_, ?_, ?_⟩
  · rw [whole]
    exact serial_pos after
  · rw [whole, lastCountedDay]
    omega
  · rw [whole]
    exact (daysOfSerial_serial (Int.le_of_lt after)).symm

/-! ## What is written for a date -/

theorem storedYear_of_inFile {date : Date} (inFile : date.InFile) :
    date.year % 65536 = date.year := by
  rcases inFile with ⟨first, last⟩
  omega

theorem storedSerial?_of_inFile {date : Date} (inFile : date.InFile) :
    date.storedSerial? = some date.serial := by
  have common : ¬(date.year = 1900 ∧ date.month = 2 ∧ date.day = 29) := by
    rintro ⟨isYear, month, day⟩
    have days := date.isDate.dayInMonth
    rw [isYear, month, day] at days
    exact absurd days (by decide)
  unfold storedSerial?
  rw [storedYear_of_inFile inFile, if_neg common, of?_fields, Option.bind_some,
    if_pos (.inr inFile)]

/-- What is written for a date is the day that never was, or the number of the date that sixteen
bits of its year make. -/
theorem storedSerial?_cases {date : Date} {serial : Nat}
    (stored : date.storedSerial? = some serial) :
    serial = 60 ∨
      ∃ kept, of? (date.year % 65536) date.month date.day = some kept ∧ serial = kept.serial ∧
        (kept = serialOrigin ∨ kept.InFile) := by
  unfold storedSerial? at stored
  dsimp only at stored
  split at stored
  · cases stored
    exact .inl rfl
  · rcases Option.bind_eq_some_iff.mp stored with ⟨kept, made, isStored⟩
    split at isStored
    · next allowed =>
        cases isStored
        exact .inr ⟨kept, made, rfl, allowed⟩
    · cases isStored

/-- Reading what was written for a date finds it again exactly if the file has dates for its year.
For any other date it finds another one, or none. -/
theorem ofSerial_of_storedSerial? {date : Date} {serial : Nat}
    (stored : date.storedSerial? = some serial) :
    ∃ read, ofSerial (.ofNat serial) = .ok read ∧ (read = some date ↔ date.InFile) := by
  by_cases inFile : date.InFile
  · rw [storedSerial?_of_inFile inFile] at stored
    cases stored
    exact ⟨some date, ofSerial_serial inFile, iff_of_true rfl inFile⟩
  · rcases storedSerial?_cases stored with rfl | ⟨kept, _, rfl, rfl | kept_inFile⟩
    · refine ⟨some ⟨1900, 3, 1, by decide⟩, by decide +kernel, iff_of_false ?_ inFile⟩
      intro same
      cases same
      exact inFile (by decide)
    · exact ⟨none, by decide +kernel, iff_of_false nofun inFile⟩
    · refine ⟨some kept, ofSerial_serial kept_inFile, iff_of_false ?_ inFile⟩
      intro same
      cases same
      exact inFile kept_inFile

/-- A serial number in the range that a file has dates for stands for one of them, and its day is
written for it again; only of the two numbers for the first of March 1900 it is the later one. -/
theorem storedSerial?_of_ofSerial {magnitude : Magnitude} (first : 1 ≤ magnitude.whole)
    (last : magnitude.whole < 2958466) :
    ∃ date, ofSerial (.finite false magnitude) = .ok (some date) ∧
      date.storedSerial? = some (if magnitude.whole = 60 then 61 else magnitude.whole) := by
  have origin := dayNumber_serialOrigin
  have counted : 1 ≤ daysOfSerial magnitude.whole ∧ daysOfSerial magnitude.whole < 2958465 := by
    unfold daysOfSerial
    split <;> omega
  have start : yearStart firstYear ≤ 0 := by decide
  have end_ : 3652425 ≤ yearStart (lastYear + 1) := by decide
  have inRange : yearStart firstYear ≤ serialOrigin.dayNumber + daysOfSerial magnitude.whole ∧
      serialOrigin.dayNumber + daysOfSerial magnitude.whole < yearStart (lastYear + 1) := by
    omega
  rcases exists_of_dayNumber inRange.1 inRange.2 with ⟨date, placed⟩
  refine ⟨date, ?_, ?_⟩
  · refine ofSerial_eq_date_iff.mpr ⟨magnitude, rfl, by omega, ?_, placed⟩
    rw [lastCountedDay]
    omega
  · have inFile : date.InFile := date.inFile_iff.mpr (by omega)
    rw [storedSerial?_of_inFile inFile, serial_of_daysOfSerial placed]

end SheetPost.Date
