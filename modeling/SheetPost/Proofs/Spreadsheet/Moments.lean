import SheetPost.Proofs.Calendar.CountedDay
import SheetPost.Proofs.Spreadsheet.RoundTrip

namespace SheetPost

namespace Number

/-- The date that a serial number stands for: that of the day which its whole part is. -/
def StandsFor (serial : Number) (date : Date) : Prop :=
  ∃ value, serial.value? = some value ∧ Date.CountsTo ⌊value⌋ date

/-- The days of a serial number can be counted. -/
def Countable (serial : Number) : Prop :=
  ∀ value, serial.value? = some value → ⌊value⌋ ≤ Date.lastCountedDay

/-- The cell that a serial number is to be read as. -/
structure CallsFor (serial : Number) (cell : Cell) : Prop where
  day : ∀ date, serial.StandsFor date → cell = .date date
  number : (∀ date, ¬serial.StandsFor date) → cell = .number serial

variable {serial : Number} {date : Date}

theorem ofSerial_of_no_value (without : serial.value? = none) :
    Date.ofSerial serial = .ok none := by
  cases serial with
  | finite negative magnitude => cases negative <;> cases without
  | _ => rfl

theorem standsFor_iff : Date.ofSerial serial = .ok (some date) ↔ serial.StandsFor date := by
  unfold StandsFor
  cases known : serial.value? with
  | none => simp [ofSerial_of_no_value known]
  | some value => simp [Date.ofSerial_eq_ofCountedDay known, Date.ofCountedDay_eq_date_iff]

theorem countable_iff : (∃ found, Date.ofSerial serial = .ok found) ↔ serial.Countable := by
  unfold Countable
  cases known : serial.value? with
  | none => simp [ofSerial_of_no_value known]
  | some value =>
      rw [Date.ofSerial_eq_ofCountedDay known]
      cases read : Date.ofCountedDay ⌊value⌋ with
      | error overflow =>
          have beyond := (Date.ofCountedDay_eq_error_iff.mp read).1
          simp [beyond]
      | ok found =>
          have counted : ¬Date.lastCountedDay < ⌊value⌋ := by
            intro beyond
            rw [Date.ofCountedDay_eq_error_iff.mpr ⟨beyond, rfl⟩] at read
            cases read
          simpa using counted

end Number

namespace StoredCell

variable {stored : StoredCell} {serial : Number}

def days? : StoredCell → Option Number
  | dateNumber serial | elapsed serial => some serial
  | _ => none

theorem cell_of_days? (isDays : stored.days? = some serial) :
    stored.cell = dateOfNumber serial := by
  cases stored <;> cases isDays <;> rfl

theorem cell_of_no_days (noDays : stored.days? = none) : ∃ cell, stored.cell = .ok cell := by
  cases stored <;> simp_all [days?, cell]

theorem dateOfNumber_succeeds_iff :
    (∃ cell, dateOfNumber serial = .ok cell) ↔ serial.Countable := by
  rw [← Number.countable_iff, dateOfNumber]
  cases Date.ofSerial serial with
  | error overflow => simp
  | ok found => cases found <;> simp

theorem callsFor_of_dateOfNumber {cell : Cell} (read : dateOfNumber serial = .ok cell) :
    serial.CallsFor cell where
  day := by
    intro date stands
    rw [dateOfNumber, Number.standsFor_iff.mpr stands] at read
    exact (Except.ok.inj read).symm
  number := by
    intro dayless
    rw [dateOfNumber] at read
    cases found : Date.ofSerial serial with
    | error overflow => simp [found] at read
    | ok date? =>
        cases date? with
        | none => simp_all
        | some date => exact absurd (Number.standsFor_iff.mp found) (dayless date)

end StoredCell

def StoredSheet.days? (sheet : StoredSheet) (row column : Nat) : Option Number :=
  (sheet.stored? row column).bind StoredCell.days?

theorem StoredSheet.cellAt_succeeds_iff {sheet : StoredSheet} {row column : Nat} :
    (∃ cell, sheet.cellAt row column = .ok cell) ↔
      ∀ serial, sheet.days? row column = some serial → serial.Countable := by
  unfold StoredSheet.days?
  cases found : sheet.stored? row column with
  | none => simp [cellAt_of_none found]
  | some stored =>
      rw [cellAt_of_stored found, Option.bind_some]
      cases isDays : stored.days? with
      | none => simp [StoredCell.cell_of_no_days isDays]
      | some serial => simp [StoredCell.cell_of_days? isDays, StoredCell.dateOfNumber_succeeds_iff]

def Book.Countable (book : Book) : Prop :=
  ∀ name sheet row column serial, book.named? name = some sheet →
    sheet.days? row column = some serial → serial.Countable

theorem Book.workbook_succeeds_iff_countable {book : Book}
    (readable : ∀ sheet ∈ book.sheets, sheet.readable = true) :
    (∃ workbook, book.workbook = .ok workbook) ↔ book.Countable := by
  simp only [workbook_succeeds_iff, StoredSheet.rows_succeeds_iff,
    StoredSheet.cellAt_succeeds_iff]
  constructor
  · intro each name sheet row column serial named isDays
    have member := List.mem_of_find?_eq_some named
    have isNamed : sheet.name = name := by simpa using List.find?_some named
    have read := each sheet member
    rw [isNamed, named] at read
    exact read.2 row column serial isDays
  · intro countable sheet member
    have ⟨first, named⟩ := named?_of_mem member
    rw [named, Option.getD_some]
    refine ⟨readable first (List.mem_of_find?_eq_some named), ?_⟩
    intro row column serial
    exact countable sheet.name first row column serial named

namespace SpreadsheetFile

/-- A number of days in a cell that shows a day or an elapsed time is read, and as what it calls
for, exactly if its days can be counted. The same goes for the date of a serial number, of whatever
kind. And a file whose sheets can be read at all is loaded exactly if that is so of every such
cell. -/
theorem days_read_iff (serial : Number) :
    (∀ stored, StoredCell.days? stored = some serial →
      ((∃ cell, stored.cell = .ok cell ∧ serial.CallsFor cell) ↔ serial.Countable)) ∧
    ((∃ found, Date.ofSerial serial = .ok found ∧
      ∀ date, found = some date ↔ serial.StandsFor date) ↔ serial.Countable) ∧
    ∀ path disk book, Disk.read disk path = .ok (.book book) →
      (∀ sheet ∈ book.sheets, sheet.readable = true) →
      ((∃ workbook, load path disk = .ok workbook) ↔ book.Countable) := by
  refine ⟨?_, ?_, ?_⟩
  · intro stored isDays
    rw [StoredCell.cell_of_days? isDays, ← StoredCell.dateOfNumber_succeeds_iff]
    constructor
    · intro ⟨cell, read, _⟩
      exact ⟨cell, read⟩
    · intro ⟨cell, read⟩
      exact ⟨cell, read, StoredCell.callsFor_of_dateOfNumber read⟩
  · rw [← Number.countable_iff]
    constructor
    · intro ⟨found, read, _⟩
      exact ⟨found, read⟩
    · intro ⟨found, read⟩
      refine ⟨found, read, fun date => ?_⟩
      rw [← Number.standsFor_iff, read, Except.ok.injEq]
  · intro path disk book read readable
    rw [← Book.workbook_succeeds_iff_countable readable, load, read]

def moment : Number :=
  .finite false ⟨182634 * 2 ^ 35, -37, by decide⟩

def oneDay (serial : Number) : Book :=
  ⟨[⟨"T", [((0, 0), .dateNumber serial)]⟩]⟩

def oneDayDisk (serial : Number) : Disk :=
  ⟨[], [(["k.xlsx"], .file (.book (oneDay serial)))]⟩

theorem days_read_iff_moment :
    (∃ cell, (StoredCell.elapsed moment).cell = .ok cell ∧ moment.CallsFor cell) ∧
      moment.StandsFor ⟨2025, 1, 1, by decide⟩ ∧
      (∃ found, Date.ofSerial .nan = .ok found ∧
        ∀ date, found = some date ↔ Number.nan.StandsFor date) ∧
      (oneDay moment).Countable := by
  have ⟨cells, _, loads⟩ := days_read_iff moment
  have ⟨_, unread, _⟩ := days_read_iff .nan
  have isDay : Date.ofSerial moment = .ok (some ⟨2025, 1, 1, by decide⟩) := by decide +kernel
  have countable : moment.Countable := Number.countable_iff.mp ⟨_, isDay⟩
  have read : Disk.read (oneDayDisk moment) "k.xlsx" = .ok (.book (oneDay moment)) := by
    decide +kernel
  have readable : ∀ sheet ∈ (oneDay moment).sheets, sheet.readable = true := by decide +kernel
  have loaded : load "k.xlsx" (oneDayDisk moment) =
      .ok ⟨[⟨"T", [[.date ⟨2025, 1, 1, by decide⟩]]⟩]⟩ := by decide +kernel
  exact ⟨(cells (.elapsed moment) rfl).mpr countable, Number.standsFor_iff.mp isDay,
    unread.mpr nofun, (loads "k.xlsx" _ _ read readable).mp ⟨_, loaded⟩⟩

/-- A number of days that cannot be counted ends the load. -/
theorem load_stops_at_day :
    load "k.xlsx" (oneDayDisk (.ofNat 1000000000000)) =
      .error (.overflow ⟨1000000000000⟩) := by
  decide +kernel

end SpreadsheetFile

end SheetPost
