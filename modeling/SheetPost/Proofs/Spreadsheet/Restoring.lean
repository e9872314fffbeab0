import SheetPost.Proofs.Spreadsheet.RoundTrip

namespace SheetPost

open Book

/-- What a file holds at a place, and what it holds there after the place went through a cell. A
moment without a day is kept as a number; of the two numbers for the first of March 1900 the later
one is kept. A time that elapsed is taken for a moment, so one of a day or longer becomes a date. -/
structure StoredCell.Restored (before after : Option StoredCell) : Prop where
  nothing : before = none → after = none
  number : ∀ value, value.isFinite = true → before = some (.number value) →
    after = some (.number value)
  text : ∀ value, value ≠ "" → before = some (.text value) → after = some (.text value)
  boolean : ∀ value, before = some (.boolean value) → after = some (.boolean value)
  dayless : ∀ serial, serial.isFinite = true → Date.ofSerial serial = .ok none →
    before = some (.dateNumber serial) ∨ before = some (.elapsed serial) →
      after = some (.number serial)
  day : ∀ magnitude, 1 ≤ magnitude.whole → magnitude.whole < 2958466 →
    before = some (.dateNumber (.finite false magnitude)) ∨
        before = some (.elapsed (.finite false magnitude)) →
      after = some (.dateNumber (.ofNat (if magnitude.whole = 60 then 61 else magnitude.whole)))
  spelledDay : ∀ spelling date, Date.read? spelling = some date → date.InFile →
    before = some (.isoDate spelling) → after = some (.dateNumber (.ofNat date.serial))
  spelling : ∀ spelling, Date.read? spelling = none → spelling ≠ "" →
    before = some (.isoDate spelling) → after = some (.text spelling)
  noValue : (∃ known, before = some (.error known)) ∨ before = some (.text "") → after = none

namespace StoredCell

variable {before after : Option StoredCell} {cell : Cell}

theorem storedCell?_text {value : String} (visible : value ≠ "")
    (writes : storedCell? (.text value) = .ok after) : after = some (.text value) := by
  unfold storedCell? at writes
  dsimp only at writes
  rw [if_neg visible] at writes
  split at writes
  · cases writes
  · exact (Except.ok.inj writes).symm

theorem storedCell?_date {date : Date} {serial : Nat} (stored : date.storedSerial? = some serial)
    (writes : storedCell? (.date date) = .ok after) :
    after = some (.dateNumber (.ofNat serial)) := by
  unfold storedCell? at writes
  dsimp only at writes
  rw [stored] at writes
  exact (Except.ok.inj writes).symm

theorem storedCell?_finite {value : Number} (finite : value.isFinite = true)
    (writes : storedCell? (.number value) = .ok after) : after = some (.number value) := by
  cases value with
  | finite negative magnitude => exact (Except.ok.inj writes).symm
  | nan => cases finite
  | infinite negative => cases finite

theorem dateOfNumber_dayless {serial : Number} (dayless : Date.ofSerial serial = .ok none) :
    dateOfNumber serial = .ok (.number serial) := by
  rw [dateOfNumber, dayless]

theorem restored_of_cell (reads : readAs before = .ok cell)
    (writes : storedCell? cell = .ok after) : Restored before after where
  nothing := by
    rintro rfl
    cases reads
    exact (Except.ok.inj writes).symm
  number := by
    rintro value finite rfl
    cases reads
    exact storedCell?_finite finite writes
  text := by
    rintro value visible rfl
    rw [readAs, StoredCell.cell, Cell.ofText, if_neg visible] at reads
    cases reads
    exact storedCell?_text visible writes
  boolean := by
    rintro value rfl
    cases reads
    exact (Except.ok.inj writes).symm
  dayless := by
    rintro serial finite dayless (rfl | rfl) <;>
    · cases (dateOfNumber_dayless dayless).symm.trans reads
      exact storedCell?_finite finite writes
  day := by
    rintro magnitude first last (rfl | rfl) <;>
    · rcases Date.storedSerial?_of_ofSerial first last with ⟨date, isDay, stored⟩
      rw [readAs, StoredCell.cell, dateOfNumber, isDay] at reads
      cases reads
      exact storedCell?_date stored writes
  spelledDay := by
    rintro spelling date isDay inFile rfl
    rw [readAs, StoredCell.cell, isDay] at reads
    cases reads
    exact storedCell?_date (Date.storedSerial?_of_inFile inFile) writes
  spelling := by
    rintro spelling noDay visible rfl
    rw [readAs, StoredCell.cell, noDay] at reads
    dsimp only at reads
    rw [Cell.ofText, if_neg visible] at reads
    cases reads
    exact storedCell?_text visible writes
  noValue := by
    rintro (⟨known, rfl⟩ | rfl)
    · cases reads
      exact (Except.ok.inj writes).symm
    · cases reads
      exact (Except.ok.inj writes).symm

end StoredCell

namespace SpreadsheetFile

variable {path name : String} {before middle after : Disk} {book : Book}
variable {loaded written : Workbook} {table revised : Table}

/-- Whatever a command has done to a workbook that it loaded: where it has left a cell of a sheet as
it was, the file that it saves holds the value that the file held before. -/
theorem save_restores (loads : load path before = .ok loaded)
    (saved : save path written middle = (.ok (), after))
    (there : loaded.sheet? name = some table) (kept : written.sheet? name = some revised)
    (inPlace : InPlace revised) :
    ∃ old new stored again, before.read path = .ok (.book old) ∧
      after.read path = .ok (.book new) ∧ old.named? name = some stored ∧
      new.named? name = some again ∧
      ∀ row column, revised.get row column = table.get row column →
        StoredCell.Restored (stored.stored? row.above column) (again.stored? row.above column) := by
  rcases load_eq_ok_iff.mp loads with ⟨old, readOld, isLoaded⟩
  rcases save_eq_ok_iff.mp saved with ⟨new, isWritten, apart, wrote⟩
  rcases Book.cellAt_of_workbook isLoaded there with ⟨stored, isStored, reads⟩
  have nonempty : written.sheets ≠ [] := by
    intro empty
    rw [Workbook.sheet?, empty] at kept
    cases kept
  have ran := Book.sheets_of_ofWorkbook nonempty isWritten
  have again := find?_of_mapM ran (fun _ _ => Book.name_of_storedSheet) name
  have isKept : written.sheets.find? (·.name == name) = some revised := kept
  rw [isKept] at again
  cases found : new.sheets.find? (·.name == name) with
  | none =>
      rw [found] at again
      cases again
  | some sheet =>
      rw [found] at again
      have isSheet : storedSheet revised = .ok sheet := Option.some.inj again
      refine ⟨old, new, stored, sheet, readOld, Disk.read_of_write wrote, isStored, found, ?_⟩
      intro row column same
      have reread : StoredCell.readAs (stored.stored? row.above column) =
          .ok (table.get row column) := reads row.above column
      have rewritten : storedCell? (revised.get row column) =
          .ok (sheet.stored? row.above column) :=
        storedCell?_of_inPlace isSheet inPlace row.above column
      rw [same] at rewritten
      exact StoredCell.restored_of_cell reread rewritten

/-- Eighteen hours into the first of January 2025, which is day 45658. -/
def evening : Magnitude :=
  ⟨182635 * 2 ^ 35, -37, by decide⟩

def moments : Book :=
  ⟨[⟨"Shifts", [((0, 0), .number (.divide (.ofNat 3) (.ofNat 2))),
    ((0, 1), .dateNumber (.finite false evening)),
    ((1, 0), .dateNumber (.divide (.ofNat 1) (.ofNat 2))), ((1, 1), .error true),
    ((1, 2), .text "late")]⟩]⟩

def momentsDisk : Disk :=
  ⟨[], [(["k.xlsx"], .file (.book moments))]⟩

def shifts : Table :=
  ⟨"Shifts", [[.number (.divide (.ofNat 3) (.ofNat 2)), .date ⟨2025, 1, 1, by decide⟩, .empty],
    [.number (.divide (.ofNat 1) (.ofNat 2)), .empty, .text "late"]]⟩

theorem save_restores_moments :
    ∃ after new again,
      save "k.xlsx" ⟨[shifts.set ⟨0⟩ 2 (.text "OK")]⟩ momentsDisk = (.ok (), after) ∧
      after.read "k.xlsx" = .ok (.book new) ∧ new.named? "Shifts" = some again ∧
      again.stored? 0 0 = some (.number (.divide (.ofNat 3) (.ofNat 2))) ∧
      again.stored? 0 1 = some (.dateNumber (.ofNat 45658)) ∧
      again.stored? 1 0 = some (.number (.divide (.ofNat 1) (.ofNat 2))) ∧
      again.stored? 1 1 = none ∧ again.stored? 1 2 = some (.text "late") := by
  let revised := shifts.set ⟨0⟩ 2 (.text "OK")
  let new : Book :=
    ⟨[⟨"Shifts", [((0, 0), .number (.divide (.ofNat 3) (.ofNat 2))),
      ((0, 1), .dateNumber (.ofNat 45658)), ((0, 2), .text "OK"),
      ((1, 0), .number (.divide (.ofNat 1) (.ofNat 2))), ((1, 2), .text "late")]⟩]⟩
  have loads : load "k.xlsx" momentsDisk = .ok ⟨[shifts]⟩ := by decide +kernel
  have saved : save "k.xlsx" ⟨[revised]⟩ momentsDisk =
      (.ok (), ⟨[], [(["k.xlsx"], .file (.book new))]⟩) :=
    save_eq_ok_iff.mpr ⟨new, by decide +kernel, by decide +kernel, by decide +kernel⟩
  have inPlace : InPlace revised :=
    (keeps_of_forall_mem (by decide) (by decide)).inPlace
  have there : Workbook.sheet? ⟨[shifts]⟩ "Shifts" = some shifts := by decide +kernel
  have kept : Workbook.sheet? ⟨[revised]⟩ "Shifts" = some revised := by decide +kernel
  rcases save_restores loads saved there kept inPlace with
    ⟨old, _, stored, again, readOld, readNew, isStored, isAgain, restored⟩
  have readMoments : momentsDisk.read "k.xlsx" = .ok (.book moments) := by decide +kernel
  cases readMoments.symm.trans readOld
  cases isStored
  have whole : evening.whole = 45658 := by decide +kernel
  have day := (restored ⟨0⟩ 1 (by decide +kernel)).day evening (by rw [whole]; decide)
    (by rw [whole]; decide) (.inl (by decide +kernel))
  rw [whole] at day
  exact ⟨_, _, again, saved, readNew, isAgain,
    (restored ⟨0⟩ 0 (by decide +kernel)).number _ (by decide +kernel) (by decide +kernel), day,
    (restored ⟨1⟩ 0 (by decide +kernel)).dayless _ (by decide +kernel) (by decide +kernel)
      (.inl (by decide +kernel)),
    (restored ⟨1⟩ 1 (by decide +kernel)).noValue (.inl ⟨true, by decide +kernel⟩),
    (restored ⟨1⟩ 2 (by decide +kernel)).text "late" (by decide) (by decide +kernel)⟩

/-- A cell keeps the day of a moment and not its time. -/
theorem save_drops_time :
    let before : Disk :=
      ⟨[], [(["k.xlsx"], .file (.book
        ⟨[⟨"T", [((0, 0), .dateNumber (.finite false evening))]⟩]⟩))]⟩
    ∃ loaded after, load "k.xlsx" before = .ok loaded ∧
      save "k.xlsx" loaded before = (.ok (), after) ∧
      after.read "k.xlsx" = .ok (.book ⟨[⟨"T", [((0, 0), .dateNumber (.ofNat 45658))]⟩]⟩) ∧
      Number.finite false evening ≠ .ofNat 45658 := by
  intro before
  refine ⟨⟨[⟨"T", [[.date ⟨2025, 1, 1, by decide⟩]]⟩]⟩,
    ⟨[], [(["k.xlsx"], .file (.book ⟨[⟨"T", [((0, 0), .dateNumber (.ofNat 45658))]⟩]⟩))]⟩,
    ?_, save_eq_ok_iff.mpr ⟨⟨[⟨"T", [((0, 0), .dateNumber (.ofNat 45658))]⟩]⟩, ?_, ?_, ?_⟩,
    ?_, ?_⟩ <;>
    decide +kernel

end SpreadsheetFile

end SheetPost
