import SheetPost.Proofs.Spreadsheet.RoundTrip
import SheetPost.Proofs.Workbook.Marking

namespace SheetPost

open Book

/-! ## Cells -/

/-- The sixteen low bits of its year make a date that a file has a number for, or the day of the
year 1900 that never was. -/
def Date.Storable (date : Date) : Prop :=
  (date.year % 65536 = 1900 ∧ date.month = 2 ∧ date.day = 29) ∨
    ∃ kept : Date, (kept.year = date.year % 65536 ∧ kept.month = date.month ∧ kept.day = date.day) ∧
      (kept = serialOrigin ∨ kept.InFile)

theorem Date.storedSerial?_succeeds_iff {date : Date} :
    (∃ serial, date.storedSerial? = some serial) ↔ date.Storable := by
  unfold storedSerial? Storable
  dsimp only
  split
  · next common => exact iff_of_true ⟨60, rfl⟩ (.inl common)
  · next different =>
      rw [or_iff_right different]
      constructor
      · rintro ⟨serial, stored⟩
        rcases Option.bind_eq_some_iff.mp stored with ⟨kept, made, isStored⟩
        split at isStored
        · next allowed => exact ⟨kept, (of?_eq_some_iff ..).mp made, allowed⟩
        · cases isStored
      · rintro ⟨kept, same, allowed⟩
        refine ⟨kept.serial, ?_⟩
        rw [(of?_eq_some_iff ..).mpr same, Option.bind_some]
        exact if_pos allowed

def Cell.Fits (place : Nat × Nat) : Cell → Prop
  | .empty => True
  | .text value => value = "" ∨ (value.length ≤ textLimit ∧ InSheet place)
  | .number _ | .boolean _ => InSheet place
  | .date value => value.Storable ∧ InSheet place

namespace Cell

variable {cell : Cell} {place : Nat × Nat}

theorem Fits.inSheet (fits : cell.Fits place) (held : cell.isTruthy = true) : InSheet place := by
  cases cell with
  | empty => cases held
  | number value => exact fits
  | boolean value => exact fits
  | date value => exact fits.2
  | text value =>
      rcases fits with rfl | both
      · cases held
      · exact both.2

theorem plain_ofText (status : String) : (ofText status).Plain := by
  unfold ofText
  split
  · trivial
  · next something => exact something

theorem inFile_ofText (status : String) : (ofText status).InFile := by
  unfold ofText
  split <;> trivial

theorem fits_ofText {status : String} (short : status.length ≤ textLimit)
    (inside : InSheet place) : (ofText status).Fits place := by
  unfold ofText
  split
  · trivial
  · exact .inr ⟨short, inside⟩

theorem Fits.length_le {status : String} (fits : (ofText status).Fits place) :
    status.length ≤ textLimit := by
  unfold ofText at fits
  split at fits
  · next nothing =>
      rw [nothing]
      exact Nat.zero_le _
  · next something => exact (fits.resolve_left something).1

end Cell

theorem Book.storeAt?_succeeds_iff {row column : Nat} {cell : Cell} :
    (∃ result, storeAt? row column cell = .ok result) ↔ cell.Fits (placeOf row column) := by
  have stores : (∃ result, storeAt? row column cell = .ok result) ↔
      ∃ stored?, storedCell? cell = .ok stored? ∧
        (stored? ≠ none → InSheet (placeOf row column)) := by
    simp only [storeAt?_eq_ok_iff]
    exact ⟨fun ⟨_, stored?, told, inside, _⟩ => ⟨stored?, told, inside⟩,
      fun ⟨stored?, told, inside⟩ => ⟨_, stored?, told, inside, rfl⟩⟩
  rw [stores]
  cases cell with
  | empty => simp [storedCell?, Cell.Fits]
  | number value => simp [storedCell?, Cell.Fits]
  | boolean value => simp [storedCell?, Cell.Fits]
  | text value =>
      unfold storedCell? Cell.Fits
      dsimp only
      by_cases nothing : value = ""
      · simp [nothing, textLimit]
      · by_cases long : textLimit < value.length
        · simp [nothing, long, Nat.not_le.mpr long]
        · simp [nothing, long, Nat.not_lt.mp long]
  | date value =>
      unfold storedCell? Cell.Fits
      dsimp only
      rw [← Date.storedSerial?_succeeds_iff]
      cases value.storedSerial? <;> simp

/-! ## Sheets -/

namespace Table

/-- The format can hold the sheet: its name, and every cell at its place. -/
structure Fits (table : Table) : Prop where
  named : isSheetName table.name = true
  cells : ∀ row column, (table.get row column).Fits (placeOf row.above column)

variable {table : Table} {row : RowPosition} {column : Nat} {status : String}

theorem fits_iff : table.Fits ↔ ∃ sheet, storedSheet table = .ok sheet := by
  rw [storedSheet_succeeds_iff]
  simp only [storeAt?_succeeds_iff]
  exact ⟨fun fits => ⟨fits.named, fun row => fits.cells ⟨row⟩⟩,
    fun ⟨named, cells⟩ => ⟨named, fun row => cells row.above⟩⟩

def HoldsBeside (table : Table) (column : Nat) (row : RowPosition) : Prop :=
  ∃ other ≠ column, (table.get row other).isTruthy = true

theorem HoldsBeside.set (holds : table.HoldsBeside column row) (written : RowPosition)
    (cell : Cell) : (table.set written column cell).HoldsBeside column row := by
  rcases holds with ⟨other, apart, held⟩
  exact ⟨other, apart, by rwa [get_set_other _ _ (.inr apart)]⟩

theorem Fits.set (fits : table.Fits) (holds : table.HoldsBeside column row)
    (near : column < columnLimit) (short : status.length ≤ textLimit) :
    (table.set row column (.ofText status)).Fits := by
  refine ⟨fits.named, fun otherRow otherColumn => ?_⟩
  by_cases apart : otherRow ≠ row ∨ otherColumn ≠ column
  · rw [get_set_other _ _ apart]
    exact fits.cells otherRow otherColumn
  · rw [not_or, not_not, not_not] at apart
    rcases apart with ⟨rfl, rfl⟩
    rw [get_set_same]
    rcases holds with ⟨beside, _, held⟩
    have inside := (fits.cells otherRow beside).inSheet held
    refine Cell.fits_ofText short ⟨inside.1, ?_⟩
    rw [columnLimit] at near ⊢
    exact Nat.lt_of_le_of_lt (Nat.mod_le _ _) near

theorem inPlace_set (inPlace : InPlace table) (holds : table.HoldsBeside column row)
    (near : column < columnLimit) (cell : Cell) : InPlace (table.set row column cell) := by
  intro above otherColumn held
  by_cases apart : (⟨above⟩ : RowPosition) ≠ row ∨ otherColumn ≠ column
  · rw [get_set_other _ _ apart] at held
    exact inPlace above otherColumn held
  · rw [not_or, not_not, not_not] at apart
    rcases apart with ⟨rfl, rfl⟩
    rcases holds with ⟨beside, _, heldBeside⟩
    have something : table.get ⟨above⟩ beside ≠ .empty := by
      intro empty
      rw [empty] at heldBeside
      cases heldBeside
    rw [columnLimit] at near
    exact ⟨(inPlace above beside something).1, by omega⟩

/-! Many statuses are written into one column. -/

variable {statuses : List (RowPosition × String)}

theorem HoldsBeside.marked (holds : table.HoldsBeside column row)
    (statuses : List (RowPosition × String)) :
    (table.marked column statuses).HoldsBeside column row := by
  rcases holds with ⟨other, apart, held⟩
  exact ⟨other, apart, by rwa [get_marked_other _ _ (.inr apart)]⟩

theorem Fits.marked (fits : table.Fits) (near : column < columnLimit)
    (holds : ∀ entry ∈ statuses, table.HoldsBeside column entry.1)
    (short : ∀ entry ∈ statuses, entry.2.length ≤ textLimit) :
    (table.marked column statuses).Fits := by
  induction statuses generalizing table with
  | nil => exact fits
  | cons entry statuses induction =>
      rcases List.forall_mem_cons.mp holds with ⟨holdsNow, holdsLater⟩
      rcases List.forall_mem_cons.mp short with ⟨shortNow, shortLater⟩
      exact induction (fits.set holdsNow near shortNow)
        (fun other member => (holdsLater other member).set _ _) shortLater

theorem inPlace_marked (inPlace : InPlace table) (near : column < columnLimit)
    (holds : ∀ entry ∈ statuses, table.HoldsBeside column entry.1) :
    InPlace (table.marked column statuses) := by
  induction statuses generalizing table with
  | nil => exact inPlace
  | cons entry statuses induction =>
      rcases List.forall_mem_cons.mp holds with ⟨holdsNow, holdsLater⟩
      exact induction (inPlace_set inPlace holdsNow near _)
        fun other member => (holdsLater other member).set _ _

theorem Fits.length_le (fits : (table.marked column statuses).Fits)
    (nodup : (statuses.map (·.1)).Nodup) {entry : RowPosition × String}
    (member : entry ∈ statuses) : entry.2.length ≤ textLimit := by
  have cell := fits.cells entry.1 column
  rw [get_marked_of_mem _ _ nodup member] at cell
  exact cell.length_le

end Table

/-! ## Workbooks -/

theorem Book.namesApart_iff {book : Book} :
    book.namesApart = true ↔ ((book.sheets.map (·.name)).map lowercase).Nodup := by
  unfold namesApart
  rw [List.map_map]
  exact ⟨fun apart => nodup_of_length_eraseDups (beq_iff_eq.mp apart),
    fun nodup => beq_iff_eq.mpr (congrArg List.length (eraseDups_of_nodup nodup))⟩

theorem forall_mem_putTable {holds : Table → Prop} {table other : Table} {tables : List Table}
    (same : other.name = table.name) (each : ∀ found ∈ putTable table tables, holds found)
    (ofOther : holds other) : ∀ found ∈ putTable other tables, holds found := by
  induction tables with
  | nil => exact List.forall_mem_singleton.mpr ofOther
  | cons head tail induction =>
      unfold putTable at each ⊢
      rw [same]
      split
      · next isHead =>
          rw [if_pos isHead] at each
          exact List.forall_mem_cons.mpr ⟨ofOther, (List.forall_mem_cons.mp each).2⟩
      · next different =>
          rw [if_neg different] at each
          rcases List.forall_mem_cons.mp each with ⟨first, later⟩
          exact List.forall_mem_cons.mpr ⟨first, induction later⟩

namespace Workbook

structure Fits (workbook : Workbook) : Prop where
  sheets : ∀ table ∈ workbook.sheets, table.Fits
  apart : (workbook.names.map lowercase).Nodup

variable {workbook : Workbook} {table other : Table}

theorem fits_iff :
    workbook.Fits ↔ ∃ book, Book.ofWorkbook workbook = .ok book ∧ book.namesApart = true := by
  have stored : (∀ table ∈ workbook.sheets, table.Fits) ↔
      ∃ sheets, workbook.sheets.mapM storedSheet = .ok sheets := by
    simp only [Table.fits_iff, mapM_succeeds_iff]
  -- The sheet that a file has where a workbook has none does not get in the way of anything.
  have names {sheets : List StoredSheet} (ran : workbook.sheets.mapM storedSheet = .ok sheets) :
      namesApart ⟨if sheets.isEmpty then [⟨"Sheet1", []⟩] else sheets⟩ = true ↔
        (workbook.names.map lowercase).Nodup := by
    have same : sheets.map (·.name) = workbook.names :=
      map_of_mapM ran fun _ _ _ => name_of_storedSheet
    rw [namesApart_iff, ← same]
    cases sheets with
    | nil => simp
    | cons sheet sheets => rfl
  constructor
  · rintro ⟨each, apart⟩
    rcases stored.mp each with ⟨sheets, ran⟩
    exact ⟨_, ofWorkbook_eq_ok_iff.mpr ⟨sheets, ran, rfl⟩, (names ran).mpr apart⟩
  · rintro ⟨book, written, apart⟩
    rcases ofWorkbook_eq_ok_iff.mp written with ⟨sheets, ran, rfl⟩
    exact ⟨stored.mpr ⟨sheets, ran⟩, (names ran).mp apart⟩

theorem Fits.inserted (fits : (workbook.insert table).Fits) : table.Fits :=
  fits.sheets table (mem_of_sheet? (sheet?_insert_same workbook table)).1

theorem Fits.insert (fits : (workbook.insert table).Fits) (same : other.name = table.name)
    (fitsOther : other.Fits) : (workbook.insert other).Fits := by
  refine ⟨forall_mem_putTable same fits.sheets fitsOther, ?_⟩
  have apart := fits.apart
  rw [names_insert] at apart ⊢
  rw [same]
  exact apart

end Workbook

namespace SpreadsheetFile

variable {path : String} {workbook : Workbook} {before : Disk}

theorem save_of_fits (fits : workbook.Fits)
    (writable : ∀ content, ∃ after, before.write path content = .ok after) :
    ∃ after, save path workbook before = (.ok (), after) := by
  rcases Workbook.fits_iff.mp fits with ⟨book, written, apart⟩
  rcases writable (.book book) with ⟨after, wrote⟩
  exact ⟨after, save_eq_ok_iff.mpr ⟨book, written, apart, wrote⟩⟩

theorem fits_of_save {after : Disk} (saved : save path workbook before = (.ok (), after)) :
    workbook.Fits := by
  rcases save_eq_ok_iff.mp saved with ⟨book, written, apart, _⟩
  exact Workbook.fits_iff.mpr ⟨book, written, apart⟩

end SpreadsheetFile

end SheetPost
