import Mathlib.Data.List.Nodup
import SheetPost.Proofs.Calendar.Serial
import SheetPost.Proofs.Disk.Directory
import SheetPost.Proofs.Spreadsheet.Writing
import SheetPost.Store.SpreadsheetFile

namespace SheetPost

def Cell.Plain : Cell → Prop
  | .number value => value.isFinite = true
  | .text value => value ≠ ""
  | .empty | .boolean _ | .date _ => True

instance : (cell : Cell) → Decidable cell.Plain
  | .number value => inferInstanceAs (Decidable (value.isFinite = true))
  | .text value => inferInstanceAs (Decidable (value ≠ ""))
  | .empty | .boolean _ | .date _ => isTrue trivial

def Cell.InFile : Cell → Prop
  | .date value => value.InFile
  | .empty | .text _ | .number _ | .boolean _ => True

instance : (cell : Cell) → Decidable cell.InFile
  | .date value => inferInstanceAs (Decidable value.InFile)
  | .empty | .text _ | .number _ | .boolean _ => isTrue trivial

namespace StoredCell

def readAs : Option StoredCell → Except StoreError Cell
  | some stored => stored.cell
  | none => .ok .empty

/-- What a cell is stored as can be read, and it is the cell again unless its date is lost. -/
theorem readAs_storedCell? {cell : Cell} {stored? : Option StoredCell}
    (told : Book.storedCell? cell = .ok stored?) :
    ∃ read, readAs stored? = .ok read ∧ (cell.Plain → (read = cell ↔ cell.InFile)) := by
  cases cell with
  | empty =>
      cases told
      exact ⟨.empty, rfl, fun _ => iff_of_true rfl trivial⟩
  | text value =>
      unfold Book.storedCell? at told
      dsimp only at told
      split at told
      · cases told
      · cases told
        by_cases nothing : value = ""
        · rw [if_pos nothing]
          exact ⟨.empty, rfl, fun plain => absurd nothing plain⟩
        · rw [if_neg nothing]
          exact ⟨.text value, congrArg _ (if_neg nothing), fun _ => iff_of_true rfl trivial⟩
  | number value =>
      cases told
      cases value with
      | finite negative magnitude => exact ⟨_, rfl, fun _ => iff_of_true rfl trivial⟩
      | nan => exact ⟨_, rfl, fun plain => nomatch plain⟩
      | infinite negative => exact ⟨_, rfl, fun plain => nomatch plain⟩
  | boolean value =>
      cases told
      exact ⟨_, rfl, fun _ => iff_of_true rfl trivial⟩
  | date date =>
      unfold Book.storedCell? at told
      dsimp only at told
      split at told
      · next serial stored =>
          cases told
          rcases Date.ofSerial_of_storedSerial? stored with ⟨found, read, kept⟩
          rw [Cell.InFile, ← kept]
          unfold readAs cell dateOfNumber
          dsimp only
          rw [read]
          cases found with
          | some other => exact ⟨.date other, rfl, by simp⟩
          | none => exact ⟨.number _, rfl, by simp⟩
      · cases told

theorem ne_error_of_storedCell? {cell : Cell} {stored : StoredCell} {known : Bool}
    (told : Book.storedCell? cell = .ok (some stored)) : stored ≠ .error known := by
  rintro rfl
  cases cell with
  | empty => cases told
  | boolean value => cases told
  | number value => cases value <;> cases told
  | text value =>
      unfold Book.storedCell? at told
      dsimp only at told
      split at told
      · cases told
      · split at told <;> cases told
  | date date =>
      unfold Book.storedCell? at told
      dsimp only at told
      split at told <;> cases told

end StoredCell

namespace Book

variable {table read : Table} {sheet : StoredSheet}

/-! ## One sheet -/

theorem rows_of_storedSheet (written : storedSheet table = .ok sheet) :
    ∃ rows, sheet.rows = .ok rows := by
  rw [StoredSheet.rows_succeeds_iff]
  constructor
  · apply List.all_eq_true.mpr
    rintro ⟨place, stored⟩ member
    rcases (mem_cells_iff written).mp member with ⟨_, _, told, _⟩
    exact bne_iff_ne.mpr (StoredCell.ne_error_of_storedCell? told)
  · intro row column
    cases found : sheet.stored? row column with
    | none => exact ⟨.empty, StoredSheet.cellAt_of_none found⟩
    | some stored =>
        rcases (mem_cells_iff written).mp (StoredSheet.mem_of_stored found) with ⟨_, _, told, _⟩
        rcases StoredCell.readAs_storedCell? told with ⟨cell, reads, _⟩
        exact ⟨cell, (StoredSheet.cellAt_of_stored found).trans reads⟩

/-- A file keeps the cells of the table: none lies too far out to be stored at its place, and none
holds a date of a year that the file has no dates for. -/
structure Keeps (table : Table) : Prop where
  inPlace : InPlace table
  inFile : ∀ row column, (table.get ⟨row⟩ column).InFile

theorem keeps_of_forall_mem (rows : table.rows.length ≤ 4294967296)
    (columns : ∀ cells ∈ table.rows, cells.length ≤ 65536 ∧ ∀ cell ∈ cells, cell.InFile) :
    Keeps table := by
  constructor
  · intro row column held
    rcases Table.exists_of_get held with ⟨cells, isRow, isCell⟩
    have below := (List.getElem?_eq_some_iff.mp isRow).1
    have left := (List.getElem?_eq_some_iff.mp isCell).1
    have width := (columns cells (List.mem_of_getElem? isRow)).1
    omega
  · exact Table.forall_get trivial fun cells isRow => (columns cells isRow).2

theorem read_same_iff (written : storedSheet table = .ok sheet)
    (reads : ∀ row column, sheet.cellAt row column = .ok (read.get ⟨row⟩ column))
    (inPlace : InPlace table) {row column : Nat} (plain : (table.get ⟨row⟩ column).Plain) :
    read.get ⟨row⟩ column = table.get ⟨row⟩ column ↔ (table.get ⟨row⟩ column).InFile := by
  rcases StoredCell.readAs_storedCell? (storedCell?_of_inPlace written inPlace row column) with
    ⟨cell, isRead, same⟩
  have found : sheet.cellAt row column = .ok cell := isRead
  rw [reads] at found
  rw [Except.ok.inj found]
  exact same plain

theorem reads_same_iff (written : storedSheet table = .ok sheet)
    (reads : ∀ row column, sheet.cellAt row column = .ok (read.get ⟨row⟩ column))
    (plain : ∀ row column, (table.get ⟨row⟩ column).Plain) :
    (∀ row column, read.get ⟨row⟩ column = table.get ⟨row⟩ column) ↔ Keeps table := by
  constructor
  · intro same
    have inPlace : InPlace table := by
      intro row column held
      cases found : sheet.stored? row column with
      | none =>
          have empty := StoredSheet.cellAt_of_none found
          rw [reads, same] at empty
          exact absurd (Except.ok.inj empty) held
      | some stored =>
          have inside := inSheet_of_stored written found
          unfold InSheet rowLimit columnLimit at inside
          omega
    exact ⟨inPlace, fun row column =>
      (read_same_iff written reads inPlace (plain row column)).mp (same row column)⟩
  · intro keeps row column
    exact (read_same_iff written reads keeps.inPlace (plain row column)).mpr
      (keeps.inFile row column)

/-! ## All sheets -/

variable {workbook : Workbook} {book : Book}

theorem name_of_storedSheet (written : storedSheet table = .ok sheet) :
    sheet.name = table.name := by
  rcases storedSheet_eq_ok_iff.mp written with ⟨_, _, _, rfl⟩
  rfl

theorem ofWorkbook_eq_ok_iff :
    ofWorkbook workbook = .ok book ↔
      ∃ sheets, workbook.sheets.mapM storedSheet = .ok sheets ∧
        ⟨if sheets.isEmpty then [⟨"Sheet1", []⟩] else sheets⟩ = book := by
  unfold ofWorkbook
  cases workbook.sheets.mapM storedSheet <;> simp [bind, Except.bind, pure, Except.pure]

theorem sheets_of_ofWorkbook (nonempty : workbook.sheets ≠ [])
    (written : ofWorkbook workbook = .ok book) :
    workbook.sheets.mapM storedSheet = .ok book.sheets := by
  rcases ofWorkbook_eq_ok_iff.mp written with ⟨sheets, ran, rfl⟩
  have stored : sheets ≠ [] := by
    rintro rfl
    exact nonempty (List.map_eq_nil_iff.mp (mapM_eq_ok_iff.mp ran))
  rw [ran]
  simp [stored]

theorem nodup_of_namesApart (apart : book.namesApart = true) :
    (book.sheets.map (·.name)).Nodup := by
  unfold namesApart at apart
  have small := nodup_of_length_eraseDups (beq_iff_eq.mp apart)
  have split : book.sheets.map (fun sheet => lowercase sheet.name) =
      (book.sheets.map (·.name)).map lowercase := by
    rw [List.map_map]
    rfl
  rw [split] at small
  exact List.Nodup.of_map lowercase small

end Book

namespace SpreadsheetFile

variable {path : String} {workbook : Workbook} {before after : Disk}

theorem load_eq_ok_iff :
    load path before = .ok workbook ↔
      ∃ book, before.read path = .ok (.book book) ∧ book.workbook = .ok workbook := by
  unfold load
  cases read : before.read path with
  | error fault => simp
  | ok content => cases content <;> simp

def failure (path : String) : StoreError :=
  .during ("Failed to save Excel file: " ++ path) (.malformed .xlsx)

theorem save_of_error {error : StoreError} (refused : Book.ofWorkbook workbook = .error error) :
    save path workbook before = (.error error, before) :=
  Step.bind_error (congrArg (·, before) refused)

theorem save_of_apart {book : Book} (written : Book.ofWorkbook workbook = .ok book)
    (apart : book.namesApart = true) :
    save path workbook before =
      match before.write path (.book book) with
      | .ok after => (.ok (), after)
      | .error _ => (.error (failure path), before) := by
  have got : (get : ExceptT StoreError (StateM Disk) Disk) before = (.ok before, before) := rfl
  refine (Step.bind_ok (congrArg (·, before) written)).trans ((Step.bind_ok got).trans ?_)
  rw [apart, if_pos rfl]
  cases before.write path (.book book) <;> rfl

/-- That two names differ in case only shows when the file has been opened. -/
theorem save_of_alike {book : Book} (written : Book.ofWorkbook workbook = .ok book)
    (alike : book.namesApart = false) :
    save path workbook before =
      (.error (failure path), (before.write path (.text "")).toOption.getD before) := by
  have got : (get : ExceptT StoreError (StateM Disk) Disk) before = (.ok before, before) := rfl
  refine (Step.bind_ok (congrArg (·, before) written)).trans ((Step.bind_ok got).trans ?_)
  rw [alike, if_neg Bool.false_ne_true]
  cases before.write path (.text "") <;> rfl

theorem save_eq_ok_iff :
    save path workbook before = (.ok (), after) ↔
      ∃ book, Book.ofWorkbook workbook = .ok book ∧ book.namesApart = true ∧
        before.write path (.book book) = .ok after := by
  constructor
  · intro saved
    cases written : Book.ofWorkbook workbook with
    | error error => cases (save_of_error written).symm.trans saved
    | ok book =>
        cases apart : book.namesApart with
        | false => cases (save_of_alike written apart).symm.trans saved
        | true =>
            have same := (save_of_apart written apart).symm.trans saved
            refine ⟨book, rfl, apart, ?_⟩
            cases wrote : before.write path (.book book) with
            | error fault =>
                rw [wrote] at same
                cases same
            | ok disk =>
                rw [wrote] at same
                cases same
                rfl
  · rintro ⟨book, written, apart, wrote⟩
    rw [save_of_apart written apart, wrote]

theorem load_of_save (saved : save path workbook before = (.ok (), after)) :
    ∃ book, Book.ofWorkbook workbook = .ok book ∧ book.namesApart = true ∧
      load path after = book.workbook := by
  rcases save_eq_ok_iff.mp saved with ⟨book, written, apart, wrote⟩
  refine ⟨book, written, apart, ?_⟩
  rw [load, Disk.read_of_write wrote]

theorem saved_sheets (nonempty : workbook.sheets ≠ [])
    (saved : save path workbook before = (.ok (), after)) :
    ∃ loaded, load path after = .ok loaded ∧ loaded.names = workbook.names ∧
      ∀ table ∈ workbook.sheets, ∃ read sheet, loaded.sheet? table.name = some read ∧
        Book.storedSheet table = .ok sheet ∧
        ∀ row column, sheet.cellAt row column = .ok (read.get ⟨row⟩ column) := by
  rcases load_of_save saved with ⟨book, written, apart, loads⟩
  have ran := Book.sheets_of_ofWorkbook nonempty written
  have kept (table : Table) (sheet : StoredSheet) (isSheet : Book.storedSheet table = .ok sheet) :
      sheet.name = table.name :=
    Book.name_of_storedSheet isSheet
  have names : book.sheets.map (·.name) = workbook.names :=
    map_of_mapM ran fun table _ => kept table
  have nodup := Book.nodup_of_namesApart apart
  have readable : ∃ loaded, book.workbook = .ok loaded := by
    apply Book.workbook_succeeds_iff.mpr
    intro sheet member
    have inBook : (book.named? sheet.name).getD sheet ∈ book.sheets := by
      rcases Book.named?_of_mem member with ⟨first, found⟩
      rw [found]
      exact List.mem_of_find?_eq_some found
    rcases mem_of_mapM ran inBook with ⟨table, _, isSheet⟩
    exact Book.rows_of_storedSheet isSheet
  rcases readable with ⟨loaded, read⟩
  have loadedNames : loaded.names = workbook.names := by
    rw [Book.names_of_workbook read, eraseDups_of_nodup nodup, names]
  refine ⟨loaded, loads.trans read, loadedNames, fun table member => ?_⟩
  have named : table.name ∈ loaded.names := by
    rw [loadedNames]
    exact List.mem_map_of_mem member
  rcases List.mem_map.mp named with ⟨readTable, isRead, sameName⟩
  have found := Workbook.sheet?_of_mem (loadedNames ▸ names ▸ nodup) isRead
  rw [sameName] at found
  rcases Book.cellAt_of_workbook read found with ⟨sheet, isNamed, reads⟩
  have isTable : workbook.sheets.find? (·.name == table.name) = some table :=
    Workbook.sheet?_of_mem (names ▸ nodup) member
  have isSheet : book.sheets.find? (·.name == table.name) = some sheet := isNamed
  have stored := find?_of_mapM ran kept table.name
  rw [isTable, isSheet] at stored
  exact ⟨readTable, sheet, found, Option.some.inj stored, reads⟩

/-- A file that was saved can be loaded, with the same names in the same order, and a sheet comes
back as it was exactly if the file keeps its cells. -/
theorem save_keeps_iff (nonempty : workbook.sheets ≠ [])
    (plain : ∀ table ∈ workbook.sheets, ∀ cells ∈ table.rows, ∀ cell ∈ cells, cell.Plain)
    (saved : save path workbook before = (.ok (), after)) :
    ∃ loaded, load path after = .ok loaded ∧ loaded.names = workbook.names ∧
      ∀ table ∈ workbook.sheets, ∃ read, loaded.sheet? table.name = some read ∧
        ((∀ row column, read.get row column = table.get row column) ↔ Book.Keeps table) := by
  rcases saved_sheets nonempty saved with ⟨loaded, loads, names, each⟩
  refine ⟨loaded, loads, names, fun table member => ?_⟩
  rcases each table member with ⟨read, sheet, found, written, reads⟩
  refine ⟨read, found, ?_⟩
  rw [← Book.reads_same_iff written reads (Table.forall_get trivial (plain table member))]
  exact ⟨fun same row => same ⟨row⟩, fun same row => same row.above⟩

def dated (date : Date) : Workbook :=
  ⟨[⟨"Budgets", [[.text "due", .date date]]⟩]⟩

theorem save_keeps_iff_dated :
    ∃ after loaded read, save "k.xlsx" (dated ⟨2025, 6, 7, by decide⟩) ⟨[], []⟩ = (.ok (), after) ∧
      load "k.xlsx" after = .ok loaded ∧ loaded.names = ["Budgets"] ∧
      loaded.sheet? "Budgets" = some read ∧ read.get ⟨0⟩ 1 = .date ⟨2025, 6, 7, by decide⟩ := by
  let book : Book := ⟨[⟨"Budgets", [((0, 0), .text "due"), ((0, 1), .dateNumber (.ofNat 45815))]⟩]⟩
  have saved : save "k.xlsx" (dated ⟨2025, 6, 7, by decide⟩) ⟨[], []⟩ =
      (.ok (), ⟨[], [(["k.xlsx"], .file (.book book))]⟩) :=
    save_eq_ok_iff.mpr ⟨book, by decide +kernel, by decide +kernel, by decide +kernel⟩
  have plain : ∀ table ∈ (dated ⟨2025, 6, 7, by decide⟩).sheets, ∀ cells ∈ table.rows,
      ∀ cell ∈ cells, cell.Plain := by
    decide
  rcases save_keeps_iff (List.cons_ne_nil _ _) plain saved with ⟨loaded, loads, names, each⟩
  rcases each _ List.mem_cons_self with ⟨read, found, same⟩
  have keeps : Book.Keeps ⟨"Budgets", [[.text "due", .date ⟨2025, 6, 7, by decide⟩]]⟩ :=
    Book.keeps_of_forall_mem (by decide) (by decide)
  exact ⟨_, loaded, read, saved, loads, names, found, same.mpr keeps ⟨0⟩ 1⟩

/-- The year 67561 has the sixteen bits of the year 2025. -/
theorem save_changes_date :
    ∃ after, save "k.xlsx" (dated ⟨67561, 6, 7, by decide⟩) ⟨[], []⟩ = (.ok (), after) ∧
      load "k.xlsx" after = .ok (dated ⟨2025, 6, 7, by decide⟩) := by
  let book : Book := ⟨[⟨"Budgets", [((0, 0), .text "due"), ((0, 1), .dateNumber (.ofNat 45815))]⟩]⟩
  refine ⟨⟨[], [(["k.xlsx"], .file (.book book))]⟩, save_eq_ok_iff.mpr ⟨book, ?_, ?_, ?_⟩, ?_⟩ <;>
    decide +kernel

end SpreadsheetFile

end SheetPost
