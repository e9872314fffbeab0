import SheetPost.Proofs.Posting.Keeping
import SheetPost.Proofs.Posting.Runs
import SheetPost.Proofs.Spreadsheet.RoundTrip

namespace SheetPost

/-! ## Rows under their numbers -/

namespace Table

variable {table : Table} {row : RowPosition} {cells : List Cell}

theorem get_of_mem_dataRows (member : (row, cells) ∈ table.dataRows) (column : Nat) :
    table.get row column = cellAt cells column := by
  simp [get, cellAt, (mem_dataRows.mp member).2]

theorem count_dataRows (member : (row, cells) ∈ table.dataRows) :
    (table.dataRows.map (·.1)).count row = 1 := by
  apply List.count_eq_one_of_mem
  · apply List.Pairwise.map _ _ table.dataRows_ascend
    rintro first second less same
    exact Nat.ne_of_lt less (congrArg RowPosition.above same)
  · exact List.mem_map_of_mem member

end Table

/-! ## Statuses of a run and the answers behind them -/

namespace SyncRun

open PostedSheet

variable {kind : PostedSheet} {run : SyncRun kind} {sheet : Table}

theorem decided_of_written {row : RowPosition} {status : String}
    (written : (row, status) ∈ statusesIn (run.journal sheet)) :
    ∃ outcome, outcome.statusText? = some status ∧
      Decided run.answers (run.opening sheet).length kind (run.extraction sheet) row outcome := by
  rw [journal, perform] at written
  split at written
  · cases written
  · rcases dispatch_way run.dispatcher run.holder.sink run.options kind (run.extraction sheet)
      ⟨run.answers, [], run.holder.holding sheet⟩ with
      ⟨events, result, after, ran, way, effects, journal, same⟩
    rw [← same] at way
    apply way.decided
    simpa [ran, journal, statusesIn_effectsIn] using written

end SyncRun

namespace StoredSheet

/-- The table has the cells of the sheet in their places, and its rows of data are those of the
sheet below the first one, each under its own number. -/
structure KeepsPlaces (sheet : StoredSheet) (table : Table) : Prop where
  stored : ∀ {row column : Nat} {stored : StoredCell}, sheet.stored? row column = some stored →
    stored.cell = .ok (table.get ⟨row⟩ column)
  free : ∀ {row column : Nat}, sheet.stored? row column = none →
    table.get ⟨row⟩ column = .empty
  rows : ∀ {row : RowPosition} {cells : List Cell}, (row, cells) ∈ table.dataRows →
    1 < row.number ∧ ∀ column, sheet.cellAt row.above column = .ok (SheetPost.cellAt cells column)
  ascending : table.dataRows.Pairwise fun first second => first.1.number < second.1.number
  used : ∀ {row column : Nat} {stored : StoredCell}, sheet.stored? row column = some stored →
    0 < row → (table.dataRows.map (·.1)).count ⟨row⟩ = 1

/-- A run over a table writes into the rows of the sheet that it has its records from: each status
is the one decided for the record of its row, and every other cell is as in the sheet. -/
structure PostedInPlace (sheet : StoredSheet) (table : Table) {kind : PostedSheet}
    (run : SyncRun kind) : Prop where
  written : ∀ {row : RowPosition} {status : String},
    (row, status) ∈ statusesIn (run.journal table) →
      (∃ cells record, (row, record) ∈ (run.extraction table).entries ∧
        SheetRecord.ofRow? cells = some record ∧
        ∀ column, sheet.cellAt row.above column = .ok (SheetPost.cellAt cells column)) ∧
      (∃ outcome, outcome.statusText? = some status ∧
        PostedSheet.Decided run.answers (run.opening table).length kind (run.extraction table) row
          outcome) ∧
      (run.leaves table).get row (SheetRecord.statusColumn kind.Record) = .ofText status
  kept : ∀ {row column : Nat},
    ⟨row⟩ ∉ (run.extraction table).rows ∨ column ≠ SheetRecord.statusColumn kind.Record →
      sheet.cellAt row column = .ok ((run.leaves table).get ⟨row⟩ column)

variable {sheet : StoredSheet} {table : Table}

theorem cellAt_of_mem_dataRows (read : sheet.rows = .ok table.rows) {row : RowPosition}
    {cells : List Cell} (member : (row, cells) ∈ table.dataRows) (column : Nat) :
    sheet.cellAt row.above column = .ok (SheetPost.cellAt cells column) := by
  rw [← Table.get_of_mem_dataRows member]
  exact cellAt_of_rows read table.name row.above column

theorem keepsPlaces_of_rows (read : sheet.rows = .ok table.rows) : sheet.KeepsPlaces table where
  stored found := by
    rw [← cellAt_of_stored found]
    exact cellAt_of_rows read table.name _ _
  free none := by
    have same := (cellAt_of_none none).symm.trans (cellAt_of_rows read table.name _ _)
    exact (Except.ok.inj same).symm
  rows member :=
    ⟨Nat.succ_lt_succ (Table.mem_dataRows.mp member).1, cellAt_of_mem_dataRows read member⟩
  ascending := table.dataRows_ascend.imp Nat.succ_lt_succ
  used := by
    intro row column stored found below
    have inside := lt_length_of_rows read found
    have member : (⟨row⟩, table.rows[row]) ∈ table.dataRows :=
      Table.mem_dataRows.mpr ⟨below, List.getElem?_eq_getElem inside⟩
    exact Table.count_dataRows member

theorem postedInPlace_of_rows (read : sheet.rows = .ok table.rows) {kind : PostedSheet}
    (run : SyncRun kind) : sheet.PostedInPlace table run where
  written := by
    intro row status written
    rcases run.get_leaves_written table written with ⟨sent, there⟩
    refine ⟨?_, SyncRun.decided_of_written written, there⟩
    rcases List.mem_map.mp sent with ⟨⟨_, record⟩, entry, rfl⟩
    rcases Extraction.row_of_mem entry with ⟨below, cells, isRow, made⟩
    have member := Table.mem_dataRows.mpr ⟨below, isRow⟩
    exact ⟨cells, record, entry, made, cellAt_of_mem_dataRows read member⟩
  kept := by
    intro row column apart
    rw [run.get_leaves_other table apart]
    exact cellAt_of_rows read table.name row column

end StoredSheet

/-! ## Loading -/

namespace SpreadsheetFile

/-- Whatever cells a sheet has, and wherever they begin, its table has them in their places, and
runs over the table write into the rows of the sheet that their records come from. -/
theorem load_keeps_places {path name : String} {disk : Disk} {book : Book} {workbook : Workbook}
    {sheet : StoredSheet} (read : disk.read path = .ok (.book book))
    (loads : load path disk = .ok workbook) (named : book.named? name = some sheet) :
    ∃ table, workbook.sheet? name = some table ∧ sheet.KeepsPlaces table ∧
      ∀ (kind : PostedSheet) (run : SyncRun kind), sheet.PostedInPlace table run := by
  rw [load, read] at loads
  rcases Book.sheet?_of_named loads named with ⟨table, found, rows⟩
  exact ⟨table, found, StoredSheet.keepsPlaces_of_rows rows,
    fun _ run => StoredSheet.postedInPlace_of_rows rows run⟩

def scattered : StoredSheet where
  name := "Budgets"
  cells :=
    [((6, 1), .number (.ofNat 1200)), ((3, 1), .number (.ofNat 200)), ((6, 0), .text "rent"),
      ((4, 3), .text "later"), ((3, 0), .text "food")]

def scatteredDisk : Disk :=
  ⟨[], [(["k.xlsx"], .file (.book ⟨[scattered]⟩))]⟩

def scatteredRun : SyncRun .budgets where
  dispatcher := .sample
  options := ⟨false, 1, false⟩
  skipProcessed := false
  answers := [.replied 201 "", .replied 409 "taken"]
  holder := .inMemory 2

theorem load_keeps_places_scattered :
    ∃ workbook table, load "k.xlsx" scatteredDisk = .ok workbook ∧
      workbook.sheet? "Budgets" = some table ∧
      table.get ⟨6⟩ 0 = .text "rent" ∧ table.get ⟨5⟩ 0 = .empty ∧
      (table.dataRows.map (·.1)).count ⟨6⟩ = 1 ∧
      (scatteredRun.leaves table).get ⟨6⟩ 2 = .text "taken" ∧
      (scatteredRun.leaves table).get ⟨4⟩ 3 = .text "later" := by
  let table : Table :=
    ⟨"Budgets",
      [[], [], [], [.text "food", .number (.ofNat 200), .empty, .empty],
        [.empty, .empty, .empty, .text "later"], [.empty, .empty, .empty, .empty],
        [.text "rent", .number (.ofNat 1200), .empty, .empty]]⟩
  have loads : load "k.xlsx" scatteredDisk = .ok ⟨[table]⟩ := by decide +kernel
  have isThere : Workbook.sheet? ⟨[table]⟩ "Budgets" = some table := by decide +kernel
  have read : scatteredDisk.read "k.xlsx" = .ok (.book ⟨[scattered]⟩) := by decide +kernel
  have named : Book.named? ⟨[scattered]⟩ "Budgets" = some scattered := by decide +kernel
  rcases load_keeps_places read loads named with ⟨found, isFound, keeps, posts⟩
  obtain rfl := Option.some.inj (isThere.symm.trans isFound)
  have posted := posts .budgets scatteredRun
  have written : (⟨6⟩, "taken") ∈ statusesIn (scatteredRun.journal table) := by decide +kernel
  have rent : scattered.stored? 6 0 = some (.text "rent") := by decide +kernel
  have later : scattered.cellAt 4 3 = .ok (.text "later") := by decide +kernel
  exact ⟨_, table, loads, isThere, (Except.ok.inj (keeps.stored rent)).symm,
    keeps.free (by decide +kernel), keeps.used rent (by decide), (posted.written written).2.2,
    (Except.ok.inj (later.symm.trans (posted.kept (.inr (by decide))))).symm⟩

end SpreadsheetFile

end SheetPost
