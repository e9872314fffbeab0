import SheetPost.Proofs.Results
import SheetPost.Proofs.Workbook.Collection
import SheetPost.Spreadsheet.Book

namespace SheetPost

theorem foldl_bounds {α : Type} (within : Nat → Nat → Prop) [Std.Refl within] [IsTrans Nat within]
    {pick : Nat → Nat → Nat} (left : ∀ a b, within a (pick a b))
    (right : ∀ a b, within b (pick a b)) (key : α → Nat) (values : List α) (start : Nat) :
    within start (values.foldl (fun picked value => pick picked (key value)) start) ∧
      ∀ value ∈ values,
        within (key value) (values.foldl (fun picked value => pick picked (key value)) start) := by
  induction values generalizing start with
  | nil => exact ⟨refl_of within start, nofun⟩
  | cons head tail induction =>
      rcases induction (pick start (key head)) with ⟨first, later⟩
      rw [List.foldl_cons]
      refine ⟨trans_of within (left start (key head)) first, fun value member => ?_⟩
      rcases List.mem_cons.mp member with rfl | isLater
      · exact trans_of within (right start (key value)) first
      · exact later value isLater

namespace StoredSheet

variable {sheet : StoredSheet} {row column : Nat} {stored : StoredCell}

def stored? (sheet : StoredSheet) (row column : Nat) : Option StoredCell :=
  sheet.cells.reverse.lookup (row, column)

theorem cellAt_of_stored (found : sheet.stored? row column = some stored) :
    sheet.cellAt row column = stored.cell := by
  rw [cellAt, ← stored?, found]

theorem cellAt_of_none (free : sheet.stored? row column = none) :
    sheet.cellAt row column = .ok .empty := by
  rw [cellAt, ← stored?, free]

theorem mem_of_stored (found : sheet.stored? row column = some stored) :
    ((row, column), stored) ∈ sheet.cells := by
  rcases List.lookup_eq_some_iff.mp found with ⟨before, after, split, _⟩
  rw [← List.mem_reverse, split]
  exact List.mem_append_right _ List.mem_cons_self

/-- The cells lie in a box, and the rows are read from it. -/
theorem rows_box (readable : sheet.readable = true) :
    ∃ firstRow endRow firstColumn endColumn,
      (∀ place stored, (place, stored) ∈ sheet.cells →
        (firstRow ≤ place.1 ∧ place.1 < endRow) ∧ firstColumn ≤ place.2 ∧ place.2 < endColumn) ∧
      sheet.rows = (List.range endRow).mapM fun row =>
        if row < firstRow then .ok []
        else (List.range endColumn).mapM fun column =>
          if column < firstColumn then .ok .empty else sheet.cellAt row column := by
  unfold rows
  rw [if_neg (by simp [readable])]
  cases cells : sheet.cells with
  | nil => exact ⟨0, 0, 0, 0, fun _ _ member => (nomatch member), rfl⟩
  | cons entry entries =>
      rcases entry with ⟨place, first⟩
      let places := entries.map (·.1)
      have low (key : Nat × Nat → Nat) :=
        foldl_bounds (· ≥ ·) Nat.min_le_left Nat.min_le_right key places
      have high (key : Nat × Nat → Nat) :=
        foldl_bounds (· ≤ ·) Nat.le_max_left Nat.le_max_right key places
      have lowRow := low (·.1) place.1
      have highRow := high (·.1) place.1
      have lowColumn := low (·.2) place.2
      have highColumn := high (·.2) place.2
      refine ⟨places.foldl (fun first place => min first place.1) place.1,
        places.foldl (fun last place => max last place.1) place.1 + 1,
        places.foldl (fun first place => min first place.2) place.2,
        places.foldl (fun last place => max last place.2) place.2 + 1, ?_, rfl⟩
      intro other stored member
      rcases List.mem_cons.mp member with same | later
      · cases same
        omega
      · have listed : other ∈ places := List.mem_map_of_mem later
        have := lowRow.2 other listed
        have := highRow.2 other listed
        have := lowColumn.2 other listed
        have := highColumn.2 other listed
        omega

theorem readable_of_rows {rows : List (List Cell)} (read : sheet.rows = .ok rows) :
    sheet.readable = true := by
  by_contra unreadable
  rw [StoredSheet.rows, if_pos (by simpa using unreadable)] at read
  cases read

theorem cellAt_of_rows {rows : List (List Cell)} (read : sheet.rows = .ok rows) (name : String)
    (row column : Nat) :
    sheet.cellAt row column = .ok ((Table.mk name rows).get ⟨row⟩ column) := by
  rcases rows_box (readable_of_rows read) with
    ⟨firstRow, endRow, firstColumn, endColumn, inside, same⟩
  rw [same] at read
  -- Nothing is stored outside of the box.
  have outside (apart : ¬((firstRow ≤ row ∧ row < endRow) ∧ firstColumn ≤ column ∧
      column < endColumn)) : sheet.cellAt row column = .ok .empty := by
    apply cellAt_of_none
    cases found : sheet.stored? row column with
    | none => rfl
    | some stored => exact absurd (inside _ _ (mem_of_stored found)) apart
  unfold Table.get
  dsimp only
  rcases results_of_range read [] row with ⟨readRow, ended⟩
  by_cases below : row < endRow
  · have cells := readRow below
    split at cells
    · next above =>
        rw [← Except.ok.inj cells, outside (by omega)]
        rfl
    · next reached =>
        rcases results_of_range cells .empty column with ⟨readColumn, rowEnded⟩
        by_cases left : column < endColumn
        · have cell := readColumn left
          split at cell
          · next before => rw [outside (by omega), cell]
          · exact cell
        · rw [outside (by omega), rowEnded (Nat.le_of_not_lt left)]
          rfl
  · rw [outside (by omega), ended (Nat.le_of_not_lt below)]
    rfl

theorem lt_length_of_rows {rows : List (List Cell)} (read : sheet.rows = .ok rows)
    (found : sheet.stored? row column = some stored) : row < rows.length := by
  rcases rows_box (readable_of_rows read) with ⟨firstRow, endRow, _, _, inside, same⟩
  have below := (inside _ _ (mem_of_stored found)).1.2
  have sized := congrArg List.length (mapM_eq_ok_iff.mp (same.symm.trans read))
  rw [List.length_map, List.length_map, List.length_range] at sized
  exact sized ▸ below

theorem rows_succeeds_iff :
    (∃ rows, sheet.rows = .ok rows) ↔
      sheet.readable = true ∧ ∀ row column, ∃ cell, sheet.cellAt row column = .ok cell := by
  constructor
  · rintro ⟨rows, read⟩
    exact ⟨readable_of_rows read, fun row column => ⟨_, cellAt_of_rows read "" row column⟩⟩
  · rintro ⟨readable, each⟩
    rcases rows_box readable with ⟨firstRow, endRow, firstColumn, endColumn, _, same⟩
    rw [same]
    apply mapM_succeeds_iff.mpr
    intro row _
    split
    · exact ⟨[], rfl⟩
    · apply mapM_succeeds_iff.mpr
      intro column _
      split
      · exact ⟨.empty, rfl⟩
      · exact each row column

end StoredSheet

namespace Book

variable {book : Book} {workbook : Workbook} {name : String}

def named? (book : Book) (name : String) : Option StoredSheet :=
  book.sheets.find? (·.name == name)

def tableOf (book : Book) (sheet : StoredSheet) : Except StoreError Table :=
  ((book.named? sheet.name).getD sheet).rows.map (Table.mk sheet.name)

theorem workbook_eq (book : Book) :
    book.workbook = (book.sheets.mapM book.tableOf).map Workbook.ofTables := by
  have same : (fun sheet : StoredSheet =>
      ((book.named? sheet.name).getD sheet).rows.bind fun rows =>
        .ok (Table.mk sheet.name rows)) = book.tableOf := by
    funext sheet
    rw [tableOf]
    cases ((book.named? sheet.name).getD sheet).rows <;> rfl
  change (book.sheets.mapM (fun sheet : StoredSheet =>
    ((book.named? sheet.name).getD sheet).rows.bind fun rows =>
      .ok (Table.mk sheet.name rows))).bind (fun tables => .ok (Workbook.ofTables tables)) = _
  rw [same]
  cases book.sheets.mapM book.tableOf <;> rfl

theorem workbook_eq_ok_iff :
    book.workbook = .ok workbook ↔
      ∃ tables, book.sheets.mapM book.tableOf = .ok tables ∧ .ofTables tables = workbook := by
  rw [workbook_eq]
  cases book.sheets.mapM book.tableOf <;> simp [Except.map]

theorem named?_of_mem {sheet : StoredSheet} (member : sheet ∈ book.sheets) :
    ∃ first, book.named? sheet.name = some first := by
  rw [← Option.isSome_iff_exists, named?, List.find?_isSome]
  exact ⟨sheet, member, by simp⟩

theorem tableOf_ok {sheet : StoredSheet} {table : Table} (member : sheet ∈ book.sheets)
    (read : book.tableOf sheet = .ok table) :
    table.name = sheet.name ∧
      ∃ first, book.named? table.name = some first ∧ first.rows = .ok table.rows := by
  rcases named?_of_mem member with ⟨first, found⟩
  rw [tableOf, found, Option.getD_some] at read
  cases rows : first.rows with
  | error error =>
      rw [rows] at read
      cases read
  | ok cells =>
      rw [rows] at read
      cases read
      exact ⟨rfl, first, found, rows⟩

theorem names_of_workbook (read : book.workbook = .ok workbook) :
    workbook.names = (book.sheets.map (·.name)).eraseDups := by
  rcases workbook_eq_ok_iff.mp read with ⟨tables, ran, rfl⟩
  rw [Workbook.names_ofTables]
  congr 1
  exact map_of_mapM ran fun sheet member table isTable => (tableOf_ok member isTable).1

theorem rows_of_workbook (read : book.workbook = .ok workbook) {table : Table}
    (found : workbook.sheet? name = some table) :
    ∃ sheet, book.named? name = some sheet ∧ sheet.rows = .ok table.rows := by
  rcases workbook_eq_ok_iff.mp read with ⟨tables, ran, rfl⟩
  rcases Workbook.mem_of_sheet? found with ⟨member, rfl⟩
  rcases mem_of_mapM ran (Workbook.mem_of_mem_ofTables member) with ⟨sheet, listed, isTable⟩
  exact (tableOf_ok listed isTable).2

theorem cellAt_of_workbook (read : book.workbook = .ok workbook) {table : Table}
    (found : workbook.sheet? name = some table) :
    ∃ sheet, book.named? name = some sheet ∧
      ∀ row column, sheet.cellAt row column = .ok (table.get ⟨row⟩ column) := by
  rcases rows_of_workbook read found with ⟨sheet, named, rows⟩
  exact ⟨sheet, named, StoredSheet.cellAt_of_rows rows name⟩

theorem sheet?_of_named (read : book.workbook = .ok workbook) {sheet : StoredSheet}
    (named : book.named? name = some sheet) :
    ∃ table, workbook.sheet? name = some table ∧ sheet.rows = .ok table.rows := by
  have isNamed : sheet.name = name := by simpa using List.find?_some named
  have listed : name ∈ workbook.names := by
    rw [names_of_workbook read, List.mem_eraseDups, ← isNamed]
    exact List.mem_map_of_mem (List.mem_of_find?_eq_some named)
  rcases Workbook.mem_names.mp listed with ⟨table, found⟩
  rcases rows_of_workbook read found with ⟨first, isFirst, rows⟩
  cases named.symm.trans isFirst
  exact ⟨table, found, rows⟩

theorem workbook_succeeds_iff :
    (∃ workbook, book.workbook = .ok workbook) ↔
      ∀ sheet ∈ book.sheets, ∃ rows, ((book.named? sheet.name).getD sheet).rows = .ok rows := by
  have tables : (∃ workbook, book.workbook = .ok workbook) ↔
      ∃ tables, book.sheets.mapM book.tableOf = .ok tables := by
    simp only [workbook_eq_ok_iff]
    exact ⟨fun ⟨_, tables, ran, _⟩ => ⟨tables, ran⟩, fun ⟨tables, ran⟩ => ⟨_, tables, ran, rfl⟩⟩
  rw [tables, mapM_succeeds_iff]
  simp only [tableOf, map_eq_ok_iff]
  refine forall₂_congr fun sheet _ => ?_
  exact ⟨fun ⟨_, rows, read, _⟩ => ⟨rows, read⟩, fun ⟨rows, read⟩ => ⟨_, rows, read, rfl⟩⟩

end Book

end SheetPost
