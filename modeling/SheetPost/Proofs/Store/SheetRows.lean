import SheetPost.Proofs.Csv.Shown
import SheetPost.Proofs.Spreadsheet.Reading
import SheetPost.Proofs.Store.SheetDirectory

namespace SheetPost

open Csv

def StoredSheet.HasFields (sheet : StoredSheet) (rows : List (List String)) : Prop :=
  ∀ row column, sheet.cellAt row column =
    .ok (.ofText ((rows[row]?.getD [])[column]?.getD ""))

namespace SheetDirectory

open Disk

/-! ## Rows of a text -/

section Text

variable {text name : String}

def tableOfText (name text : String) : Table :=
  ⟨name, (recordsOfText text).map (·.map Cell.ofText)⟩

/-- The table knows each record by the row that is shown, as a table from a spreadsheet file does,
and the text that it is saved as shows the record in that row again. A mark of byte order at the
very front is no part of a text, so the first row may lose one. -/
structure KeepsRows (text : String) (table : Table) (saved : String) : Prop where
  position : ∀ (position : RowPosition) {record : List String} {row : Nat},
    (placed (shownRows text))[position.above]? = some (record, row) → position.number = row + 1
  agrees : ∀ {sheet : StoredSheet} {rows : List (List Cell)}, sheet.rows = .ok rows →
    sheet.HasFields (shownRows text) →
    ∀ row column, (Table.mk sheet.name rows).get row column = table.get row column
  saved : ∀ {record : List String} {row : Nat}, (record, row) ∈ placed (shownRows text) →
    (row = 0 → (record[0]?.getD "").toList.head? ≠ some '\uFEFF') →
    (shownRows saved)[row]? = some record

theorem getElem?_records {index row : Nat} {record : List String}
    (there : (placed (shownRows text))[index]? = some (record, row)) :
    (recordsOfText text)[index]? = some record := by
  rw [← records_placed, List.getElem?_map, there]
  rfl

theorem get_tableOfText (name text : String) (row : RowPosition) (column : Nat) :
    (tableOfText name text).get row column =
      .ofText (((recordsOfText text)[row.above]?.getD [])[column]?.getD "") := by
  rw [Table.get, tableOfText, List.getElem?_map]
  cases (recordsOfText text)[row.above]? with
  | none => rfl
  | some record =>
      simp only [Option.map_some, Option.getD_some, List.getElem?_map]
      cases record[column]? <;> rfl

theorem get_of_hasFields {sheet : StoredSheet} {rows : List (List Cell)}
    {fields : List (List String)} (read : sheet.rows = .ok rows) (same : sheet.HasFields fields)
    (row : RowPosition) (column : Nat) :
    (Table.mk sheet.name rows).get row column =
      .ofText ((fields[row.above]?.getD [])[column]?.getD "") := by
  have stored := StoredSheet.cellAt_of_rows read sheet.name row.above column
  rw [same] at stored
  exact (Except.ok.inj stored).symm

theorem getD_shownRows
    (inPlace : ∀ {index row : Nat} {record : List String},
      (placed (shownRows text))[index]? = some (record, row) → row = index) (row : Nat) :
    (shownRows text)[row]?.getD [] = (recordsOfText text)[row]?.getD [] := by
  cases shown : (shownRows text)[row]?.getD [] with
  | cons field fields =>
      have isRow : (shownRows text)[row]? = some (field :: fields) := by
        cases found : (shownRows text)[row]? <;> simp_all
      have member := mem_placed.mpr ⟨isRow, List.cons_ne_nil _ _⟩
      rcases List.mem_iff_getElem?.mp member with ⟨index, there⟩
      cases inPlace there
      rw [getElem?_records there, Option.getD_some]
  | nil =>
      cases read : (recordsOfText text)[row]? with
      | none => rfl
      | some record =>
          rw [← records_placed, List.getElem?_map] at read
          rcases Option.map_eq_some_iff.mp read with ⟨⟨_, place⟩, there, rfl⟩
          cases inPlace there
          rcases mem_placed.mp (List.mem_of_getElem? there) with ⟨isRow, some⟩
          rw [isRow] at shown
          exact absurd shown some

theorem keepsRows_iff (name text : String) :
    KeepsRows text (tableOfText name text) (textOfRecords (recordsOfText text)) ↔
      ∀ record row, (record, row) ∈ placed (shownRows text) →
        [] ∉ (shownRows text).take row := by
  constructor
  · intro keeps record row member
    rcases List.mem_iff_getElem?.mp member with ⟨index, there⟩
    have numbered : index + 1 = row + 1 := keeps.position ⟨index⟩ there
    have counted := place_of_placed there
    apply List.count_eq_zero.mp
    omega
  · intro noneAbove
    have inPlace : ∀ {index row : Nat} {record : List String},
        (placed (shownRows text))[index]? = some (record, row) → row = index := by
      intro index row record there
      rw [place_of_placed there,
        List.count_eq_zero.mpr (noneAbove record row (List.mem_of_getElem? there)), Nat.add_zero]
    refine ⟨fun _ _ _ there => congrArg Nat.succ (inPlace there).symm, ?_, ?_⟩
    · intro sheet rows read same row column
      rw [get_of_hasFields read same, getD_shownRows inPlace, get_tableOfText]
    · intro record row member front
      rcases List.mem_iff_getElem?.mp member with ⟨index, there⟩
      cases inPlace there
      have isRecord := getElem?_records there
      rw [shownRows_textOfRecords (fun _ => ne_nil_of_mem_recordsOfText), isRecord]
      rintro rfl
      rw [isRecord]
      exact front rfl

end Text

/-! ## Loading and saving -/

section Loading

variable {disk : Disk} {directory : String} {place : Place} {loaded : Workbook}

theorem sheet?_of_text (sound : disk.Sound) (leads : disk.LeadsTo directory place)
    (loads : load directory disk = .ok loaded) {name file text : String}
    (isSource : source? (disk.namesIn place) name = some file)
    (content : disk.entryAt? (place ++ [file]) = some (.file (.text text))) :
    loaded.sheet? name = some (tableOfText name text) := by
  have listed := (mem_names_loaded leads loads).mpr ⟨file, (mem_of_source? isSource).1⟩
  rcases loadSheet_of_source leads loads listed with ⟨_, table, same, read, found⟩
  cases isSource.symm.trans same
  rcases loadSheet_eq_ok_iff.mp read with ⟨contentRead, records, isThere, isRead, rfl⟩
  have named := isName_of_mem_namesIn sound (source?_eq_some_iff.mp isSource).1.1
  rw [find_join leads named (spelled_of_find isThere).short, lookUp_of_isName _ _ named,
    content] at isThere
  cases isThere
  cases isRead
  exact found

theorem contentOf_tableOfText (name text : String) :
    contentOf (tableOfText name text) = .text (textOfRecords (recordsOfText text)) := by
  simp [contentOf, tableOfText, Function.comp_def, Cell.shown_ofText]

/-- The records of a sheet are read in order, each one as many rows too high as there are empty
lines above it. They are known by the rows that are shown, and saving leaves them there, if and only
if there is no such line above any of them. -/
theorem load_keeps_rows_iff (sound : disk.Sound) (leads : disk.LeadsTo directory place)
    (loads : load directory disk = .ok loaded) {name file text : String}
    (isSource : source? (disk.namesIn place) name = some file)
    (content : disk.entryAt? (place ++ [file]) = some (.file (.text text))) :
    ∃ table after saved, loaded.sheet? name = some table ∧
      save directory loaded disk = (.ok (), after) ∧
      after.entryAt? (place ++ [fileName name]) = some (.file (.text saved)) ∧
      table.rowCount = (placed (shownRows text)).length ∧
      (∀ {index row : Nat} {record : List String},
        (placed (shownRows text))[index]? = some (record, row) →
          table.rows[index]? = some (record.map Cell.ofText) ∧
          row = index + ((shownRows text).take row).count []) ∧
      (KeepsRows text table saved ↔
        ∀ record row, (record, row) ∈ placed (shownRows text) →
          [] ∉ (shownRows text).take row) := by
  have found := sheet?_of_text sound leads loads isSource content
  rcases save_over_apply sound leads loads (fun _ => id) with ⟨_, saved, _⟩
  have written : (withSheets place loaded.sheets disk).entryAt? (place ++ [fileName name]) =
      some (.file (contentOf (tableOfText name text))) :=
    entryAt?_withSheets (nodup_of_load loads) (Workbook.mem_of_sheet? found).1
  rw [contentOf_tableOfText] at written
  refine ⟨_, _, _, found, saved, written, ?_, ?_, keepsRows_iff name text⟩
  · rw [Table.rowCount, tableOfText, List.length_map, ← records_placed, List.length_map]
  · intro index row record there
    refine ⟨?_, place_of_placed there⟩
    rw [tableOfText, List.getElem?_map, getElem?_records there]
    rfl

def textDisk (text : String) : Disk where
  workingDirectory := []
  entries := [(["books"], .directory), (["books", "Budgets.csv"], .file (.text text))]

theorem sound_textDisk (text : String) : (textDisk text).Sound := by
  refine ⟨nofun, by simp [textDisk], ?_⟩
  have books : IsName "books" := by constructor <;> decide +kernel
  have budgets : IsName "Budgets.csv" := by constructor <;> decide +kernel
  simp [textDisk, books, budgets]

def quotedText : String :=
  "category,limit\r\n\"food\n\nand\",200\r\nrent,1200\r\n\r\n"

theorem load_keeps_rows_iff_quoted :
    ∃ loaded table after saved, load "books" (textDisk quotedText) = .ok loaded ∧
      loaded.sheet? "Budgets" = some table ∧ table.rowCount = 3 ∧
      table.rows[2]? = some [.text "rent", .text "1200"] ∧
      save "books" loaded (textDisk quotedText) = (.ok (), after) ∧
      after.entryAt? ["books", "Budgets.csv"] = some (.file (.text saved)) ∧
      KeepsRows quotedText table saved := by
  have leads : (textDisk quotedText).LeadsTo "books" ["books"] := by
    unfold LeadsTo
    decide +kernel
  have loads : load "books" (textDisk quotedText) =
      .ok ⟨[tableOfText "Budgets" quotedText]⟩ := by
    decide +kernel
  have isSource : source? ((textDisk quotedText).namesIn ["books"]) "Budgets" =
      some "Budgets.csv" := by
    decide +kernel
  rcases load_keeps_rows_iff (sound_textDisk quotedText) leads loads isSource (by rfl) with
    ⟨table, after, saved, found, isSaved, written, count, records, iff⟩
  have three : placed (shownRows quotedText) =
      [(["category", "limit"], 0), (["food\n\nand", "200"], 1), (["rent", "1200"], 2)] := by
    decide +kernel
  have filled : [] ∉ (shownRows quotedText).take 3 := by decide +kernel
  rw [three] at count records iff
  refine ⟨_, table, after, saved, loads, found, count, ?_, isSaved, written, iff.mpr ?_⟩
  · exact (records (show _[2]? = some (["rent", "1200"], 2) from rfl)).1
  · intro record row member empty
    have early : row ≤ 3 := by
      revert member
      simp only [List.mem_cons, Prod.mk.injEq, List.not_mem_nil, or_false]
      omega
    exact filled (List.take_subset_take_left _ early empty)

/-- An empty line below the header: the record in the third row is read as the second row, and saved
there. -/
theorem load_misplaces_row :
    ∃ loaded table after saved,
      load "books" (textDisk "category,limit,status\n\nfood,200,\n") = .ok loaded ∧
      loaded.sheet? "Budgets" = some table ∧
      save "books" loaded (textDisk "category,limit,status\n\nfood,200,\n") = (.ok (), after) ∧
      after.entryAt? ["books", "Budgets.csv"] = some (.file (.text saved)) ∧
      (shownRows "category,limit,status\n\nfood,200,\n")[2]? = some ["food", "200", ""] ∧
      table.dataRows = [(⟨1⟩, [.text "food", .text "200", .empty])] ∧
      (shownRows saved)[1]? = some ["food", "200", ""] ∧
      ¬KeepsRows "category,limit,status\n\nfood,200,\n" table saved := by
  let text := "category,limit,status\n\nfood,200,\n"
  let table := tableOfText "Budgets" text
  let saved := "category,limit,status\nfood,200,\n"
  have loads : load "books" (textDisk text) = .ok ⟨[table]⟩ := by decide +kernel
  have isSaved : save "books" ⟨[table]⟩ (textDisk text) = (.ok (), textDisk saved) := by
    change @Eq (Except StoreError Unit × Disk) _ _
    decide +kernel
  have shown : (placed (shownRows text))[1]? = some (["food", "200", ""], 2) := by decide +kernel
  refine ⟨_, table, textDisk saved, saved, loads, by decide +kernel, isSaved, by decide +kernel,
    by decide +kernel, by decide +kernel, by decide +kernel, fun keeps => ?_⟩
  exact absurd (keeps.position ⟨1⟩ shown) (by decide)

end Loading

end SheetDirectory

end SheetPost
