import SheetPost.Proofs.Store.SheetDirectory

namespace SheetPost.SheetDirectory

open Disk

variable {disk : Disk} {directory : String} {place : Place} {loaded workbook : Workbook}

/-- Saving has put every sheet into the file that it was read from, made no new file, and changed
nothing else. -/
structure WritesBack (before after : Disk) (place : Place) (workbook : Workbook) : Prop where
  noneNew : ∀ spot, after.entryAt? spot ≠ none → before.entryAt? spot ≠ none
  noneElse : ∀ spot, after.entryAt? spot ≠ before.entryAt? spot →
    ∃ name ∈ workbook.names, ∃ file, source? (before.namesIn place) name = some file ∧
      spot = place ++ [file]
  carried : ∀ table ∈ workbook.sheets, ∃ file,
    source? (before.namesIn place) table.name = some file ∧
      after.entryAt? (place ++ [file]) = some (.file (contentOf table))

theorem noneElse_withSheets {tables : List Table} {spot : Place}
    (changed : (withSheets place tables disk).entryAt? spot ≠ disk.entryAt? spot) :
    ∃ table ∈ tables, spot = place ++ [fileName table.name] := by
  by_contra apart
  exact changed (entryAt?_withSheets_other fun table member same => apart ⟨table, member, same⟩)

theorem writesBack_of_spelled (nodup : workbook.names.Nodup)
    (sources : ∀ name ∈ workbook.names,
      source? (disk.namesIn place) name = some (fileName name)) :
    WritesBack disk (withSheets place workbook.sheets disk) place workbook where
  noneNew := by
    intro spot there none
    rcases noneElse_withSheets (none ▸ there) with ⟨table, member, rfl⟩
    have isSource := sources table.name (List.mem_map_of_mem member)
    exact mem_namesIn.mp (source?_eq_some_iff.mp isSource).1.1 none
  noneElse := by
    intro spot changed
    rcases noneElse_withSheets changed with ⟨table, member, rfl⟩
    have listed : table.name ∈ workbook.names := List.mem_map_of_mem member
    exact ⟨table.name, listed, fileName table.name, sources _ listed, rfl⟩
  carried := fun table member =>
    ⟨fileName table.name, sources _ (List.mem_map_of_mem member), entryAt?_withSheets nodup member⟩

theorem entryAt?_source {name file : String}
    (isSource : source? (disk.namesIn place) name = some file)
    (misspelled : fileName name ∉ disk.namesIn place) :
    (withSheets place workbook.sheets disk).entryAt? (place ++ [file]) =
      disk.entryAt? (place ++ [file]) := by
  apply entryAt?_withSheets_other
  rintro table member same
  cases List.singleton_inj.mp (List.append_cancel_left same)
  rcases (source?_eq_some_iff.mp isSource).1 with ⟨there, holds⟩
  cases eq_of_sheetName?_fileName holds
  exact misspelled there

/-- Saving the sheets of a directory over it puts them back into their files if and only if there is
a file for each that is spelled as saving spells it. Where there is none, a new file holds the sheet
and the file that it was read from stays as it was. -/
theorem save_writes_back_iff (sound : disk.Sound) (loads : load directory disk = .ok loaded)
    (same : workbook.names = loaded.names) :
    ∃ place after, disk.LeadsTo directory place ∧
      save directory workbook disk = (.ok (), after) ∧
      (∀ name ∈ workbook.names, ∃ file table, source? (disk.namesIn place) name = some file ∧
        loadSheet disk (Path.join directory file) name = .ok table ∧
        loaded.sheet? name = some table) ∧
      (WritesBack disk after place workbook ↔
        ∀ name ∈ workbook.names, fileName name ∈ disk.namesIn place) ∧
      ∀ table ∈ workbook.sheets, fileName table.name ∉ disk.namesIn place →
        after.entryAt? (place ++ [fileName table.name]) = some (.file (contentOf table)) ∧
        ∀ file, source? (disk.namesIn place) table.name = some file →
          after.entryAt? (place ++ [file]) = disk.entryAt? (place ++ [file]) := by
  rcases leadsTo_of_load loads with ⟨place, leads⟩
  rcases save_over_apply sound leads loads (fun name => (same ▸ ·)) with ⟨_, saved, _⟩
  have nodup : workbook.names.Nodup := same ▸ nodup_of_load loads
  refine ⟨place, _, leads, saved, fun name listed => ?_, ⟨fun back name listed => ?_,
    fun spelled => ?_⟩, fun table member misspelled => ?_⟩
  · exact loadSheet_of_source leads loads (same ▸ listed)
  · rcases List.mem_map.mp listed with ⟨table, member, rfl⟩
    apply mem_namesIn.mpr
    apply back.noneNew
    rw [entryAt?_withSheets nodup member]
    nofun
  · apply writesBack_of_spelled nodup
    intro name listed
    rcases (mem_names_loaded leads loads).mp (same ▸ listed) with ⟨_, isItem⟩
    have some := (sheetName?_eq_some_iff.mp (mem_sheetFiles.mp isItem).2).1
    exact source?_of_fileName some (spelled name listed)
  · exact ⟨entryAt?_withSheets nodup member,
      fun file isSource => entryAt?_source isSource misspelled⟩

def budgetsDisk (file : String) : Disk where
  workingDirectory := []
  entries :=
    [(["books"], .directory), (["books", "notes.txt"], .file (.text "later")),
      (["books", file], .file (.text "category,limit,status\nfood,200,\n"))]

def budgetsWorkbook (status : Cell) : Workbook :=
  ⟨[⟨"Budgets", [[.text "category", .text "limit", .text "status"],
    [.text "food", .text "200", status]]⟩]⟩

theorem sound_budgetsDisk {file : String} (named : IsName file) (isSheet : file ≠ "notes.txt") :
    (budgetsDisk file).Sound := by
  refine ⟨nofun, by simp [budgetsDisk, Ne.symm isSheet], ?_⟩
  have books : IsName "books" := by constructor <;> decide +kernel
  have notes : IsName "notes.txt" := by constructor <;> decide +kernel
  simp [budgetsDisk, books, notes, named]

theorem save_writes_back_iff_spelled :
    ∃ after, save "books" (budgetsWorkbook (.text "OK")) (budgetsDisk "Budgets.csv") =
        (.ok (), after) ∧
      WritesBack (budgetsDisk "Budgets.csv") after ["books"] (budgetsWorkbook (.text "OK")) := by
  have named : IsName "Budgets.csv" := by constructor <;> decide +kernel
  have loads : load "books" (budgetsDisk "Budgets.csv") = .ok (budgetsWorkbook .empty) := by
    decide +kernel
  have same : (budgetsWorkbook (.text "OK")).names = (budgetsWorkbook .empty).names := rfl
  rcases save_writes_back_iff (sound_budgetsDisk named (by decide)) loads same with
    ⟨place, after, leads, saved, _, iff, _⟩
  have leadsBooks : (budgetsDisk "Budgets.csv").LeadsTo "books" ["books"] := by
    unfold LeadsTo
    decide +kernel
  cases leads.symm.trans leadsBooks
  refine ⟨after, saved, iff.mpr ?_⟩
  decide +kernel

/-- A file with a capital extension is loaded, and saving writes another one beside it. -/
theorem save_misses_capitals :
    ∃ (disk after : Disk) (loaded : Workbook), disk.Sound ∧ disk.LeadsTo "books" ["books"] ∧
      load "books" disk = .ok loaded ∧ save "books" loaded disk = (.ok (), after) ∧
      ¬WritesBack disk after ["books"] loaded := by
  let before := budgetsDisk "Budgets.CSV"
  let after := withSheets ["books"] (budgetsWorkbook .empty).sheets before
  have named : IsName "Budgets.CSV" := by constructor <;> decide +kernel
  have loads : load "books" before = .ok (budgetsWorkbook .empty) := by decide +kernel
  have leads : before.LeadsTo "books" ["books"] := by
    unfold LeadsTo
    decide +kernel
  have saved : save "books" (budgetsWorkbook .empty) before = (.ok (), after) := by
    change @Eq (Except StoreError Unit × Disk) _ _
    decide +kernel
  have new : after.entryAt? ["books", "Budgets.csv"] ≠ none := by decide +kernel
  have absent : before.entryAt? ["books", "Budgets.csv"] = none := by decide +kernel
  exact ⟨before, after, _, sound_budgetsDisk named (by decide), leads, loads, saved,
    fun back => back.noneNew _ new absent⟩

end SheetPost.SheetDirectory
