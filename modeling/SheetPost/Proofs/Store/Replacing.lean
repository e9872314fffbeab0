import SheetPost.Proofs.Spreadsheet.RoundTrip
import SheetPost.Proofs.Store.FreshDirectory
import SheetPost.Store.WorkbookStore

namespace SheetPost

namespace SheetDirectory

open Disk

variable {disk after : Disk} {directory sheet : String} {place : Place}

/-! ## What a save that succeeds has written -/

theorem writable_of_saveSheet {table : Table} (leads : disk.LeadsTo directory place)
    (named : IsName (fileName table.name))
    (saved : saveSheet directory table disk = (.ok (), after)) :
    Writable disk directory place table.name := by
  cases wrote : disk.write (Path.join directory (fileName table.name)) (contentOf table) with
  | error fault =>
      rw [saveSheet_eq, wrote] at saved
      cases saved
  | ok written =>
      rcases write_eq_ok_iff.mp wrote with ⟨last, reached, _, _, _, free, _⟩
      have spelled := spelled_of_approach reached
      cases reached.symm.trans (approach_join leads named.flat named.some spelled)
      rw [LastStep.place, step_of_isName named] at free
      exact ⟨named, spelled.short, free⟩

theorem Writable.of_withSheet {table : Table} (first : Writable disk directory place table.name)
    (writable : Writable (SheetDirectory.withSheet place disk table) directory place sheet) :
    Writable disk directory place sheet := by
  refine ⟨writable.named, writable.short, ?_⟩
  by_cases same : place ++ [fileName sheet] = place ++ [fileName table.name]
  · rw [same]
    exact first.free
  · have free := writable.free
    rwa [SheetDirectory.withSheet, entryAt?_put_other _ _ same] at free

theorem writable_of_forM {tables : List Table} (leads : disk.LeadsTo directory place)
    (named : ∀ table ∈ tables, IsName (fileName table.name))
    (saved : tables.forM (saveSheet directory) disk = (.ok (), after)) :
    ∀ table ∈ tables, Writable disk directory place table.name := by
  induction tables generalizing disk with
  | nil => exact fun _ member => absurd member List.not_mem_nil
  | cons table tables induction =>
      rw [List.forall_mem_cons] at named ⊢
      cases ran : saveSheet directory table disk with
      | mk result middle =>
          cases result with
          | error error => cases (Step.bind_error ran).symm.trans saved
          | ok value =>
              have first := writable_of_saveSheet leads named.1 ran
              have later := (Step.bind_ok (saveSheet_apply leads first)).symm.trans saved
              exact ⟨first, fun other member => first.of_withSheet
                (induction (leads.put first.free _) named.2 later other member)⟩

/-! ## The known sheets, saved over what was there -/

theorem rank_injective {first second : String} (isKnown : first ∈ knownNames)
    (isKnownToo : second ∈ knownNames) (same : rank first = rank second) : first = second := by
  have apart : ∀ first ∈ knownNames, ∀ second ∈ knownNames,
      rank first = rank second → first = second := by
    decide
  exact apart first isKnown second isKnownToo same

theorem names_inOrder (disk : Disk) (directory : String) (files : List String) :
    (Workbook.ofTables ((sheetFiles files).map (tableIn disk directory))).names.Pairwise
      fun first second => rank first ≤ rank second := by
  rw [names_loaded]
  refine List.Pairwise.sublist (eraseDups_sublist _) (List.pairwise_map.mpr ?_)
  refine (sheetFiles_inOrder files).imp fun before => ?_
  rcases before with less | ⟨equal, _⟩
  · exact Nat.le_of_lt less
  · exact Nat.le_of_eq equal

theorem reread_standard : ∀ table ∈ Workbook.standard.sheets, table.reread = table := by
  decide

theorem mem_names_saved (directory : String) {tables : List Table} (nodup : (tables.map (·.name)).Nodup)
    (some : ∀ table ∈ tables, table.name ≠ "") {name : String} :
    name ∈ (Workbook.ofTables ((sheetFiles ((withSheets place tables disk).namesIn place)).map
        (tableIn (withSheets place tables disk) directory))).names ↔
      name ∈ tables.map (·.name) ∨ ∃ file, (file, name) ∈ sheetFiles (disk.namesIn place) := by
  rw [names_loaded, List.mem_eraseDups, List.mem_map]
  constructor
  · rintro ⟨⟨file, _⟩, listed, rfl⟩
    rcases mem_sheetFiles.mp listed with ⟨there, holds⟩
    rcases (mem_namesIn_withSheets nodup).mp there with before | ⟨table, member, rfl⟩
    · exact .inr ⟨file, mem_sheetFiles.mpr ⟨before, holds⟩⟩
    · cases eq_of_sheetName?_fileName holds
      exact .inl (List.mem_map_of_mem member)
  · intro either
    rcases either with saved | ⟨file, listed⟩
    · rcases List.mem_map.mp saved with ⟨table, member, rfl⟩
      refine ⟨(fileName table.name, table.name), mem_sheetFiles.mpr ⟨?_, ?_⟩, rfl⟩
      · exact (mem_namesIn_withSheets nodup).mpr (.inr ⟨table, member, rfl⟩)
      · exact sheetName?_fileName (some table member)
    · rcases mem_sheetFiles.mp listed with ⟨before, holds⟩
      exact ⟨(file, name),
        mem_sheetFiles.mpr ⟨(mem_namesIn_withSheets nodup).mpr (.inl before), holds⟩, rfl⟩

theorem loaded_standard_iff (leads : disk.LeadsTo directory place)
    (writable : ∀ table ∈ Workbook.standard.sheets, Writable disk directory place table.name) :
    Workbook.ofTables
        ((sheetFiles ((withSheets place Workbook.standard.sheets disk).namesIn place)).map
          (tableIn (withSheets place Workbook.standard.sheets disk) directory)) = .standard ↔
      ∀ item ∈ sheetFiles (disk.namesIn place), item.2 ∈ knownNames := by
  have nodup : Workbook.standard.names.Nodup := by decide
  have some : ∀ table ∈ Workbook.standard.sheets, table.name ≠ "" := by decide
  constructor
  · rintro same ⟨file, sheet⟩ member
    have listed := (mem_names_saved directory nodup some).mpr (.inr ⟨file, member⟩)
    rw [same] at listed
    exact listed
  · intro known
    have same : ∀ {name : String}, name ∈ (Workbook.ofTables
        ((sheetFiles ((withSheets place Workbook.standard.sheets disk).namesIn place)).map
          (tableIn (withSheets place Workbook.standard.sheets disk) directory))).names ↔
        name ∈ knownNames := by
      intro name
      rw [mem_names_saved directory nodup some]
      exact ⟨fun either => either.elim id fun ⟨_, listed⟩ => known _ listed, .inl⟩
    refine Workbook.eq_of_sheets nodup ?_ fun table member => ?_
    · refine List.Perm.eq_of_pairwise ?_ (names_inOrder _ _ _)
        (knownNames_inOrder.imp Nat.le_of_lt) ?_
      · exact fun first second isFirst isSecond forth back =>
          rank_injective (same.mp isFirst) isSecond (Nat.le_antisymm forth back)
      · exact (List.perm_ext_iff_of_nodup (Workbook.nodup_ofTables _) nodup).mpr fun _ => same
    · rw [sheet?_saved leads writable nodup member (some table member), reread_standard table member]

/-- Nothing in the directory would stay when the new workbook is saved there: every file that holds
a sheet holds one that is written, and either it is the file that is written or it can be read, so
that the written one comes after it. -/
def HoldsKnown (disk : Disk) (directory : String) (place : Place) : Prop :=
  ∀ item ∈ sheetFiles (disk.namesIn place), item.2 ∈ knownNames ∧
    (item.1 = fileName item.2 ∨ ∃ table, loadItem disk directory item = .ok table)

theorem load_standard_iff (sound : disk.Sound) (leads : disk.LeadsTo directory place)
    (writable : ∀ table ∈ Workbook.standard.sheets, Writable disk directory place table.name) :
    load directory (withSheets place Workbook.standard.sheets disk) = .ok .standard ↔
      HoldsKnown disk directory place := by
  have nodup : Workbook.standard.names.Nodup := by decide
  rw [load_eq_ok_iff (leadsTo_withSheets leads writable),
    loads_withSheets_iff sound leads writable nodup, eq_comm (a := Workbook.standard),
    loaded_standard_iff leads writable]
  constructor
  · rintro ⟨loads, known⟩ ⟨file, sheet⟩ member
    refine ⟨known _ member, (loads _ member).imp_left ?_⟩
    rintro ⟨table, _, rfl⟩
    cases eq_of_sheetName?_fileName (mem_sheetFiles.mp member).2
    rfl
  · intro holds
    refine ⟨fun item member => ?_, fun item member => (holds item member).1⟩
    rcases holds item member with ⟨isKnown, written | loads⟩
    · have listed : item.2 ∈ Workbook.standard.names := isKnown
      rcases List.mem_map.mp listed with ⟨table, isTable, name⟩
      exact .inl ⟨table, isTable, name ▸ written⟩
    · exact .inr loads

theorem load_of_save_standard {made : Disk} (sound : disk.Sound)
    (ready : makeDirectories directory disk = (.ok (), made))
    (saved : save directory .standard disk = (.ok (), after)) :
    load directory after = .ok .standard ↔
      ∃ place, made.LeadsTo directory place ∧ HoldsKnown made directory place := by
  by_cases some : directory = ""
  · -- The files have been written, but no path of this name leads to their directory.
    constructor
    · intro loads
      rcases leadsTo_of_load loads with ⟨place, leads⟩
      exact absurd some leads.spelled.some
    · rintro ⟨place, leads, _⟩
      exact absurd some leads.spelled.some
  · rcases leadsTo_of_makeDirectories some ready with ⟨place, leads⟩
    rw [save_eq ready] at saved
    have named : ∀ table ∈ Workbook.standard.sheets, IsName (fileName table.name) :=
      List.forall_mem_map.mpr isName_known
    have writable := writable_of_forM leads named saved
    cases (forM_saveSheet leads writable).symm.trans saved
    rw [load_standard_iff (sound.makeDirectories ready) leads writable]
    constructor
    · exact fun holds => ⟨place, leads, holds⟩
    · rintro ⟨other, leadsToo, holds⟩
      cases leads.symm.trans leadsToo
      exact holds

theorem ready_of_save {workbook : Workbook}
    (saved : save directory workbook disk = (.ok (), after)) :
    ∃ made, makeDirectories directory disk = (.ok (), made) := by
  cases ran : makeDirectories directory disk with
  | mk result made =>
      cases result with
      | error fault => cases (Step.bind_error (Step.adapt_apply _ ran)).symm.trans saved
      | ok value => exact ⟨made, rfl⟩

end SheetDirectory

namespace WorkbookStore

variable {store : WorkbookStore} {before after : Disk}

/-- Nothing that the store holds would stay beside a new workbook: a spreadsheet file is replaced as
a whole, and a directory, once it is there, has no files of other sheets. -/
def Replaceable (before : Disk) : WorkbookStore → Prop
  | spreadsheet _ => True
  | directory path =>
      ∃ place, (Disk.makeDirectories path before).2.LeadsTo path place ∧
        SheetDirectory.HoldsKnown (Disk.makeDirectories path before).2 path place

theorem load_standard_iff (sound : before.Sound)
    (saved : store.save .standard before = (.ok (), after)) :
    store.load after = .ok .standard ↔ store.Replaceable before := by
  cases store with
  | spreadsheet path =>
      rcases SpreadsheetFile.load_of_save saved with ⟨book, written, _, loads⟩
      have again : (Book.ofWorkbook .standard).bind (·.workbook) = .ok .standard := by
        decide +kernel
      rw [written] at again
      exact ⟨fun _ => trivial, fun _ => loads.trans again⟩
  | directory path =>
      rcases SheetDirectory.ready_of_save saved with ⟨made, ready⟩
      rw [Replaceable, ready]
      exact SheetDirectory.load_of_save_standard sound ready saved

end WorkbookStore

end SheetPost
