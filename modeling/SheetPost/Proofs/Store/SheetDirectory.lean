import SheetPost.Proofs.Results
import SheetPost.Proofs.Step
import SheetPost.Proofs.Store.Reread
import SheetPost.Proofs.Store.SheetFiles
import SheetPost.Proofs.Workbook.Collection

namespace SheetPost

def Workbook.reread (workbook : Workbook) : Workbook :=
  ⟨workbook.sheets.map Table.reread⟩

theorem Workbook.names_reread (workbook : Workbook) : workbook.reread.names = workbook.names := by
  rw [reread, names, List.map_map]
  rfl

theorem Workbook.reread_of_asRead {workbook : Workbook}
    (asRead : ∀ table ∈ workbook.sheets, table.AsRead) : workbook.reread = workbook := by
  have same : workbook.sheets.map Table.reread = workbook.sheets :=
    (List.map_congr_left fun table member => (asRead table member).reread).trans (List.map_id _)
  rw [reread, same]

theorem Workbook.sheet?_reread (workbook : Workbook) (name : String) :
    workbook.reread.sheet? name = (workbook.sheet? name).map Table.reread :=
  List.find?_map

namespace SheetDirectory

open Disk

variable {disk : Disk} {directory path sheet file : String} {place : Place}

/-! ## Loading one sheet -/

theorem loadSheet_eq_ok_iff {table : Table} :
    loadSheet disk path sheet = .ok table ↔
      ∃ content records, disk.find path = .ok (.file content) ∧ recordsOf content = .ok records ∧
        table = ⟨sheet, records.map (·.map Cell.ofText)⟩ := by
  rw [loadSheet, Disk.read]
  cases disk.find path with
  | error fault => exact ⟨nofun, fun ⟨_, _, found, _⟩ => nomatch found⟩
  | ok entry =>
      cases entry with
      | directory => exact ⟨nofun, fun ⟨_, _, found, _⟩ => nomatch found⟩
      | file content =>
          change ((recordsOf content).mapError _).bind _ = _ ↔ _
          cases read : recordsOf content with
          | error error =>
              constructor
              · nofun
              · rintro ⟨_, _, ⟨⟩, readAs, _⟩
                cases read.symm.trans readAs
          | ok records =>
              constructor
              · rintro ⟨⟩
                exact ⟨content, records, rfl, read, rfl⟩
              · rintro ⟨_, _, ⟨⟩, readAs, rfl⟩
                cases read.symm.trans readAs
                rfl

theorem loadSheet_congr {other : Disk} (same : other.find path = disk.find path) :
    loadSheet other path sheet = loadSheet disk path sheet := by
  rw [loadSheet, loadSheet, Disk.read, Disk.read, same]

theorem loadSheet_contentOf {table : Table}
    (found : disk.find path = .ok (.file (contentOf table))) :
    loadSheet disk path table.name = .ok table.reread := by
  refine loadSheet_eq_ok_iff.mpr ⟨_, _, found, rfl, ?_⟩
  rw [Csv.recordsOfText_textOfRecords, Table.reread_eq]

/-! ## Loading a directory -/

def loadItem (disk : Disk) (directory : String) (item : String × String) :
    Except StoreError Table :=
  loadSheet disk (Path.join directory item.1) item.2

def tableIn (disk : Disk) (directory : String) (item : String × String) : Table :=
  (loadItem disk directory item).toOption.getD ⟨item.2, []⟩

theorem name_tableIn (disk : Disk) (directory : String) (item : String × String) :
    (tableIn disk directory item).name = item.2 := by
  rw [tableIn]
  cases loaded : loadItem disk directory item with
  | error error => rfl
  | ok table =>
      rcases loadSheet_eq_ok_iff.mp loaded with ⟨_, _, _, _, rfl⟩
      rfl

theorem tableIn_of_ok {item : String × String} {table : Table}
    (loaded : loadItem disk directory item = .ok table) :
    tableIn disk directory item = table := by
  rw [tableIn, loaded]
  rfl

theorem mapM_loadItem_eq_ok_iff {items : List (String × String)} {tables : List Table} :
    items.mapM (loadItem disk directory) = .ok tables ↔
      (∀ item ∈ items, ∃ table, loadItem disk directory item = .ok table) ∧
      tables = items.map (tableIn disk directory) := by
  have inTurn {loaded : List Table} (ran : items.mapM (loadItem disk directory) = .ok loaded) :
      loaded = items.map (tableIn disk directory) := by
    have same : loaded.map id = items.map (tableIn disk directory) :=
      map_of_mapM ran fun _ _ _ found => (tableIn_of_ok found).symm
    rwa [List.map_id] at same
  constructor
  · intro ran
    exact ⟨mapM_succeeds_iff.mp ⟨tables, ran⟩, inTurn ran⟩
  · rintro ⟨each, rfl⟩
    rcases mapM_succeeds_iff.mpr each with ⟨loaded, ran⟩
    rw [ran, inTurn ran]

theorem load_eq_ok_iff (leads : disk.LeadsTo directory place) {workbook : Workbook} :
    load directory disk = .ok workbook ↔
      (∀ item ∈ sheetFiles (disk.namesIn place), ∃ table,
        loadItem disk directory item = .ok table) ∧
      workbook = .ofTables ((sheetFiles (disk.namesIn place)).map (tableIn disk directory)) := by
  rw [load, leads.isDirectory, list_of_leadsTo leads]
  change Except.bind ((sheetFiles (disk.namesIn place)).mapM (loadItem disk directory))
    (fun tables => .ok (Workbook.ofTables tables)) = _ ↔ _
  cases read : (sheetFiles (disk.namesIn place)).mapM (loadItem disk directory) with
  | error error =>
      constructor
      · nofun
      · rintro ⟨loaded, _⟩
        cases read.symm.trans (mapM_loadItem_eq_ok_iff.mpr ⟨loaded, rfl⟩)
  | ok tables =>
      rcases mapM_loadItem_eq_ok_iff.mp read with ⟨loaded, rfl⟩
      constructor
      · rintro ⟨⟩
        exact ⟨loaded, rfl⟩
      · rintro ⟨_, rfl⟩
        rfl

theorem leadsTo_of_load {workbook : Workbook} (loaded : load directory disk = .ok workbook) :
    ∃ place, disk.LeadsTo directory place := by
  cases there : disk.isDirectory directory with
  | false =>
      rw [load, there] at loaded
      cases loaded
  | true => exact leadsTo_of_isDirectory there

theorem nodup_of_load {workbook : Workbook} (loaded : load directory disk = .ok workbook) :
    workbook.names.Nodup := by
  rcases leadsTo_of_load loaded with ⟨place, leads⟩
  rcases (load_eq_ok_iff leads).mp loaded with ⟨_, rfl⟩
  exact Workbook.nodup_ofTables _

theorem filled_of_recordsOf {content : Content} {records : List (List String)}
    (read : recordsOf content = .ok records) : ∀ record ∈ records, record ≠ [] := by
  intro record member
  cases content with
  | text value =>
      cases read
      exact Csv.ne_nil_of_mem_recordsOfText member
  | book value => cases read
  | bytes values =>
      cases found : Csv.recordsOfBytes? values with
      | none =>
          rw [recordsOf, found] at read
          cases read
      | some list =>
          rw [recordsOf, found] at read
          cases read
          exact Csv.ne_nil_of_mem_recordsOfBytes? found member

theorem asRead_of_load {workbook : Workbook} (loaded : load directory disk = .ok workbook)
    {table : Table} (member : table ∈ workbook.sheets)
    (unmarked : (table.get ⟨0⟩ 0).shown.toList.head? ≠ some '\uFEFF') : table.AsRead := by
  rcases leadsTo_of_load loaded with ⟨place, leads⟩
  rcases (load_eq_ok_iff leads).mp loaded with ⟨items, rfl⟩
  rcases List.mem_map.mp (Workbook.mem_of_mem_ofTables member) with ⟨item, isItem, rfl⟩
  rcases items item isItem with ⟨table, found⟩
  rw [tableIn_of_ok found] at unmarked ⊢
  rcases loadSheet_eq_ok_iff.mp found with ⟨content, records, _, read, rfl⟩
  exact Table.asRead_of_records (filled_of_recordsOf read) unmarked

/-! ## Saving -/

structure Writable (disk : Disk) (directory : String) (place : Place) (sheet : String) : Prop where
  named : IsName (fileName sheet)
  short : (Path.join directory (fileName sheet)).utf8ByteSize ≤ longestPath
  free : disk.entryAt? (place ++ [fileName sheet]) ≠ some .directory

def withSheet (place : Place) (disk : Disk) (table : Table) : Disk :=
  disk.put (place ++ [fileName table.name]) (.file (contentOf table))

def withSheets (place : Place) (tables : List Table) (disk : Disk) : Disk :=
  tables.foldl (withSheet place) disk

theorem withSheets_cons (place : Place) (table : Table) (tables : List Table) (disk : Disk) :
    withSheets place (table :: tables) disk =
      withSheets place tables (withSheet place disk table) :=
  rfl

theorem saveSheet_eq (directory : String) (table : Table) (disk : Disk) :
    saveSheet directory table disk =
      (ExceptT.mk (pure (onFile
        ("Failed to create sheet: " ++ Path.join directory (fileName table.name))
        (disk.write (Path.join directory (fileName table.name)) (contentOf table)))) >>= set :
        ExceptT StoreError (StateM Disk) Unit) disk :=
  (rfl)

theorem saveSheet_apply {table : Table} (leads : disk.LeadsTo directory place)
    (writable : Writable disk directory place table.name) :
    saveSheet directory table disk = (.ok (), withSheet place disk table) := by
  have written := write_join leads writable.named writable.short (contentOf table) writable.free
  rw [saveSheet_eq, written]
  rfl

theorem saveSheet_of_long (leads : disk.LeadsTo directory place) (table : Table)
    (flat : '/' ∉ table.name.toList) (long : longestName < (fileName table.name).utf8ByteSize) :
    ∃ error, saveSheet directory table disk = (.error error, disk) := by
  rcases write_join_of_long leads (notMem_fileName (by decide) flat) (fileName_ahead table.name)
    long (contentOf table) with ⟨fault, refused⟩
  refine ⟨.during ("Failed to create sheet: " ++ Path.join directory (fileName table.name))
    (.file fault), ?_⟩
  rw [saveSheet_eq, refused]
  rfl

theorem Writable.withSheet (writable : Writable disk directory place sheet) (table : Table) :
    Writable (withSheet place disk table) directory place sheet := by
  refine ⟨writable.named, writable.short, ?_⟩
  by_cases same : place ++ [fileName sheet] = place ++ [fileName table.name]
  · rw [same, SheetDirectory.withSheet, entryAt?_put_same _ _ (by simp)]
    nofun
  · rw [SheetDirectory.withSheet, entryAt?_put_other _ _ same]
    exact writable.free

theorem forM_saveSheet {tables : List Table} (leads : disk.LeadsTo directory place)
    (writable : ∀ table ∈ tables, Writable disk directory place table.name) :
    tables.forM (saveSheet directory) disk = (.ok (), withSheets place tables disk) := by
  induction tables generalizing disk with
  | nil => rfl
  | cons table tables induction =>
      rw [List.forall_mem_cons] at writable
      have first := saveSheet_apply leads writable.1
      have rest := induction (leads.put writable.1.free _)
        fun other member => (writable.2 other member).withSheet table
      exact (Step.bind_ok first).trans rest

theorem save_eq {made : Disk} (ready : makeDirectories directory disk = (.ok (), made))
    (workbook : Workbook) :
    save directory workbook disk = workbook.sheets.forM (saveSheet directory) made :=
  Step.bind_ok (Step.adapt_apply _ ready)

theorem save_apply {made : Disk} {workbook : Workbook}
    (ready : makeDirectories directory disk = (.ok (), made)) (leads : made.LeadsTo directory place)
    (writable : ∀ table ∈ workbook.sheets, Writable made directory place table.name) :
    save directory workbook disk = (.ok (), withSheets place workbook.sheets made) :=
  (save_eq ready workbook).trans (forM_saveSheet leads writable)

/-! ## The disk after saving -/

section Saved

variable {tables : List Table}

theorem leadsTo_withSheets (leads : disk.LeadsTo directory place)
    (writable : ∀ table ∈ tables, Writable disk directory place table.name) :
    (withSheets place tables disk).LeadsTo directory place := by
  induction tables generalizing disk with
  | nil => exact leads
  | cons table tables induction =>
      rw [List.forall_mem_cons] at writable
      exact induction (leads.put writable.1.free _)
        fun other member => (writable.2 other member).withSheet table

theorem sound_withSheets (sound : disk.Sound) (named : ∀ name ∈ place, IsName name)
    (writable : ∀ table ∈ tables, IsName (fileName table.name)) :
    (withSheets place tables disk).Sound := by
  induction tables generalizing disk with
  | nil => exact sound
  | cons table tables induction =>
      rw [List.forall_mem_cons] at writable
      refine induction (sound.put ?_ _) writable.2
      intro name member
      rcases List.mem_append.mp member with above | last
      · exact named name above
      · exact List.mem_singleton.mp last ▸ writable.1

theorem entryAt?_withSheets_other {spot : Place}
    (apart : ∀ table ∈ tables, spot ≠ place ++ [fileName table.name]) :
    (withSheets place tables disk).entryAt? spot = disk.entryAt? spot := by
  induction tables generalizing disk with
  | nil => rfl
  | cons table tables induction =>
      rw [List.forall_mem_cons] at apart
      rw [withSheets_cons, induction apart.2, withSheet, entryAt?_put_other _ _ apart.1]

theorem entryAt?_withSheets (nodup : (tables.map (·.name)).Nodup) {table : Table}
    (member : table ∈ tables) :
    (withSheets place tables disk).entryAt? (place ++ [fileName table.name]) =
      some (.file (contentOf table)) := by
  induction tables generalizing disk with
  | nil => cases member
  | cons head tables induction =>
      have parts := List.nodup_cons.mp nodup
      rw [withSheets_cons]
      rcases List.mem_cons.mp member with rfl | later
      · rw [entryAt?_withSheets_other, withSheet, entryAt?_put_same _ _ (by simp)]
        intro other isOther same
        have name : table.name = other.name :=
          fileName_injective (List.singleton_inj.mp (List.append_cancel_left same))
        exact parts.1 (List.mem_map.mpr ⟨other, isOther, name.symm⟩)
      · exact induction parts.2 later

theorem mem_namesIn_withSheets (nodup : (tables.map (·.name)).Nodup) :
    file ∈ (withSheets place tables disk).namesIn place ↔
      file ∈ disk.namesIn place ∨ ∃ table ∈ tables, file = fileName table.name := by
  rw [mem_namesIn, mem_namesIn]
  by_cases written : ∃ table ∈ tables, file = fileName table.name
  · rcases written with ⟨table, member, rfl⟩
    rw [entryAt?_withSheets nodup member]
    exact ⟨fun _ => .inr ⟨table, member, rfl⟩, fun _ => nofun⟩
  · rw [entryAt?_withSheets_other]
    · exact ⟨.inl, fun either => either.resolve_right written⟩
    · intro table member same
      exact written ⟨table, member, List.singleton_inj.mp (List.append_cancel_left same)⟩

end Saved

/-! ## Loading it again -/

section Again

variable {tables : List Table}

theorem loadItem_saved (leads : disk.LeadsTo directory place)
    (writable : ∀ table ∈ tables, Writable disk directory place table.name)
    (nodup : (tables.map (·.name)).Nodup) {table : Table} (member : table ∈ tables) :
    loadItem (withSheets place tables disk) directory (fileName table.name, table.name) =
      .ok table.reread := by
  have named := (writable table member).named
  refine loadSheet_contentOf ?_
  rw [find_join (leadsTo_withSheets leads writable) named (writable table member).short,
    lookUp_of_isName _ _ named, entryAt?_withSheets nodup member]

theorem find_withSheets (leads : disk.LeadsTo directory place)
    (writable : ∀ table ∈ tables, Writable disk directory place table.name) (named : IsName file)
    (apart : ∀ table ∈ tables, file ≠ fileName table.name)
    (short : (Path.join directory file).utf8ByteSize ≤ longestPath) :
    (withSheets place tables disk).find (Path.join directory file) =
      disk.find (Path.join directory file) := by
  rw [find_join (leadsTo_withSheets leads writable) named short, find_join leads named short,
    lookUp_of_isName _ _ named, lookUp_of_isName _ _ named, entryAt?_withSheets_other]
  exact fun table member same =>
    apart table member (List.singleton_inj.mp (List.append_cancel_left same))

theorem loadItem_kept_iff (leads : disk.LeadsTo directory place)
    (writable : ∀ table ∈ tables, Writable disk directory place table.name)
    {item : String × String} (named : IsName item.1)
    (apart : ∀ table ∈ tables, item.1 ≠ fileName table.name) {table : Table} :
    loadItem (withSheets place tables disk) directory item = .ok table ↔
      loadItem disk directory item = .ok table := by
  have kept := find_withSheets leads writable named apart
  constructor
  · intro loaded
    rcases loadSheet_eq_ok_iff.mp loaded with ⟨_, _, found, _⟩
    exact (loadSheet_congr (kept (spelled_of_find found).short)).symm.trans loaded
  · intro loaded
    rcases loadSheet_eq_ok_iff.mp loaded with ⟨_, _, found, _⟩
    exact (loadSheet_congr (kept (spelled_of_find found).short)).trans loaded

theorem isName_of_mem_namesIn (sound : disk.Sound) (member : file ∈ disk.namesIn place) :
    IsName file := by
  rcases Option.ne_none_iff_exists'.mp (mem_namesIn.mp member) with ⟨entry, there⟩
  exact sound.names_of_entryAt? there file (List.mem_append_right _ List.mem_cons_self)

theorem loads_withSheets_iff (sound : disk.Sound) (leads : disk.LeadsTo directory place)
    (writable : ∀ table ∈ tables, Writable disk directory place table.name)
    (nodup : (tables.map (·.name)).Nodup) :
    (∀ item ∈ sheetFiles ((withSheets place tables disk).namesIn place),
        ∃ table, loadItem (withSheets place tables disk) directory item = .ok table) ↔
      ∀ item ∈ sheetFiles (disk.namesIn place), (∃ table ∈ tables, item.1 = fileName table.name) ∨
        ∃ table, loadItem disk directory item = .ok table := by
  constructor
  · rintro loaded ⟨file, sheet⟩ member
    rcases mem_sheetFiles.mp member with ⟨before, holds⟩
    by_cases written : ∃ table ∈ tables, file = fileName table.name
    · exact .inl written
    · have there := (mem_namesIn_withSheets nodup).mpr (.inl before)
      rcases loaded (file, sheet) (mem_sheetFiles.mpr ⟨there, holds⟩) with ⟨table, found⟩
      exact .inr ⟨table, (loadItem_kept_iff leads writable (isName_of_mem_namesIn sound before)
        (fun other isOther same => written ⟨other, isOther, same⟩)).mp found⟩
  · rintro others ⟨file, sheet⟩ member
    rcases mem_sheetFiles.mp member with ⟨there, holds⟩
    by_cases written : ∃ table ∈ tables, file = fileName table.name
    · rcases written with ⟨table, isTable, rfl⟩
      cases eq_of_sheetName?_fileName holds
      exact ⟨_, loadItem_saved leads writable nodup isTable⟩
    · have before := ((mem_namesIn_withSheets nodup).mp there).resolve_right written
      rcases (others (file, sheet) (mem_sheetFiles.mpr ⟨before, holds⟩)).resolve_left written with
        ⟨table, loaded⟩
      exact ⟨table, (loadItem_kept_iff leads writable (isName_of_mem_namesIn sound before)
        (fun other isOther same => written ⟨other, isOther, same⟩)).mpr loaded⟩

theorem load_withSheets (sound : disk.Sound) (leads : disk.LeadsTo directory place)
    (writable : ∀ table ∈ tables, Writable disk directory place table.name)
    (nodup : (tables.map (·.name)).Nodup)
    (others : ∀ item ∈ sheetFiles (disk.namesIn place),
      ∃ table, loadItem disk directory item = .ok table) :
    load directory (withSheets place tables disk) =
      .ok (.ofTables ((sheetFiles ((withSheets place tables disk).namesIn place)).map
        (tableIn (withSheets place tables disk) directory))) := by
  refine (load_eq_ok_iff (leadsTo_withSheets leads writable)).mpr ⟨?_, rfl⟩
  exact (loads_withSheets_iff sound leads writable nodup).mpr fun item member =>
    .inr (others item member)

theorem names_loaded (disk : Disk) (directory : String) (items : List (String × String)) :
    (Workbook.ofTables (items.map (tableIn disk directory))).names =
      (items.map (·.2)).eraseDups := by
  rw [Workbook.names_ofTables, List.map_map]
  exact congrArg List.eraseDups (List.map_congr_left fun item _ => name_tableIn _ _ item)

/-- What is loaded for a sheet is read from its source. -/
theorem sheet?_loaded (disk : Disk) (directory : String) (files : List String) (sheet : String) :
    (Workbook.ofTables ((sheetFiles files).map (tableIn disk directory))).sheet? sheet =
      (source? files sheet).map fun file => tableIn disk directory (file, sheet) := by
  have same : (fun table : Table => table.name == sheet) ∘ tableIn disk directory =
      fun item => item.2 == sheet :=
    funext fun item => by rw [Function.comp_apply, name_tableIn]
  rw [Workbook.sheet?_ofTables, ← List.map_reverse, List.find?_map, same, source?, Option.map_map]
  cases found : (sheetFiles files).reverse.find? (·.2 == sheet) with
  | none => rfl
  | some item =>
      have named : item.2 = sheet := by simpa using List.find?_some found
      subst named
      rfl

theorem sheet?_saved (leads : disk.LeadsTo directory place)
    (writable : ∀ table ∈ tables, Writable disk directory place table.name)
    (nodup : (tables.map (·.name)).Nodup) {table : Table} (member : table ∈ tables)
    (some : table.name ≠ "") :
    (Workbook.ofTables ((sheetFiles ((withSheets place tables disk).namesIn place)).map
      (tableIn (withSheets place tables disk) directory))).sheet? table.name =
        .some table.reread := by
  have written : fileName table.name ∈ (withSheets place tables disk).namesIn place :=
    (mem_namesIn_withSheets nodup).mpr (.inr ⟨table, member, rfl⟩)
  rw [sheet?_loaded, source?_of_fileName some written]
  exact congrArg Option.some (tableIn_of_ok (loadItem_saved leads writable nodup member))

end Again

/-! ## Saving over the same sheets -/

section Over

variable {loaded : Workbook}

theorem writable_of_loaded (sound : disk.Sound) (leads : disk.LeadsTo directory place)
    (items : ∀ item ∈ sheetFiles (disk.namesIn place),
      ∃ table, loadItem disk directory item = .ok table)
    (holds : (file, sheet) ∈ sheetFiles (disk.namesIn place)) :
    Writable disk directory place sheet := by
  rcases mem_sheetFiles.mp holds with ⟨there, named⟩
  have isName := isName_fileName_of_sheetName? (isName_of_mem_namesIn sound there) named
  have short : (Path.join directory (fileName sheet)).utf8ByteSize ≤ longestPath := by
    rcases items _ holds with ⟨table, ok⟩
    rcases loadSheet_eq_ok_iff.mp ok with ⟨_, _, found, _⟩
    have size := (spelled_of_find found).short
    rw [Path.utf8ByteSize_join (isName_of_mem_namesIn sound there).flat leads.spelled.some,
      (of_sheetName? named).1] at size
    rw [Path.utf8ByteSize_join isName.flat leads.spelled.some]
    exact size
  refine ⟨isName, short, fun directoryThere => ?_⟩
  -- A directory under this name would have been opened as a file.
  have listed : (fileName sheet, sheet) ∈ sheetFiles (disk.namesIn place) := by
    refine mem_sheetFiles.mpr ⟨mem_namesIn.mpr ?_, ?_⟩
    · rw [directoryThere]
      nofun
    · exact sheetName?_fileName (sheetName?_eq_some_iff.mp named).1
  rcases items _ listed with ⟨table, ok⟩
  rcases loadSheet_eq_ok_iff.mp ok with ⟨content, _, found, _⟩
  rw [find_join leads isName short, lookUp_of_isName _ _ isName, directoryThere] at found
  cases found

theorem names_withSheets {tables : List Table} (sound : disk.Sound)
    (soundAfter : (withSheets place tables disk).Sound) (nodup : (tables.map (·.name)).Nodup)
    (known : ∀ table ∈ tables, ∃ file, (file, table.name) ∈ sheetFiles (disk.namesIn place)) :
    ((sheetFiles ((withSheets place tables disk).namesIn place)).map (·.2)).eraseDups =
      ((sheetFiles (disk.namesIn place)).map (·.2)).eraseDups := by
  have grown : ∀ file ∈ disk.namesIn place, file ∈ (withSheets place tables disk).namesIn place :=
    fun file member => (mem_namesIn_withSheets nodup).mpr (.inl member)
  rw [← sheetFiles_filter (soundAfter.namesIn_nodup place) (sound.namesIn_nodup place) grown,
    eraseDups_map_filter]
  rintro before ⟨file, sheet⟩ after split new
  have member : (file, sheet) ∈ sheetFiles ((withSheets place tables disk).namesIn place) :=
    split ▸ List.mem_append_right _ List.mem_cons_self
  rcases mem_sheetFiles.mp member with ⟨there, holds⟩
  have absent : file ∉ disk.namesIn place := of_decide_eq_false new
  rcases ((mem_namesIn_withSheets nodup).mp there).resolve_left absent with ⟨table, isTable, rfl⟩
  cases eq_of_sheetName?_fileName holds
  rcases known table isTable with ⟨earlier, isEarlier⟩
  rcases mem_sheetFiles.mp isEarlier with ⟨thereEarlier, holdsEarlier⟩
  have again : (earlier, table.name) ∈ sheetFiles ((withSheets place tables disk).namesIn place) :=
    mem_sheetFiles.mpr ⟨grown _ thereEarlier, holdsEarlier⟩
  have different : earlier ≠ fileName table.name := fun same => absent (same ▸ thereEarlier)
  rw [split, List.mem_append, List.mem_cons] at again
  rcases again with isBefore | same | isAfter
  · exact List.mem_map.mpr ⟨_, isBefore, rfl⟩
  · exact absurd (congrArg (·.1) same) different
  · have ordered := sheetFiles_inOrder ((withSheets place tables disk).namesIn place)
    rw [split, List.pairwise_append, List.pairwise_cons] at ordered
    rcases ordered.2.1.1 _ isAfter with less | ⟨_, notBefore⟩
    · exact absurd less (Nat.lt_irrefl _)
    · exact absurd (String.le_antisymm (of_sheetName? holdsEarlier).2 notBefore) different

theorem mem_names_loaded (leads : disk.LeadsTo directory place)
    (loads : load directory disk = .ok loaded) {name : String} :
    name ∈ loaded.names ↔ ∃ file, (file, name) ∈ sheetFiles (disk.namesIn place) := by
  rcases (load_eq_ok_iff leads).mp loads with ⟨_, rfl⟩
  rw [names_loaded, List.mem_eraseDups, List.mem_map]
  constructor
  · rintro ⟨⟨file, _⟩, listed, rfl⟩
    exact ⟨file, listed⟩
  · rintro ⟨file, listed⟩
    exact ⟨_, listed, rfl⟩

theorem loadSheet_of_source (leads : disk.LeadsTo directory place)
    (loads : load directory disk = .ok loaded) {name : String} (listed : name ∈ loaded.names) :
    ∃ file table, source? (disk.namesIn place) name = some file ∧
      loadSheet disk (Path.join directory file) name = .ok table ∧
      loaded.sheet? name = some table := by
  rcases (mem_names_loaded leads loads).mp listed with ⟨_, isItem⟩
  rcases exists_source? isItem with ⟨file, isSource⟩
  rcases (load_eq_ok_iff leads).mp loads with ⟨items, rfl⟩
  rcases items _ (mem_of_source? isSource).1 with ⟨table, found⟩
  refine ⟨file, table, isSource, found, ?_⟩
  rw [sheet?_loaded, isSource, Option.map_some, tableIn_of_ok found]

theorem save_over_apply {workbook : Workbook} (sound : disk.Sound)
    (leads : disk.LeadsTo directory place) (loads : load directory disk = .ok loaded)
    (among : ∀ name ∈ workbook.names, name ∈ loaded.names) :
    (∀ table ∈ workbook.sheets, Writable disk directory place table.name) ∧
      save directory workbook disk = (.ok (), withSheets place workbook.sheets disk) ∧
      (withSheets place workbook.sheets disk).Sound := by
  have writable : ∀ table ∈ workbook.sheets, Writable disk directory place table.name := by
    intro table member
    have known := among table.name (List.mem_map_of_mem member)
    rcases (mem_names_loaded leads loads).mp known with ⟨file, listed⟩
    exact writable_of_loaded sound leads ((load_eq_ok_iff leads).mp loads).1 listed
  refine ⟨writable, save_apply (makeDirectories_of_leadsTo leads) leads writable, ?_⟩
  exact sound_withSheets sound (sound.names_of_entryAt? leads.entry)
    fun table member => (writable table member).named

/-- Saving over a directory that holds the same sheets succeeds, and loading gives what reading back
makes of them. -/
theorem save_over {workbook : Workbook} (sound : disk.Sound)
    (before : load directory disk = .ok loaded) (same : workbook.names = loaded.names) :
    ∃ after, save directory workbook disk = (.ok (), after) ∧ after.Sound ∧
      load directory after = .ok workbook.reread := by
  rcases leadsTo_of_load before with ⟨place, leads⟩
  rcases save_over_apply sound leads before (fun name => (same ▸ ·)) with
    ⟨writable, saved, soundAfter⟩
  have nodup : workbook.names.Nodup := same ▸ nodup_of_load before
  have known : ∀ table ∈ workbook.sheets,
      ∃ file, (file, table.name) ∈ sheetFiles (disk.namesIn place) := fun table member =>
    (mem_names_loaded leads before).mp (same ▸ List.mem_map_of_mem member)
  rcases (load_eq_ok_iff leads).mp before with ⟨items, rfl⟩
  refine ⟨_, saved, soundAfter, ?_⟩
  rw [load_withSheets sound leads writable nodup items]
  refine congrArg Except.ok (Workbook.eq_of_sheets (workbook.names_reread ▸ nodup) ?_ ?_)
  · rw [names_loaded, names_withSheets sound soundAfter nodup known, Workbook.names_reread, same,
      names_loaded]
  · intro table member
    rcases List.mem_map.mp member with ⟨original, isOriginal, rfl⟩
    rcases known original isOriginal with ⟨file, listed⟩
    have some := (sheetName?_eq_some_iff.mp (mem_sheetFiles.mp listed).2).1
    exact sheet?_saved leads writable nodup isOriginal some

end Over

end SheetDirectory

end SheetPost
