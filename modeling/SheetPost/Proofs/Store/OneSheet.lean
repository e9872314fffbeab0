import SheetPost.Proofs.Store.SheetDirectory

namespace SheetPost.SheetDirectory

open Disk

variable {disk : Disk} {directory sheet : String} {place : Place} {loaded : Workbook}

/-! ## A new sheet -/

theorem saveSheet_of_long_path {directory : String} (table : Table)
    (long : longestPath < (Path.join directory (fileName table.name)).utf8ByteSize) :
    ∃ error, ∀ disk, saveSheet directory table disk = (.error error, disk) := by
  rcases approach_of_long long with ⟨fault, refused⟩
  refine ⟨.during ("Failed to create sheet: " ++ Path.join directory (fileName table.name))
    (.file fault), fun disk => ?_⟩
  rw [saveSheet_eq, Disk.write, refused]
  rfl

theorem forM_concat_saveSheet {tables : List Table} (table : Table) {error : StoreError}
    (leads : disk.LeadsTo directory place)
    (writable : ∀ table ∈ tables, Writable disk directory place table.name)
    (refused : ∀ disk, saveSheet directory table disk = (.error error, disk)) :
    (tables ++ [table]).forM (saveSheet directory) disk =
      (.error error, withSheets place tables disk) := by
  have parts : (tables ++ [table]).forM (saveSheet directory) =
      tables.forM (saveSheet directory) >>= fun _ => [table].forM (saveSheet directory) :=
    List.forM_append
  rw [parts, Step.bind_ok (forM_saveSheet leads writable)]
  exact Step.bind_error (refused _)

theorem entryAt?_of_notMem (leads : disk.LeadsTo directory place)
    (loads : load directory disk = .ok loaded) (some : sheet ≠ "") (new : sheet ∉ loaded.names) :
    disk.entryAt? (place ++ [fileName sheet]) = none := by
  by_contra there
  refine new ((mem_names_loaded leads loads).mpr ⟨fileName sheet, ?_⟩)
  exact mem_sheetFiles.mpr ⟨mem_namesIn.mpr there, sheetName?_fileName some⟩

theorem mem_names_withSheets {tables : List Table} {after : Workbook}
    (leads : disk.LeadsTo directory place) (loads : load directory disk = .ok loaded)
    (leadsAfter : (withSheets place tables disk).LeadsTo directory place)
    (loadsAfter : load directory (withSheets place tables disk) = .ok after)
    (nodup : (tables.map (·.name)).Nodup) {name : String} (listed : name ∈ after.names) :
    name ∈ loaded.names ∨ name ∈ tables.map (·.name) := by
  rcases (mem_names_loaded leadsAfter loadsAfter).mp listed with ⟨file, isItem⟩
  rcases mem_sheetFiles.mp isItem with ⟨there, holds⟩
  rcases (mem_namesIn_withSheets nodup).mp there with before | ⟨table, member, rfl⟩
  · exact .inl ((mem_names_loaded leads loads).mpr ⟨file, mem_sheetFiles.mpr ⟨before, holds⟩⟩)
  · rw [eq_of_sheetName?_fileName holds]
    exact .inr (List.mem_map_of_mem member)

/-! ## Saving with one sheet put in -/

/-- What is loaded after a workbook was saved into which a table had been put. -/
inductive Put {ε : Type} (loaded : Workbook) (table : Table) : Except ε Unit → Workbook → Prop
  | done {settled : Workbook} (there : settled.sheet? table.name = some table.reread)
      (others : ∀ name ≠ table.name, settled.sheet? name = loaded.sheet? name) :
      Put loaded table (.ok ()) settled
  | refused {error : ε} (new : table.name ∉ loaded.names) : Put loaded table (.error error) loaded

theorem Put.mapError {ε δ : Type} {table : Table} {result : Except ε Unit} {settled : Workbook}
    (put : Put loaded table result settled) (wrap : ε → δ) :
    Put loaded table (result.mapError wrap) settled := by
  cases put with
  | done there others => exact .done there others
  | refused new => exact .refused new

variable {table : Table}

theorem save_known (sound : disk.Sound) (loads : load directory disk = .ok loaded)
    (asRead : ∀ other ∈ loaded.sheets, other.AsRead) (known : table.name ∈ loaded.names) :
    ∃ result after settled, save directory (loaded.insert table) disk = (result, after) ∧
      after.Sound ∧ load directory after = .ok settled ∧ Put loaded table result settled := by
  have names : (loaded.insert table).names = loaded.names := by
    rw [Workbook.names_insert, if_pos known]
  rcases save_over sound loads names with ⟨after, saved, soundAfter, again⟩
  refine ⟨_, after, _, saved, soundAfter, again, .done ?_ fun name different => ?_⟩
  · rw [Workbook.sheet?_reread, Workbook.sheet?_insert_same]
    rfl
  · rw [Workbook.sheet?_reread, Workbook.sheet?_insert_other _ _ different,
      ← Workbook.sheet?_reread, Workbook.reread_of_asRead asRead]

theorem writable_insert (sound : disk.Sound) (leads : disk.LeadsTo directory place)
    (loads : load directory disk = .ok loaded) (named : IsName (fileName table.name))
    (some : table.name ≠ "") (new : table.name ∉ loaded.names)
    (short : (Path.join directory (fileName table.name)).utf8ByteSize ≤ longestPath) :
    ∀ other ∈ loaded.sheets ++ [table], Writable disk directory place other.name := by
  rcases save_over_apply sound leads loads (fun _ => id) with ⟨writable, _, _⟩
  intro other member
  rcases List.mem_append.mp member with earlier | last
  · exact writable other earlier
  · cases List.mem_singleton.mp last
    refine ⟨named, short, ?_⟩
    rw [entryAt?_of_notMem leads loads some new]
    nofun

theorem save_new_of_short (sound : disk.Sound) (leads : disk.LeadsTo directory place)
    (loads : load directory disk = .ok loaded) (asRead : ∀ other ∈ loaded.sheets, other.AsRead)
    (named : IsName (fileName table.name)) (some : table.name ≠ "")
    (new : table.name ∉ loaded.names)
    (short : (Path.join directory (fileName table.name)).utf8ByteSize ≤ longestPath) :
    ∃ result after settled, save directory (loaded.insert table) disk = (result, after) ∧
      after.Sound ∧ load directory after = .ok settled ∧ Put loaded table result settled := by
  have sheets : loaded.insert table = ⟨loaded.sheets ++ [table]⟩ := Workbook.insert_of_notMem new
  have nodup := Workbook.nodup_insert (nodup_of_load loads) table
  rw [sheets] at nodup ⊢
  have all := writable_insert sound leads loads named some new short
  have soundAfter : (withSheets place (loaded.sheets ++ [table]) disk).Sound :=
    sound_withSheets sound (sound.names_of_entryAt? leads.entry)
      fun other member => (all other member).named
  have again := load_withSheets sound leads all nodup ((load_eq_ok_iff leads).mp loads).1
  refine ⟨_, _, _, save_apply (makeDirectories_of_leadsTo leads) leads all, soundAfter, again,
    .done ?_ fun name different => ?_⟩
  · exact sheet?_saved leads all nodup (List.mem_append_right _ List.mem_cons_self) some
  · by_cases listed : name ∈ loaded.names
    · rcases Workbook.mem_names.mp listed with ⟨other, found⟩
      rcases Workbook.mem_of_sheet? found with ⟨member, rfl⟩
      rcases (mem_names_loaded leads loads).mp listed with ⟨_, isItem⟩
      have visible := (sheetName?_eq_some_iff.mp (mem_sheetFiles.mp isItem).2).1
      rw [sheet?_saved leads all nodup (List.mem_append_left _ member) visible, found,
        (asRead other member).reread]
    · rw [Workbook.sheet?_eq_none_iff.mpr listed, Workbook.sheet?_eq_none_iff]
      intro now
      have either := mem_names_withSheets leads loads (leadsTo_withSheets leads all) again nodup now
      rw [List.map_append, List.mem_append] at either
      rcases either with earlier | earlier | last
      · exact listed earlier
      · exact listed earlier
      · exact different (List.mem_singleton.mp last)

theorem save_new_of_long (sound : disk.Sound) (leads : disk.LeadsTo directory place)
    (loads : load directory disk = .ok loaded) (asRead : ∀ other ∈ loaded.sheets, other.AsRead)
    (new : table.name ∉ loaded.names)
    (long : longestPath < (Path.join directory (fileName table.name)).utf8ByteSize) :
    ∃ result after settled, save directory (loaded.insert table) disk = (result, after) ∧
      after.Sound ∧ load directory after = .ok settled ∧ Put loaded table result settled := by
  rcases save_over_apply sound leads loads (fun _ => id) with ⟨writable, saved, _⟩
  rcases save_over sound loads rfl with ⟨after, savedAgain, soundAfter, again⟩
  cases saved.symm.trans savedAgain
  rw [Workbook.reread_of_asRead asRead] at again
  rcases saveSheet_of_long_path table long with ⟨error, refused⟩
  rw [Workbook.insert_of_notMem new, save_eq (makeDirectories_of_leadsTo leads),
    forM_concat_saveSheet table leads writable refused]
  exact ⟨_, _, loaded, rfl, soundAfter, again, .refused new⟩

/-- A directory that was loaded keeps all other sheets when one is put in, whether saving gets
through or not. -/
theorem save_insert (sound : disk.Sound) (loads : load directory disk = .ok loaded)
    (asRead : ∀ other ∈ loaded.sheets, other.AsRead) (named : IsName (fileName table.name))
    (some : table.name ≠ "") :
    ∃ result after settled, save directory (loaded.insert table) disk = (result, after) ∧
      after.Sound ∧ load directory after = .ok settled ∧ Put loaded table result settled := by
  by_cases known : table.name ∈ loaded.names
  · exact save_known sound loads asRead known
  · rcases leadsTo_of_load loads with ⟨place, leads⟩
    rcases Nat.lt_or_ge longestPath (Path.join directory (fileName table.name)).utf8ByteSize
      with long | short
    · exact save_new_of_long sound leads loads asRead known long
    · exact save_new_of_short sound leads loads asRead named some known short

theorem save_insert_result (directory : String) (named : IsName (fileName table.name))
    (some : table.name ≠ "") :
    ∃ error, ∀ {disk loaded}, disk.Sound → load directory disk = .ok loaded →
      (save directory (loaded.insert table) disk).1 =
        if longestPath < (Path.join directory (fileName table.name)).utf8ByteSize ∧
          table.name ∉ loaded.names then .error error else .ok () := by
  have refusal : ∃ error, longestPath < (Path.join directory (fileName table.name)).utf8ByteSize →
      ∀ disk, saveSheet directory table disk = (.error error, disk) := by
    by_cases long : longestPath < (Path.join directory (fileName table.name)).utf8ByteSize
    · exact (saveSheet_of_long_path table long).imp fun _ refused _ => refused
    · exact ⟨.said "", fun isLong => absurd isLong long⟩
  rcases refusal with ⟨error, refused⟩
  refine ⟨error, fun {disk loaded} sound loads => ?_⟩
  rcases leadsTo_of_load loads with ⟨place, leads⟩
  have ready := makeDirectories_of_leadsTo leads
  by_cases known : table.name ∈ loaded.names
  · have names : (loaded.insert table).names = loaded.names := by
      rw [Workbook.names_insert, if_pos known]
    rcases save_over sound loads names with ⟨after, saved, _⟩
    rw [saved, if_neg fun both => both.2 known]
  · rw [Workbook.insert_of_notMem known]
    rcases Nat.lt_or_ge longestPath (Path.join directory (fileName table.name)).utf8ByteSize
      with long | short
    · rcases save_over_apply sound leads loads (fun _ => id) with ⟨writable, _, _⟩
      rw [if_pos ⟨long, known⟩, save_eq ready,
        forM_concat_saveSheet table leads writable (refused long)]
    · have all := writable_insert sound leads loads named some known short
      rw [if_neg fun both => Nat.not_lt.mpr short both.1, save_apply ready leads all]

end SheetPost.SheetDirectory
