import SheetPost.Proofs.Store.SheetDirectory

namespace SheetPost

namespace SheetDirectory

open Disk

variable {disk : Disk} {directory : String} {place : Place}

def knownNames : List String :=
  Schema.all.map (·.name)

structure Fits (directory sheet : String) : Prop where
  some : sheet ≠ ""
  flat : '/' ∉ sheet.toList
  whole : '\x00' ∉ sheet.toList
  shortName : (fileName sheet).utf8ByteSize ≤ longestName
  shortPath : (Path.join directory (fileName sheet)).utf8ByteSize ≤ longestPath

/-! ## The order of the sheets -/

theorem rank_lt_iff {sheet : String} : rank sheet < Schema.all.length ↔ sheet ∈ knownNames := by
  rw [rank, List.findIdx_lt_length, knownNames, List.mem_map]
  simp only [beq_iff_eq]

theorem rank_of_notMem {sheet : String} (unknown : sheet ∉ knownNames) :
    rank sheet = Schema.all.length :=
  Nat.le_antisymm List.findIdx_le_length (Nat.not_lt.mp fun less => unknown (rank_lt_iff.mp less))

/-- The order of loading, for sheets that have one file each. -/
def SheetBefore (first second : String) : Prop :=
  LoadedBefore (fileName first, first) (fileName second, second)

theorem sheetBefore_antisymm {first second : String} (forth : SheetBefore first second)
    (back : SheetBefore second first) : first = second :=
  fileName_injective (loadedBefore_antisymm forth back)

theorem knownNames_inOrder : knownNames.Pairwise fun first second => rank first < rank second := by
  decide

/-- Names in loading order are the known ones that are there, in their own order, and then the
others in the order of their files. -/
theorem eq_append_of_inOrder {names : List String} (nodup : names.Nodup)
    (ordered : names.Pairwise SheetBefore) :
    ∃ others, names = knownNames.filter (· ∈ names) ++ others ∧
      (∀ name ∈ others, name ∉ knownNames) ∧
      others.Pairwise fun first second => fileName first < fileName second := by
  have unknown : ∀ name ∈ names.filter (· ∉ knownNames), name ∉ knownNames :=
    fun name member => of_decide_eq_true (List.mem_filter.mp member).2
  refine ⟨names.filter (· ∉ knownNames), ?_, unknown, ?_⟩
  · refine List.Perm.eq_of_pairwise (fun _ _ _ _ => sheetBefore_antisymm) ordered ?_ ?_
    · refine List.pairwise_append.mpr ⟨?_, ordered.filter _, ?_⟩
      · exact (knownNames_inOrder.filter _).imp .inl
      · intro first isKnown second isOther
        refine .inl (Nat.lt_of_lt_of_eq (rank_lt_iff.mpr (List.mem_filter.mp isKnown).1) ?_)
        exact (rank_of_notMem (unknown second isOther)).symm
    · have nodupParts : (knownNames.filter (· ∈ names) ++ names.filter (· ∉ knownNames)).Nodup := by
        refine List.nodup_append.mpr ⟨.filter _ (by decide), nodup.filter _, ?_⟩
        rintro name isKnown _ isOther rfl
        exact unknown name isOther (List.mem_filter.mp isKnown).1
      refine (List.perm_ext_iff_of_nodup nodup nodupParts).mpr fun name => ?_
      simp only [List.mem_append, List.mem_filter, decide_eq_true_eq]
      by_cases isKnown : name ∈ knownNames <;> simp [isKnown]
  · refine ((ordered.filter _).and (nodup.filter _)).imp_of_mem ?_
    rintro first second isFirst isSecond ⟨before, different⟩
    have ranks : rank first = rank second :=
      (rank_of_notMem (unknown first isFirst)).trans (rank_of_notMem (unknown second isSecond)).symm
    have notAfter : fileName first ≤ fileName second := by
      rcases before with less | ⟨_, notAfter⟩
      · exact absurd ranks (Nat.ne_of_lt less)
      · exact notAfter
    refine String.not_le.mp fun notBefore => ?_
    exact different (fileName_injective (String.le_antisymm notAfter notBefore))

/-! ## What comes back -/

theorem leadsTo_of_list (fresh : disk.list directory = .ok []) :
    ∃ place, disk.LeadsTo directory place ∧ disk.namesIn place = [] := by
  cases sought : disk.seek directory with
  | error fault =>
      rw [Disk.list, sought] at fresh
      cases fresh
  | ok found =>
      rcases found with ⟨place, content | _⟩
      · rw [Disk.list, sought] at fresh
        cases fresh
      · rw [list_of_leadsTo sought] at fresh
        exact ⟨place, sought, Except.ok.inj fresh⟩

theorem mem_sheetFiles_withSheets {tables : List Table} (none : disk.namesIn place = [])
    (nodup : (tables.map (·.name)).Nodup) (some : ∀ table ∈ tables, table.name ≠ "")
    {file sheet : String} :
    (file, sheet) ∈ sheetFiles ((withSheets place tables disk).namesIn place) ↔
      file = fileName sheet ∧ sheet ∈ tables.map (·.name) := by
  rw [mem_sheetFiles, mem_namesIn_withSheets nodup, none, List.mem_map]
  constructor
  · rintro ⟨there | ⟨table, member, rfl⟩, holds⟩
    · cases there
    · cases eq_of_sheetName?_fileName holds
      exact ⟨rfl, table, member, rfl⟩
  · rintro ⟨rfl, table, member, rfl⟩
    exact ⟨.inr ⟨table, member, rfl⟩, sheetName?_fileName (some table member)⟩

section Fresh

variable {tables : List Table}

def sheetsLoaded (place : Place) (tables : List Table) (disk : Disk) : List String :=
  (sheetFiles ((withSheets place tables disk).namesIn place)).map (·.2)

theorem sheetsLoaded_inOrder (none : disk.namesIn place = [])
    (nodup : (tables.map (·.name)).Nodup) (some : ∀ table ∈ tables, table.name ≠ "") :
    (sheetsLoaded place tables disk).Pairwise SheetBefore := by
  rw [sheetsLoaded, List.pairwise_map]
  refine (sheetFiles_inOrder _).imp_of_mem fun isFirst isSecond before => ?_
  have first := (mem_sheetFiles_withSheets none nodup some).mp isFirst
  have second := (mem_sheetFiles_withSheets none nodup some).mp isSecond
  rw [SheetBefore, ← first.1, ← second.1]
  exact before

theorem sheetsLoaded_nodup (soundAfter : (withSheets place tables disk).Sound)
    (none : disk.namesIn place = []) (nodup : (tables.map (·.name)).Nodup)
    (some : ∀ table ∈ tables, table.name ≠ "") : (sheetsLoaded place tables disk).Nodup := by
  have files := sheetFiles_nodup (soundAfter.namesIn_nodup place)
  rw [List.Nodup, List.pairwise_map] at files
  rw [sheetsLoaded, List.Nodup, List.pairwise_map]
  refine files.imp_of_mem fun isFirst isSecond apart same => apart ?_
  have first := (mem_sheetFiles_withSheets none nodup some).mp isFirst
  have second := (mem_sheetFiles_withSheets none nodup some).mp isSecond
  rw [first.1, second.1, same]

theorem mem_sheetsLoaded (none : disk.namesIn place = []) (nodup : (tables.map (·.name)).Nodup)
    (some : ∀ table ∈ tables, table.name ≠ "") {sheet : String} :
    sheet ∈ sheetsLoaded place tables disk ↔ sheet ∈ tables.map (·.name) := by
  constructor
  · intro member
    rcases List.mem_map.mp member with ⟨item, isItem, rfl⟩
    exact ((mem_sheetFiles_withSheets none nodup some).mp isItem).2
  · intro member
    exact List.mem_map.mpr ⟨(fileName sheet, sheet),
      (mem_sheetFiles_withSheets none nodup some).mpr ⟨rfl, member⟩, rfl⟩

end Fresh

/-- A workbook that is saved to a directory in which nothing is comes back whole and in loading
order, and each of its sheets as what reading back makes of it. -/
theorem save_then_load {made : Disk} {workbook : Workbook} (sound : disk.Sound)
    (ready : makeDirectories directory disk = (.ok (), made))
    (fresh : made.list directory = .ok []) (nodup : workbook.names.Nodup)
    (fits : ∀ name ∈ workbook.names, Fits directory name) :
    ∃ after loaded, save directory workbook disk = (.ok (), after) ∧
      load directory after = .ok loaded ∧ loaded.names.Perm workbook.names ∧
      (∃ others, loaded.names = knownNames.filter (· ∈ workbook.names) ++ others ∧
        (∀ name ∈ others, name ∉ knownNames) ∧
        others.Pairwise fun first second => fileName first < fileName second) ∧
      ∀ table ∈ workbook.sheets, loaded.sheet? table.name = some table.reread := by
  have soundMade := sound.makeDirectories ready
  rcases leadsTo_of_list fresh with ⟨place, leads, none⟩
  have some : ∀ table ∈ workbook.sheets, table.name ≠ "" :=
    fun table member => (fits table.name (List.mem_map_of_mem member)).some
  have writable : ∀ table ∈ workbook.sheets, Writable made directory place table.name := by
    intro table member
    have fit := fits table.name (List.mem_map_of_mem member)
    refine ⟨isName_fileName fit.flat fit.whole fit.shortName, fit.shortPath, fun there => ?_⟩
    have listed : fileName table.name ∈ made.namesIn place :=
      mem_namesIn.mpr (by rw [there]; nofun)
    rw [none] at listed
    cases listed
  have soundAfter : (withSheets place workbook.sheets made).Sound :=
    sound_withSheets soundMade (soundMade.names_of_entryAt? leads.entry)
      fun table member => (writable table member).named
  have noItems : ∀ item ∈ sheetFiles (made.namesIn place),
      ∃ table, loadItem made directory item = .ok table := by
    rw [none]
    rintro ⟨file, sheet⟩ member
    cases (mem_sheetFiles.mp member).1
  have loadedNodup := sheetsLoaded_nodup soundAfter none nodup some
  have isLoaded : ∀ {sheet : String}, sheet ∈ sheetsLoaded place workbook.sheets made ↔
      sheet ∈ workbook.names := mem_sheetsLoaded none nodup some
  have names := (names_loaded (withSheets place workbook.sheets made) directory _).trans
    (eraseDups_of_nodup loadedNodup)
  refine ⟨_, _, save_apply ready leads writable,
    load_withSheets soundMade leads writable nodup noItems, ?_, ?_, ?_⟩
  · rw [names]
    exact (List.perm_ext_iff_of_nodup loadedNodup nodup).mpr fun _ => isLoaded
  · rcases eq_append_of_inOrder loadedNodup (sheetsLoaded_inOrder none nodup some) with
      ⟨others, split, unknown, byFile⟩
    refine ⟨others, ?_, unknown, byFile⟩
    rw [names]
    refine split.trans (congrArg (· ++ others) (List.filter_congr fun name _ => ?_))
    exact decide_eq_decide.mpr isLoaded
  · exact fun table isTable => sheet?_saved leads writable nodup isTable (some table isTable)

theorem makeDirectories_books :
    makeDirectories "books" ⟨[], []⟩ = (.ok (), ⟨[], [(["books"], .directory)]⟩) := by
  change @Eq (Except FileFault Unit × Disk) _ _
  decide +kernel

def twoSheets : Workbook :=
  ⟨[⟨"Notes", [[.text "a,b"], []]⟩, ⟨"Auth", [[.text "email"]]⟩]⟩

theorem save_then_load_twoSheets :
    ∃ after loaded, save "books" twoSheets ⟨[], []⟩ = (.ok (), after) ∧
      load "books" after = .ok loaded ∧ loaded.names.Perm ["Notes", "Auth"] ∧
      (∃ others, loaded.names = "Auth" :: others) ∧
      loaded.sheet? "Notes" = some ⟨"Notes", [[.text "a,b"], [.empty]]⟩ := by
  have sound : (Disk.mk [] []).Sound := ⟨nofun, List.nodup_nil, nofun⟩
  have fits : ∀ name ∈ twoSheets.names, Fits "books" name := by
    intro name member
    have oneOf : name = "Notes" ∨ name = "Auth" := by simpa [twoSheets, Workbook.names] using member
    rcases oneOf with rfl | rfl <;> constructor <;> decide +kernel
  have nodup : twoSheets.names.Nodup := by decide
  rcases save_then_load sound makeDirectories_books (by decide +kernel) nodup fits with
    ⟨after, loaded, saved, found, names, ⟨others, split, _⟩, sheets⟩
  refine ⟨after, loaded, saved, found, names, ⟨others, ?_⟩, ?_⟩
  · rw [split]
    rfl
  · exact sheets ⟨"Notes", [[.text "a,b"], []]⟩ (by decide)

theorem save_of_long {made : Disk} (ready : makeDirectories directory disk = (.ok (), made))
    (leads : made.LeadsTo directory place) (table : Table) (rest : List Table)
    (flat : '/' ∉ table.name.toList) (long : longestName < (fileName table.name).utf8ByteSize) :
    ∃ error, save directory ⟨table :: rest⟩ disk = (.error error, made) := by
  rcases saveSheet_of_long leads table flat long with ⟨error, refused⟩
  exact ⟨error, (save_eq ready _).trans (Step.bind_error refused)⟩

theorem flat_replicate (count : Nat) :
    '/' ∉ (String.ofList (List.replicate count 'k')).toList := by
  rw [String.toList_ofList, List.mem_replicate]
  exact fun both => absurd both.2 (by decide)

theorem utf8ByteSize_replicate (count : Nat) :
    (String.ofList (List.replicate count 'k')).utf8ByteSize = count := by
  induction count with
  | zero => rfl
  | succ count induction =>
      rw [List.replicate_succ, String.ofList_cons, String.utf8ByteSize_append, induction]
      exact Nat.add_comm 1 count

def longName : String :=
  String.ofList (List.replicate 252 'k')

theorem utf8ByteSize_longName : longName.utf8ByteSize = 252 :=
  utf8ByteSize_replicate 252

theorem flat_longName : '/' ∉ longName.toList :=
  flat_replicate 252

/-- A first row that is a mark of byte order alone is lost, a text in quotes keeps its mark, and a
name that is too long cannot be saved. -/
theorem save_then_load_marks :
    (load "books" (save "books" ⟨[⟨"Notes", [[.text "\uFEFF"], [.text "a"]]⟩]⟩ ⟨[], []⟩).2 =
        .ok ⟨[⟨"Notes", [[.text "a"]]⟩]⟩) ∧
      (load "books" (save "books" ⟨[⟨"Notes", [[.text "\uFEFFa,b"]]⟩]⟩ ⟨[], []⟩).2 =
        .ok ⟨[⟨"Notes", [[.text "\uFEFFa,b"]]⟩]⟩) ∧
      ∃ error after, save "books" ⟨[⟨longName, []⟩]⟩ ⟨[], []⟩ = (.error error, after) := by
  refine ⟨by decide +kernel, by decide +kernel, ?_⟩
  have leads : (Disk.mk [] [(["books"], .directory)]).LeadsTo "books" ["books"] := by
    unfold LeadsTo
    decide +kernel
  have long : longestName < (fileName longName).utf8ByteSize :=
    Nat.lt_of_lt_of_eq (by decide : longestName < 252 + 4)
      ((size_fileName longName).trans (congrArg (· + 4) utf8ByteSize_longName)).symm
  rcases save_of_long makeDirectories_books leads ⟨longName, []⟩ [] flat_longName long with
    ⟨error, refused⟩
  exact ⟨error, _, refused⟩

end SheetDirectory

end SheetPost
