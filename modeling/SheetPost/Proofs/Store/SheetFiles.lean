import SheetPost.Store.SheetDirectory
import SheetPost.Proofs.Disk.Directory

namespace SheetPost

/-! ## Sorting again -/

theorem pairwise_mergeSort_of_pairwise {α : Type} {le : α → α → Bool} {keeps : α → α → Prop}
    (trans : ∀ first second third, le first second = true → le second third = true →
      le first third = true)
    (total : ∀ first second, (le first second || le second first) = true)
    (refl : ∀ value, keeps value value) {values : List α} (sorted : values.Pairwise keeps) :
    (values.mergeSort le).Pairwise fun first second =>
      le first second = true ∧ (le second first = true → keeps first second) := by
  have placed := List.pairwise_mergeSort (List.zipIdxLE_trans trans) (List.zipIdxLE_total total)
    values.zipIdx
  rw [← List.mergeSort_zipIdx, List.pairwise_map]
  refine placed.imp_of_mem ?_
  rintro ⟨first, place⟩ ⟨second, placeLater⟩ isFirst isSecond inOrder
  rw [List.mem_mergeSort, List.mem_zipIdx_iff_getElem?] at isFirst isSecond
  unfold List.zipIdxLE at inOrder
  split at inOrder
  · next notAfter =>
      refine ⟨notAfter, fun back => ?_⟩
      rw [if_pos back] at inOrder
      have notLater : place ≤ placeLater := of_decide_eq_true inOrder
      rcases Nat.lt_or_eq_of_le notLater with before | rfl
      · rcases List.getElem?_eq_some_iff.mp isFirst with ⟨inside, same⟩
        rcases List.getElem?_eq_some_iff.mp isSecond with ⟨insideLater, sameLater⟩
        rw [← same, ← sameLater]
        exact List.pairwise_iff_getElem.mp sorted place placeLater inside insideLater before
      · cases isFirst.symm.trans isSecond
        exact refl _
  · cases inOrder

namespace SheetDirectory

open Disk

/-! ## Names of files -/

section Names

variable {file sheet : String}

theorem fileName_eq (sheet : String) : fileName sheet = sheet ++ "." ++ "csv" := by
  rw [String.append_assoc]
  rfl

theorem fileName_injective {sheet other : String} (same : fileName sheet = fileName other) :
    sheet = other := by
  have characters := congrArg String.toList same
  rw [fileName, fileName, String.toList_append, String.toList_append,
    List.append_cancel_right_eq] at characters
  exact String.toList_inj.mp characters

theorem sheetName?_eq_some_iff :
    sheetName? file = some sheet ↔
      sheet ≠ "" ∧ ∃ extension, file = sheet ++ "." ++ extension ∧ extension.toLower = "csv" := by
  unfold sheetName? Path.hasExtension
  constructor
  · intro found
    cases parted : Path.stemAndExtension file with
    | mk stem extension =>
        cases extension with
        | none =>
            rw [parted] at found
            cases found
        | some extension =>
            rw [parted, Option.any_some] at found
            split at found
            · next lowered =>
                cases found
                rcases Path.eq_append_of_stemAndExtension parted with ⟨joined, some⟩
                exact ⟨some, extension, joined, beq_iff_eq.mp lowered⟩
            · cases found
  · rintro ⟨some, extension, rfl, lowered⟩
    have ahead : sheet ++ "." ++ extension ≠ ".." := by
      intro dots
      have size := congrArg String.utf8ByteSize dots
      rw [String.utf8ByteSize_append, (Path.of_toLower_eq_csv lowered).1] at size
      have two : "..".utf8ByteSize = 2 := rfl
      omega
    rw [Path.stemAndExtension_append some (Path.of_toLower_eq_csv lowered).2.2 ahead,
      Option.any_some, lowered, beq_self_eq_true]
    rfl

theorem sheetName?_fileName (some : sheet ≠ "") : sheetName? (fileName sheet) = .some sheet := by
  rw [fileName_eq]
  exact sheetName?_eq_some_iff.mpr ⟨some, "csv", rfl, by decide +kernel⟩

theorem eq_of_sheetName?_fileName {name : String}
    (holds : sheetName? (fileName name) = some sheet) : sheet = name := by
  by_cases empty : name = ""
  · subst empty
    have none : sheetName? (fileName "") = .none := by decide +kernel
    cases none.symm.trans holds
  · exact (Option.some_inj.mp ((sheetName?_fileName empty).symm.trans holds)).symm

theorem of_sheetName? (holds : sheetName? file = some sheet) :
    file.utf8ByteSize = (fileName sheet).utf8ByteSize ∧ file ≤ fileName sheet := by
  rcases sheetName?_eq_some_iff.mp holds with ⟨_, extension, rfl, lowered⟩
  rcases Path.of_toLower_eq_csv lowered with ⟨size, notAfter, _⟩
  rw [fileName_eq]
  refine ⟨?_, ?_⟩
  · simp only [String.utf8ByteSize_append, size]
    rfl
  · have lists : ¬(sheet ++ ".").toList ++ "csv".toList < (sheet ++ ".").toList ++ extension.toList :=
      List.append_left_le notAfter
    rw [← String.toList_append, ← String.toList_append] at lists
    exact lists

theorem size_fileName (sheet : String) :
    (fileName sheet).utf8ByteSize = sheet.utf8ByteSize + 4 := by
  rw [fileName, String.utf8ByteSize_append]
  rfl

theorem fileName_ahead (sheet : String) : fileName sheet ≠ "." ∧ fileName sheet ≠ ".." := by
  have long : 4 ≤ (fileName sheet).utf8ByteSize := by
    rw [size_fileName]
    omega
  constructor
  · intro dot
    exact absurd (dot ▸ long) (by decide)
  · intro dots
    exact absurd (dots ▸ long) (by decide)

theorem notMem_fileName {character : Char} (other : character ∉ ['.', 'c', 's', 'v'])
    (absent : character ∉ sheet.toList) : character ∉ (fileName sheet).toList := by
  have characters : (fileName sheet).toList = sheet.toList ++ ['.', 'c', 's', 'v'] :=
    String.toList_append
  rw [characters, List.mem_append, not_or]
  exact ⟨absent, other⟩

theorem isName_fileName (flat : '/' ∉ sheet.toList) (whole : '\x00' ∉ sheet.toList)
    (short : (fileName sheet).utf8ByteSize ≤ longestName) : IsName (fileName sheet) := by
  refine ⟨?_, notMem_fileName (by decide) flat, notMem_fileName (by decide) whole,
    fileName_ahead sheet, short⟩
  intro empty
  have size := size_fileName sheet
  rw [empty] at size
  cases size

theorem isName_known : ∀ schema ∈ Schema.all, IsName (fileName schema.name) := by
  have spelled : ∀ schema ∈ Schema.all, '/' ∉ schema.name.toList ∧ '\x00' ∉ schema.name.toList ∧
      (fileName schema.name).utf8ByteSize ≤ longestName := by
    decide +kernel
  intro schema member
  rcases spelled schema member with ⟨flat, whole, short⟩
  exact isName_fileName flat whole short

theorem isName_fileName_of_sheetName? (named : IsName file) (holds : sheetName? file = some sheet) :
    IsName (fileName sheet) := by
  have size := (of_sheetName? holds).1
  rcases sheetName?_eq_some_iff.mp holds with ⟨_, extension, rfl, _⟩
  have characters : (sheet ++ "." ++ extension).toList =
      sheet.toList ++ ("." ++ extension).toList := by
    rw [String.append_assoc, String.toList_append]
  have flat := named.flat
  have whole := named.whole
  rw [characters, List.mem_append, not_or] at flat whole
  exact isName_fileName flat.1 whole.1 (size ▸ named.short)

end Names

/-! ## Loading order -/

section Order

variable {files : List String} {file sheet : String}

/-- The order of loading: the known sheets, then the others, and file names where these agree. -/
def LoadedBefore (first second : String × String) : Prop :=
  rank first.2 < rank second.2 ∨ rank first.2 = rank second.2 ∧ first.1 ≤ second.1

theorem loadedBefore_antisymm {first second : String × String}
    (forth : LoadedBefore first second) (back : LoadedBefore second first) :
    first.1 = second.1 := by
  rcases forth with less | ⟨_, notAfter⟩ <;> rcases back with more | ⟨_, notBefore⟩
  · omega
  · omega
  · omega
  · exact String.le_antisymm notAfter notBefore

theorem sheetFiles_perm (files : List String) :
    (sheetFiles files).Perm
      (files.filterMap fun file => (sheetName? file).map fun sheet => (file, sheet)) :=
  (List.mergeSort_perm _ _).trans (List.mergeSort_perm _ _)

theorem mem_sheetFiles :
    (file, sheet) ∈ sheetFiles files ↔ file ∈ files ∧ sheetName? file = some sheet := by
  rw [(sheetFiles_perm files).mem_iff, List.mem_filterMap]
  constructor
  · rintro ⟨other, member, found⟩
    rcases Option.map_eq_some_iff.mp found with ⟨_, holds, same⟩
    cases same
    exact ⟨member, holds⟩
  · rintro ⟨member, holds⟩
    exact ⟨file, member, by rw [holds]; rfl⟩

theorem mergeSort_byName (items : List (String × String)) :
    (items.mergeSort fun first second => first.1 ≤ second.1).Pairwise fun first second =>
      first.1 ≤ second.1 := by
  refine (List.pairwise_mergeSort ?_ ?_ items).imp of_decide_eq_true
  · intro first second third before later
    exact decide_eq_true (String.le_trans (of_decide_eq_true before) (of_decide_eq_true later))
  · intro first second
    simp only [Bool.or_eq_true, decide_eq_true_eq]
    exact String.le_total _ _

theorem sheetFiles_inOrder (files : List String) : (sheetFiles files).Pairwise LoadedBefore := by
  refine (pairwise_mergeSort_of_pairwise ?_ ?_ ?_ (mergeSort_byName _)).imp ?_
  · intro first second third
    simp only [decide_eq_true_eq]
    omega
  · intro first second
    simp only [Bool.or_eq_true, decide_eq_true_eq]
    omega
  · exact fun value => String.le_refl _
  · rintro first second ⟨notAfter, sorted⟩
    rcases Nat.lt_or_eq_of_le (of_decide_eq_true notAfter) with less | equal
    · exact .inl less
    · exact .inr ⟨equal, sorted (decide_eq_true (Nat.le_of_eq equal.symm))⟩

theorem sheetFiles_nodup (nodup : files.Nodup) : ((sheetFiles files).map (·.1)).Nodup := by
  rw [((sheetFiles_perm files).map (·.1)).nodup_iff, List.Nodup, List.pairwise_map]
  refine List.Pairwise.filterMap _ ?_ nodup
  intro first second apart item isFirst other isSecond
  rcases Option.map_eq_some_iff.mp isFirst with ⟨_, _, rfl⟩
  rcases Option.map_eq_some_iff.mp isSecond with ⟨_, _, rfl⟩
  exact apart

/-- The file that a sheet is read from: of several the one that is loaded last. -/
def source? (files : List String) (sheet : String) : Option String :=
  ((sheetFiles files).reverse.find? (·.2 == sheet)).map (·.1)

theorem mem_of_source? (isSource : source? files sheet = some file) :
    (file, sheet) ∈ sheetFiles files ∧
      ∀ other, (other, sheet) ∈ sheetFiles files → other ≤ file := by
  rcases Option.map_eq_some_iff.mp isSource with ⟨⟨_, _⟩, found, rfl⟩
  rcases List.find?_eq_some_iff_append.mp found with ⟨holds, later, earlier, split, others⟩
  cases beq_iff_eq.mp holds
  rw [List.reverse_eq_iff, List.reverse_append, List.reverse_cons, List.append_assoc] at split
  have ordered := sheetFiles_inOrder files
  rw [split, List.pairwise_append] at ordered
  refine ⟨split ▸ by simp, fun other member => ?_⟩
  rw [split, List.mem_append, List.mem_append, List.mem_singleton] at member
  rcases member with isEarlier | same | isLater
  · rcases ordered.2.2 _ isEarlier _ (List.mem_append_left _ List.mem_cons_self) with less | order
    · exact absurd less (Nat.lt_irrefl _)
    · exact order.2
  · cases same
    exact String.le_refl _
  · simpa using others _ (List.mem_reverse.mp isLater)

theorem exists_source? (listed : (file, sheet) ∈ sheetFiles files) :
    ∃ source, source? files sheet = some source := by
  have found : ((sheetFiles files).reverse.find? (·.2 == sheet)).isSome := by
    rw [List.find?_isSome]
    exact ⟨_, List.mem_reverse.mpr listed, by simp⟩
  rcases Option.isSome_iff_exists.mp found with ⟨item, isItem⟩
  exact ⟨item.1, by rw [source?, isItem]; rfl⟩

theorem source?_eq_some_iff :
    source? files sheet = some file ↔
      (file ∈ files ∧ sheetName? file = some sheet) ∧
        ∀ other ∈ files, sheetName? other = some sheet → other ≤ file := by
  constructor
  · intro isSource
    rcases mem_of_source? isSource with ⟨listed, last⟩
    exact ⟨mem_sheetFiles.mp listed,
      fun other there holds => last other (mem_sheetFiles.mpr ⟨there, holds⟩)⟩
  · rintro ⟨isFile, last⟩
    rcases exists_source? (mem_sheetFiles.mpr isFile) with ⟨source, isSource⟩
    rcases mem_of_source? isSource with ⟨listed, notAfter⟩
    have isSourceFile := mem_sheetFiles.mp listed
    have same : source = file := String.le_antisymm (last source isSourceFile.1 isSourceFile.2)
      (notAfter file (mem_sheetFiles.mpr isFile))
    exact same ▸ isSource

/-- The file that saving writes comes last, so a sheet is read from it if it is there. -/
theorem source?_of_fileName (some : sheet ≠ "") (there : fileName sheet ∈ files) :
    source? files sheet = .some (fileName sheet) :=
  source?_eq_some_iff.mpr
    ⟨⟨there, sheetName?_fileName some⟩, fun _ _ holds => (of_sheetName? holds).2⟩

theorem sheetFiles_filter {earlier : List String} (nodup : files.Nodup)
    (nodupEarlier : earlier.Nodup) (grown : ∀ file ∈ earlier, file ∈ files) :
    (sheetFiles files).filter (fun item => item.1 ∈ earlier) = sheetFiles earlier := by
  have different : ∀ {names : List String}, names.Nodup → (sheetFiles names).Nodup :=
    fun nodup => List.Pairwise.of_map _ (fun _ _ apart same => apart (congrArg _ same))
      (sheetFiles_nodup nodup)
  refine List.Perm.eq_of_pairwise ?_ ((sheetFiles_inOrder files).filter _)
    (sheetFiles_inOrder earlier) ?_
  · rintro ⟨file, sheet⟩ ⟨other, otherSheet⟩ isFirst isSecond forth back
    cases (loadedBefore_antisymm forth back : file = other)
    have holds := (mem_sheetFiles.mp (List.mem_filter.mp isFirst).1).2
    cases holds.symm.trans (mem_sheetFiles.mp isSecond).2
    rfl
  · rw [List.perm_ext_iff_of_nodup ((different nodup).filter _) (different nodupEarlier)]
    rintro ⟨file, sheet⟩
    rw [List.mem_filter, mem_sheetFiles, mem_sheetFiles, decide_eq_true_iff]
    constructor
    · rintro ⟨⟨_, holds⟩, there⟩
      exact ⟨there, holds⟩
    · rintro ⟨there, holds⟩
      exact ⟨⟨grown file there, holds⟩, there⟩

end Order

end SheetDirectory

end SheetPost
