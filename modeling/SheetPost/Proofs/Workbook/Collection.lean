import Mathlib.Data.List.Induction
import SheetPost.Workbook.Workbook

namespace SheetPost

/-! ## Names that come up again -/

theorem eraseDups_concat (names : List String) (name : String) :
    (names ++ [name]).eraseDups =
      if name ∈ names then names.eraseDups else names.eraseDups ++ [name] := by
  rw [List.eraseDups_append, List.cons_removeAll]
  split
  · next new =>
      have absent : name ∉ names := by simpa using new
      rw [if_neg absent]
      rfl
  · next there =>
      have member : name ∈ names := by simpa using there
      rw [if_pos member]
      exact List.append_nil _

theorem eraseDups_of_nodup {names : List String} (nodup : names.Nodup) :
    names.eraseDups = names := by
  induction names using List.reverseRecOn with
  | nil => rfl
  | append_singleton names name induction =>
      have parts := List.nodup_append.mp nodup
      have new : name ∉ names := fun member =>
        parts.2.2 _ member _ (List.mem_singleton.mpr rfl) rfl
      rw [eraseDups_concat, if_neg new, induction parts.1]

theorem eraseDups_sublist (names : List String) : names.eraseDups.Sublist names := by
  induction names using List.reverseRecOn with
  | nil => exact .slnil
  | append_singleton names name induction =>
      rw [eraseDups_concat]
      split
      · exact induction.trans (List.sublist_append_left _ _)
      · exact induction.append (.refl _)

theorem length_eraseDups_le (names : List String) : names.eraseDups.length ≤ names.length :=
  (eraseDups_sublist names).length_le

theorem nodup_of_length_eraseDups {names : List String}
    (same : names.eraseDups.length = names.length) : names.Nodup := by
  induction names using List.reverseRecOn with
  | nil => exact List.nodup_nil
  | append_singleton names name induction =>
      have shorter := length_eraseDups_le names
      rw [eraseDups_concat, List.length_append, List.length_singleton] at same
      split at same
      · omega
      · next new =>
          rw [List.length_append, List.length_singleton] at same
          refine List.nodup_append.mpr
            ⟨induction (Nat.succ.inj same), List.pairwise_singleton _ _, ?_⟩
          rintro other member _ last rfl
          exact new (List.mem_singleton.mp last ▸ member)

theorem eraseDups_map_filter {α : Type} {items : List α} (key : α → String) (keeps : α → Bool)
    (again : ∀ before item after, items = before ++ item :: after → keeps item = false →
      key item ∈ before.map key) :
    ((items.filter keeps).map key).eraseDups = (items.map key).eraseDups := by
  induction items using List.reverseRecOn with
  | nil => rfl
  | append_singleton items item induction =>
      have earlier : ((items.filter keeps).map key).eraseDups = (items.map key).eraseDups := by
        refine induction fun before other after split => again before other (after ++ [item]) ?_
        rw [split, List.append_assoc]
        rfl
      have same : ∀ name, name ∈ (items.filter keeps).map key ↔ name ∈ items.map key := by
        intro name
        rw [← List.mem_eraseDups, earlier, List.mem_eraseDups]
      rw [List.filter_append, List.map_append, List.map_append, List.map_singleton,
        eraseDups_concat]
      cases kept : keeps item with
      | true =>
          rw [List.filter_cons_of_pos kept, List.filter_nil, List.map_singleton, eraseDups_concat,
            earlier]
          simp only [same]
      | false =>
          rw [List.filter_cons_of_neg (by simp [kept]), List.filter_nil, List.map_nil,
            List.append_nil, earlier, if_pos (again items item [] rfl kept)]

namespace Workbook

def names (workbook : Workbook) : List String :=
  workbook.sheets.map (·.name)

theorem names_insert (workbook : Workbook) (table : Table) :
    (workbook.insert table).names =
      if table.name ∈ workbook.names then workbook.names else workbook.names ++ [table.name] :=
  names_putTable table workbook.sheets

theorem nodup_insert {workbook : Workbook} (nodup : workbook.names.Nodup) (table : Table) :
    (workbook.insert table).names.Nodup := by
  rw [names_insert]
  split
  · exact nodup
  · next new =>
      refine List.nodup_append.mpr ⟨nodup, List.pairwise_singleton _ _, ?_⟩
      rintro name member _ last rfl
      exact new (List.mem_singleton.mp last ▸ member)

/-! ## Lookup -/

theorem sheet?_of_mem {workbook : Workbook} (nodup : workbook.names.Nodup) {table : Table}
    (member : table ∈ workbook.sheets) : workbook.sheet? table.name = some table := by
  rcases workbook with ⟨tables⟩
  induction tables with
  | nil => cases member
  | cons head tail induction =>
      have parts := List.nodup_cons.mp nodup
      rcases List.mem_cons.mp member with rfl | later
      · exact List.find?_cons_of_pos (by simp)
      · have apart : head.name ≠ table.name := fun same =>
          parts.1 (List.mem_map.mpr ⟨table, later, same.symm⟩)
        exact (List.find?_cons_of_neg (by simpa using apart)).trans (induction parts.2 later)

theorem mem_of_sheet? {workbook : Workbook} {name : String} {table : Table}
    (found : workbook.sheet? name = some table) : table ∈ workbook.sheets ∧ table.name = name :=
  ⟨List.mem_of_find?_eq_some found, by simpa using List.find?_some found⟩

theorem mem_names {workbook : Workbook} {name : String} :
    name ∈ workbook.names ↔ ∃ table, workbook.sheet? name = some table := by
  constructor
  · intro listed
    rcases List.mem_map.mp listed with ⟨table, member, rfl⟩
    exact Option.isSome_iff_exists.mp (List.find?_isSome.mpr ⟨table, member, by simp⟩)
  · rintro ⟨table, found⟩
    rcases mem_of_sheet? found with ⟨member, rfl⟩
    exact List.mem_map_of_mem member

theorem sheet?_eq_none_iff {workbook : Workbook} {name : String} :
    workbook.sheet? name = none ↔ name ∉ workbook.names := by
  rw [mem_names, not_exists]
  exact Option.eq_none_iff_forall_ne_some

theorem sheetFor_of_sheet? {workbook : Workbook} {schema : Schema} {table : Table}
    (found : workbook.sheet? schema.name = some table) : workbook.sheetFor schema = table := by
  rw [sheetFor, found]
  rfl

theorem sheetFor_of_none {workbook : Workbook} {schema : Schema}
    (missing : workbook.sheet? schema.name = none) :
    workbook.sheetFor schema = .ofSchema schema := by
  rw [sheetFor, missing]
  rfl

theorem eq_of_sheets {workbook other : Workbook} (nodup : workbook.names.Nodup)
    (same : other.names = workbook.names)
    (found : ∀ table ∈ workbook.sheets, other.sheet? table.name = some table) :
    other = workbook := by
  have looked : ∀ {book : Workbook}, (∀ table ∈ book.sheets, other.sheet? table.name = some table) →
      book.sheets.map some = book.names.map other.sheet? := by
    intro book found
    rw [names, List.map_map]
    exact List.map_congr_left fun table member => (found table member).symm
  have own : ∀ table ∈ other.sheets, other.sheet? table.name = some table :=
    fun table member => sheet?_of_mem (same ▸ nodup) member
  have sheets : other.sheets.map some = workbook.sheets.map some := by
    rw [looked own, looked found, same]
  cases workbook
  cases other
  exact congrArg mk (List.map_inj_right (fun _ _ => Option.some.inj) |>.mp sheets)

theorem insert_of_notMem {workbook : Workbook} {table : Table} (new : table.name ∉ workbook.names) :
    workbook.insert table = ⟨workbook.sheets ++ [table]⟩ := by
  rcases workbook with ⟨tables⟩
  refine congrArg mk ?_
  induction tables with
  | nil => rfl
  | cons head tail induction =>
      rw [names, List.map_cons, List.mem_cons, not_or] at new
      rw [putTable, if_neg (Ne.symm new.1), induction new.2, List.cons_append]

/-! ## Putting a table in its own place -/

theorem insert_of_sheet? {workbook : Workbook} {table : Table}
    (there : workbook.sheet? table.name = some table) : workbook.insert table = workbook := by
  rcases workbook with ⟨tables⟩
  refine congrArg mk ?_
  induction tables with
  | nil => cases there
  | cons head tail induction =>
      unfold putTable
      split
      · next same =>
          have found : (head :: tail).find? (·.name == table.name) = some table := there
          rw [List.find?_cons_of_pos (by simp [same])] at found
          rw [Option.some.inj found]
      · next different =>
          have found : (head :: tail).find? (·.name == table.name) = some table := there
          rw [List.find?_cons_of_neg (by simpa using different)] at found
          exact congrArg (head :: ·) (induction found)

theorem insert_insert (workbook : Workbook) {table other : Table} (same : other.name = table.name) :
    (workbook.insert table).insert other = workbook.insert other := by
  rcases workbook with ⟨tables⟩
  refine congrArg mk ?_
  change putTable other (putTable table tables) = putTable other tables
  induction tables with
  | nil => exact if_pos same.symm
  | cons head tail induction =>
      by_cases isHead : head.name = table.name
      · rw [putTable, if_pos isHead, putTable, if_pos same.symm, putTable,
          if_pos (isHead.trans same.symm)]
      · have different : head.name ≠ other.name := same ▸ isHead
        rw [putTable, if_neg isHead, putTable, if_neg different, induction, putTable,
          if_neg different]

theorem sheetFor_insert (workbook : Workbook) {table : Table} {schema : Schema}
    (name : table.name = schema.name) : (workbook.insert table).sheetFor schema = table :=
  sheetFor_of_sheet? (name ▸ sheet?_insert_same workbook table)

theorem update_insert (workbook : Workbook) {table : Table} {schema : Schema}
    (name : table.name = schema.name) {change : Table → Table}
    (kept : (change table).name = table.name) :
    (workbook.insert table).update schema change = workbook.insert (change table) := by
  rw [update, sheetFor_insert _ name, insert_insert _ kept]

/-! ## Another sheet in the place of one -/

/-- The second workbook is the first one with this sheet in the place of the one of its name. -/
structure Revised (workbook : Workbook) (sheet : Table) (revised : Workbook) : Prop where
  names : revised.names = workbook.names
  there : revised.sheet? sheet.name = some sheet
  others : ∀ name ≠ sheet.name, revised.sheet? name = workbook.sheet? name

variable {workbook revised : Workbook} {schema : Schema} {sheet : Table}

theorem Revised.refl (there : workbook.sheet? sheet.name = some sheet) :
    workbook.Revised sheet workbook :=
  ⟨rfl, there, fun _ _ => rfl⟩

theorem Revised.sheetFor (revision : workbook.Revised sheet revised)
    (name : sheet.name = schema.name) : revised.sheetFor schema = sheet :=
  sheetFor_of_sheet? (name ▸ revision.there)

theorem Revised.update (revision : workbook.Revised sheet revised) (name : sheet.name = schema.name)
    {change : Table → Table} (kept : (change sheet).name = sheet.name) :
    workbook.Revised (change sheet) (revised.update schema change) := by
  rw [Workbook.update, revision.sheetFor name]
  refine ⟨?_, sheet?_insert_same _ _, ?_⟩
  · have member : sheet.name ∈ revised.names := by
      rcases mem_of_sheet? revision.there with ⟨isSheet, _⟩
      exact List.mem_map_of_mem isSheet
    rw [names_insert, kept, if_pos member, revision.names]
  · intro other different
    rw [sheet?_insert_other _ _ different]
    exact revision.others other (kept ▸ different)

theorem Revised.forall_mem (revision : workbook.Revised sheet revised)
    (nodup : workbook.names.Nodup) {holds : Table → Prop} (ofSheet : holds sheet)
    (ofOthers : ∀ table ∈ workbook.sheets, holds table) :
    ∀ table ∈ revised.sheets, holds table := by
  intro table member
  have found := sheet?_of_mem (revision.names ▸ nodup) member
  by_cases same : table.name = sheet.name
  · rw [same, revision.there] at found
    cases found
    exact ofSheet
  · rw [revision.others _ same] at found
    exact ofOthers table (mem_of_sheet? found).1

/-! ## Putting together -/

theorem ofTables_concat (tables : List Table) (table : Table) :
    ofTables (tables ++ [table]) = (ofTables tables).insert table :=
  List.foldl_append

theorem mem_of_mem_putTable {table other : Table} {tables : List Table}
    (member : other ∈ putTable table tables) : other = table ∨ other ∈ tables := by
  induction tables with
  | nil => exact .inl (List.mem_singleton.mp member)
  | cons head tail induction =>
      unfold putTable at member
      split at member
      · exact (List.mem_cons.mp member).imp_right (List.mem_cons_of_mem _)
      · rcases List.mem_cons.mp member with rfl | later
        · exact .inr List.mem_cons_self
        · exact (induction later).imp_right (List.mem_cons_of_mem _)

theorem mem_of_mem_ofTables {tables : List Table} {table : Table}
    (member : table ∈ (ofTables tables).sheets) : table ∈ tables := by
  induction tables using List.reverseRecOn with
  | nil => cases member
  | append_singleton tables last induction =>
      rw [ofTables_concat] at member
      rcases mem_of_mem_putTable member with rfl | earlier
      · exact List.mem_append_right _ List.mem_cons_self
      · exact List.mem_append_left _ (induction earlier)

theorem names_ofTables (tables : List Table) :
    (ofTables tables).names = (tables.map (·.name)).eraseDups := by
  induction tables using List.reverseRecOn with
  | nil => rfl
  | append_singleton tables table induction =>
      rw [ofTables_concat, names_insert, induction, List.map_append, List.map_singleton,
        eraseDups_concat]
      simp only [List.mem_eraseDups]

theorem nodup_ofTables (tables : List Table) : (ofTables tables).names.Nodup := by
  induction tables using List.reverseRecOn with
  | nil => exact List.nodup_nil
  | append_singleton tables table induction =>
      rw [ofTables_concat]
      exact nodup_insert induction table

theorem sheet?_ofTables (tables : List Table) (name : String) :
    (ofTables tables).sheet? name = tables.reverse.find? (·.name == name) := by
  induction tables using List.reverseRecOn with
  | nil => rfl
  | append_singleton tables table induction =>
      rw [ofTables_concat, List.reverse_concat]
      by_cases same : table.name = name
      · subst same
        rw [sheet?_insert_same, List.find?_cons_of_pos (by simp)]
      · rw [sheet?_insert_other _ _ (Ne.symm same), List.find?_cons_of_neg (by simpa using same),
          induction]

end Workbook

end SheetPost
