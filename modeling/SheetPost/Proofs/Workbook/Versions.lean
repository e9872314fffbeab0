import SheetPost.Proofs.Spreadsheet.RoundTrip
import SheetPost.Proofs.Store.SheetDirectory
import SheetPost.Proofs.Workbook.Writing
import SheetPost.Store.WorkbookStore

namespace SheetPost

/-! ## Edits of a table -/

inductive Edit where
  | write (cell : CellWrite)
  | push (cells : List Cell)
  | clear

def Edit.apply : Edit → Table → Table
  | .write cell, table => table.set cell.row cell.column cell.value.asCell
  | .push cells, table => table.push cells
  | .clear, table => table.clear

def Table.edited (table : Table) (edits : List Edit) : Table :=
  edits.foldl (fun table edit => edit.apply table) table

theorem Table.name_edited (table : Table) (edits : List Edit) :
    (table.edited edits).name = table.name := by
  induction edits generalizing table with
  | nil => rfl
  | cons edit edits induction =>
      have kept : (edit.apply table).name = table.name := by cases edit <;> rfl
      exact (induction (edit.apply table)).trans kept

namespace Workbook

/-! ## Changes of a workbook -/

/-- A table is put in, or the sheet of a layout is fetched, added first if it is missing, and what is
returned is edited. -/
inductive Change where
  | insert (table : Table)
  | fetch (schema : Schema) (edits : List Edit)

namespace Change

def name : Change → String
  | insert table => table.name
  | fetch schema _ => schema.name

def version : Change → Workbook → Table
  | insert table, _ => table
  | fetch schema edits, workbook => (workbook.sheetFor schema).edited edits

def apply : Change → Workbook → Workbook
  | insert table, workbook => workbook.insert table
  | fetch schema edits, workbook => workbook.update schema (·.edited edits)

theorem name_version (change : Change) (workbook : Workbook) :
    (change.version workbook).name = change.name := by
  cases change with
  | insert table => rfl
  | fetch schema edits => rw [version, Table.name_edited, name_sheetFor, name]

theorem apply_eq (change : Change) (workbook : Workbook) :
    change.apply workbook = workbook.insert (change.version workbook) := by
  cases change <;> rfl

theorem names_apply (change : Change) (workbook : Workbook) :
    (change.apply workbook).names =
      if change.name ∈ workbook.names then workbook.names
      else workbook.names ++ [change.name] := by
  rw [apply_eq, names_insert, name_version]

theorem nodup_apply {workbook : Workbook} (nodup : workbook.names.Nodup) (change : Change) :
    (change.apply workbook).names.Nodup := by
  rw [apply_eq]
  exact nodup_insert nodup _

theorem sheet?_apply_same (change : Change) (workbook : Workbook) :
    (change.apply workbook).sheet? change.name = some (change.version workbook) := by
  rw [apply_eq, ← name_version change workbook]
  exact sheet?_insert_same _ _

theorem sheet?_apply_other (change : Change) (workbook : Workbook) {name : String}
    (different : name ≠ change.name) :
    (change.apply workbook).sheet? name = workbook.sheet? name := by
  rw [apply_eq]
  exact sheet?_insert_other _ _ (name_version change workbook ▸ different)

end Change

/-! ## Where a table comes to stand -/

/-- A workbook takes a table in the place of the only sheet of its name or, if it has none, at the
end. All other sheets stay as they are. -/
inductive Takes (workbook : Workbook) (table : Table) : Workbook → Prop where
  | inPlace {before after : List Table} {old : Table}
      (split : workbook.sheets = before ++ old :: after) (same : old.name = table.name)
      (others : ∀ other ∈ before ++ after, other.name ≠ table.name) :
      Takes workbook table ⟨before ++ table :: after⟩
  | atEnd (new : table.name ∉ workbook.names) : Takes workbook table ⟨workbook.sheets ++ [table]⟩

theorem putTable_of_split {before : List Table} {old table : Table} (after : List Table)
    (same : old.name = table.name) (absent : ∀ other ∈ before, other.name ≠ table.name) :
    putTable table (before ++ old :: after) = before ++ table :: after := by
  induction before with
  | nil => exact if_pos same
  | cons head before induction =>
      rw [List.forall_mem_cons] at absent
      rw [List.cons_append, putTable, if_neg absent.1, induction absent.2, List.cons_append]

theorem takes_insert {workbook : Workbook} (nodup : workbook.names.Nodup) (table : Table) :
    workbook.Takes table (workbook.insert table) := by
  by_cases there : table.name ∈ workbook.names
  · obtain ⟨old, member, same⟩ := List.mem_map.mp there
    obtain ⟨before, after, split⟩ := List.append_of_mem member
    have others : ∀ other ∈ before ++ after, other.name ≠ table.name := by
      rw [names, split, List.map_append, List.map_cons, List.nodup_middle, List.nodup_cons,
        ← List.map_append, same] at nodup
      exact fun other isOther equal => nodup.1 (equal ▸ List.mem_map_of_mem isOther)
    have placed := putTable_of_split after same fun other isBefore =>
      others other (List.mem_append_left _ isBefore)
    rw [insert, split, placed]
    exact .inPlace split same others
  · rw [insert_of_notMem there]
    exact .atEnd there

/-! ## Any changes -/

def changed (workbook : Workbook) (changes : List Change) : Workbook :=
  changes.foldl (fun workbook change => change.apply workbook) workbook

theorem changed_append (workbook : Workbook) (earlier later : List Change) :
    workbook.changed (earlier ++ later) = (workbook.changed earlier).changed later :=
  List.foldl_append

theorem names_changed {workbook : Workbook} (nodup : workbook.names.Nodup) (changes : List Change) :
    (workbook.changed changes).names = (workbook.names ++ changes.map (·.name)).eraseDups := by
  induction changes using List.reverseRecOn with
  | nil => rw [List.map_nil, List.append_nil, eraseDups_of_nodup nodup, changed, List.foldl_nil]
  | append_singleton changes change induction =>
      rw [changed_append, List.map_append, ← List.append_assoc, List.map_singleton,
        eraseDups_concat]
      change (change.apply (workbook.changed changes)).names = _
      rw [change.names_apply, induction]
      simp only [List.mem_eraseDups]

theorem sheet?_changed_of_notMem (workbook : Workbook) {changes : List Change} {name : String}
    (untouched : name ∉ changes.map (·.name)) :
    (workbook.changed changes).sheet? name = workbook.sheet? name := by
  induction changes generalizing workbook with
  | nil => rfl
  | cons change changes induction =>
      rw [List.map_cons, List.mem_cons, not_or] at untouched
      exact (induction _ untouched.2).trans (change.sheet?_apply_other workbook untouched.1)

theorem sheet?_changed_of_last (workbook : Workbook) (earlier : List Change) (change : Change)
    {later : List Change} (last : change.name ∉ later.map (·.name)) :
    (workbook.changed (earlier ++ change :: later)).sheet? change.name =
      some (change.version (workbook.changed earlier)) := by
  rw [changed_append]
  exact (sheet?_changed_of_notMem _ last).trans (change.sheet?_apply_same _)

/-! ## Workbooks of a program -/

theorem nodup_of_load {store : WorkbookStore} {disk : Disk} {workbook : Workbook}
    (loaded : store.load disk = .ok workbook) : workbook.names.Nodup := by
  cases store with
  | spreadsheet path =>
      obtain ⟨book, _, read⟩ := SpreadsheetFile.load_eq_ok_iff.mp loaded
      obtain ⟨tables, _, rfl⟩ := Book.workbook_eq_ok_iff.mp read
      exact nodup_ofTables tables
  | directory path => exact SheetDirectory.nodup_of_load loaded

/-- A workbook that is empty, standard or loaded, and any workbook that changes make of one. -/
inductive Reachable : Workbook → Prop where
  | empty : Reachable .empty
  | standard : Reachable .standard
  | loaded {store : WorkbookStore} {disk : Disk} {workbook : Workbook}
      (loaded : store.load disk = .ok workbook) : Reachable workbook
  | changed {workbook : Workbook} (earlier : Reachable workbook) (change : Change) :
      Reachable (change.apply workbook)

theorem Reachable.nodup {workbook : Workbook} (reachable : workbook.Reachable) :
    workbook.names.Nodup := by
  induction reachable with
  | empty => exact List.nodup_nil
  | standard => decide
  | loaded loaded => exact nodup_of_load loaded
  | changed earlier change nodup => exact change.nodup_apply nodup

/-- What can be relied on in a workbook: its names are apart, each change leaves all sheets but one
alone, and lookups find what was last put under a name. -/
structure KeepsVersions (workbook : Workbook) : Prop where
  nodup : workbook.names.Nodup
  inserted : ∀ table, workbook.Takes table (workbook.insert table)
  fetched : ∀ (schema : Schema) table, workbook.sheet? schema.name = some table →
    workbook.sheetFor schema = table ∧ workbook.ensure schema = workbook
  created : ∀ schema : Schema, schema.name ∉ workbook.names →
    workbook.sheetFor schema = .ofSchema schema ∧
      workbook.ensure schema = ⟨workbook.sheets ++ [.ofSchema schema]⟩
  edited : ∀ schema edits, workbook.Takes ((workbook.sheetFor schema).edited edits)
    (workbook.update schema (·.edited edits))
  order : ∀ changes, (workbook.changed changes).names =
    (workbook.names ++ changes.map (·.name)).eraseDups
  latest : ∀ (earlier : List Change) (change : Change) (later : List Change),
    change.name ∉ later.map (·.name) →
    (workbook.changed (earlier ++ change :: later)).sheet? change.name =
      some (change.version (workbook.changed earlier))
  untouched : ∀ (changes : List Change) (name : String), name ∉ changes.map (·.name) →
    (workbook.changed changes).sheet? name = workbook.sheet? name

theorem keepsVersions_of_reachable {workbook : Workbook} (reachable : workbook.Reachable) :
    workbook.KeepsVersions where
  nodup := reachable.nodup
  inserted := takes_insert reachable.nodup
  fetched := by
    intro schema table found
    have isSheet := sheetFor_of_sheet? found
    have name := (mem_of_sheet? found).2
    refine ⟨isSheet, ?_⟩
    rw [ensure, isSheet]
    exact insert_of_sheet? (name ▸ found)
  created := by
    intro schema new
    have isNew := sheetFor_of_none (sheet?_eq_none_iff.mpr new)
    refine ⟨isNew, ?_⟩
    rw [ensure, isNew]
    exact insert_of_notMem new
  edited := fun schema edits => takes_insert reachable.nodup _
  order := names_changed reachable.nodup
  latest := fun earlier change _ => sheet?_changed_of_last workbook earlier change
  untouched := fun _ _ => sheet?_changed_of_notMem workbook

/-- The report is added to an empty workbook and a cell of it is written. Fetched again it is what it
was; a new sheet comes last, and the second version of it stays in the place of the first. -/
theorem keepsVersions_of_reachable_report :
    let workbook := (Change.fetch .report [.write ⟨⟨1⟩, 0, .text "food"⟩]).apply .empty
    let report : Table := ⟨"Report", [[.text "Category", .text "Total"], [.text "food"]]⟩
    let notes : Change := .insert ⟨"Notes", []⟩
    let renewed : Change := .insert ⟨"Notes", [[.text "paid"]]⟩
    let after := workbook.changed [notes, .fetch .auth [], renewed, .fetch .report []]
    workbook.Reachable ∧ workbook.names.Nodup ∧ workbook.sheetFor .report = report ∧
      workbook.ensure .report = workbook ∧
      workbook.ensure .auth = ⟨[report, .ofSchema .auth]⟩ ∧
      after.names = ["Report", "Notes", "Auth"] ∧
      after.sheet? "Notes" = some ⟨"Notes", [[.text "paid"]]⟩ ∧
      after.sheet? "Report" = some report := by
  intro workbook report notes renewed after
  have reachable : workbook.Reachable := .changed .empty _
  have keeps := keepsVersions_of_reachable reachable
  have fetched := keeps.fetched .report report (by decide)
  exact ⟨reachable, keeps.nodup, fetched.1, fetched.2, (keeps.created .auth (by decide)).2,
    keeps.order [notes, .fetch .auth [], renewed, .fetch .report []],
    keeps.latest [notes, .fetch .auth []] renewed [.fetch .report []] (by decide),
    keeps.latest [notes, .fetch .auth [], renewed] (.fetch .report []) [] (by decide)⟩

end Workbook

end SheetPost
