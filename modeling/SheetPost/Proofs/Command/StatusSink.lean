import SheetPost.Command.Run
import SheetPost.Proofs.Posting.Keeping
import SheetPost.Proofs.Store.SheetDirectory

namespace SheetPost

namespace Frame

theorem statusSink_writesInto (store : WorkbookStore) (schema : Schema) (column : Nat) :
    (statusSink store schema column).WritesInto (fun held => held.1.sheetFor schema) column where
  written ran := by
    cases ran
    exact Workbook.sheetFor_update _ _ (Workbook.name_sheetFor _ _)
  failed ran := by cases ran
  flushed ran := by
    cases ran
    rfl

theorem flush_apply {store : WorkbookStore} (schema : Schema) (column : Nat) {workbook : Workbook}
    {before after : Disk} {result : Except StoreError Unit}
    (ran : saveTo store workbook before = (result, after)) :
    (statusSink store schema column).flush (workbook, before) = (result, (workbook, after)) := by
  change ((saveTo store workbook before).1, (workbook, (saveTo store workbook before).2)) = _
  rw [ran]

theorem withWorkbook_apply {ε α : Type} {workbook : Workbook}
    {action : Conversing ε (Workbook × Disk) α} {before : Conversation Disk}
    {after : Conversation (Workbook × Disk)} {result : Except ε α}
    (ran : action { before with store := (workbook, before.store) } = (result, after)) :
    withWorkbook workbook action before = (result, { after with store := after.store.2 }) := by
  unfold withWorkbook
  rw [ran]

/-! ## A sink on a directory -/

variable {directory : String} {workbook : Workbook} {schema : Schema}

/-- The workbook at hand is the one that was loaded with this sheet in its place, and the directory
has the same sheets. -/
structure Written (directory : String) (workbook : Workbook) (schema : Schema) (sheet : Table)
    (held : Workbook × Disk) : Prop where
  sound : held.2.Sound
  name : sheet.name = schema.name
  revised : workbook.Revised sheet held.1
  loads : ∃ loaded, SheetDirectory.load directory held.2 = .ok loaded ∧
    loaded.names = held.1.names

structure Saved (directory : String) (workbook : Workbook) (schema : Schema) (sheet : Table)
    (held : Workbook × Disk) : Prop where
  sound : held.2.Sound
  name : sheet.name = schema.name
  revised : workbook.Revised sheet held.1
  loads : SheetDirectory.load directory held.2 = .ok held.1.reread

theorem statusSink_keeps (directory : String) (workbook : Workbook) (schema : Schema)
    (column : Nat) :
    (statusSink (.directory directory) schema column).KeepsFitting column (fun _ => True)
      (Written directory workbook schema) (Saved directory workbook schema) where
  write := by
    rintro sheet ⟨book, disk⟩ row status held
    let change (table : Table) : Table := table.set row column (.ofText status)
    have revised : workbook.Revised (change sheet) (book.update schema change) :=
      held.revised.update held.name rfl
    rcases held.loads with ⟨loaded, loads, names⟩
    exact ⟨(book.update schema change, disk), rfl, held.sound, held.name, revised, loaded, loads,
      names.trans (held.revised.names.trans revised.names.symm)⟩
  flush := by
    rintro sheet ⟨book, disk⟩ held _
    rcases held.loads with ⟨loaded, loads, names⟩
    rcases SheetDirectory.save_over held.sound loads names.symm with ⟨after, saved, sound, again⟩
    exact ⟨(book, after), flush_apply _ _ (Step.adapt_apply _ saved), sound, held.name,
      held.revised, again⟩
  refuse _ refused := absurd trivial refused
  written_of_kept saved :=
    ⟨saved.sound, saved.name, saved.revised, _, saved.loads, Workbook.names_reread _⟩

end Frame

end SheetPost
