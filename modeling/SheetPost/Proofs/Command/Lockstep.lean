import SheetPost.Proofs.Command.Requests
import SheetPost.Proofs.Posting.Lockstep
import SheetPost.Proofs.Store.OneSheet

namespace SheetPost

open Conversation Conversing

/-! ## Workbooks that have all but an account in common -/

/-- Two workbooks that differ in the email and the password on row 2 of the Auth sheet at most. -/
structure Workbook.SameButAccount (workbook other : Workbook) : Prop where
  others : ∀ name ≠ Schema.auth.name, workbook.sheet? name = other.sheet? name
  auth : ∀ row column, row ≠ AuthSheet.valuesRow ∨
      column ≠ AuthSheet.emailColumn ∧ column ≠ AuthSheet.passwordColumn →
    (workbook.sheetFor .auth).get row column = (other.sheetFor .auth).get row column

namespace Workbook.SameButAccount

variable {workbook other : Workbook}

theorem sheetFor (same : workbook.SameButAccount other) {schema : Schema}
    (apart : schema.name ≠ Schema.auth.name) : workbook.sheetFor schema = other.sheetFor schema := by
  rw [Workbook.sheetFor, Workbook.sheetFor, same.others schema.name apart]

theorem mem_names (same : workbook.SameButAccount other) {name : String}
    (apart : name ≠ Schema.auth.name) : name ∈ workbook.names ↔ name ∈ other.names := by
  rw [Workbook.mem_names, Workbook.mem_names, same.others name apart]

theorem token? (same : workbook.SameButAccount other) : workbook.token? = other.token? := by
  have cell := same.auth AuthSheet.valuesRow AuthSheet.tokenColumn (.inr ⟨by decide, by decide⟩)
  unfold Workbook.token? AuthSheet.session? Session.of?
  rw [cell]
  split <;> rfl

end Workbook.SameButAccount

namespace Frame

variable {frame : Frame} {directory : String} {workbook other : Workbook}

/-! ## What two directories have to have in common -/

structure BothLoad (directory : String) (workbook other : Workbook) (left right : Disk) : Prop where
  sound : left.Sound ∧ right.Sound
  loads : SheetDirectory.load directory left = .ok workbook
  loadsToo : SheetDirectory.load directory right = .ok other

section Steps

variable {α : Type} {first last : Disk → Disk → Prop}

theorem load_lockstep (stored : frame.store = .directory directory)
    {next nextToo : Workbook → Running α}
    (later : Lockstep (BothLoad directory workbook other) last (next workbook) (nextToo other)) :
    Lockstep (BothLoad directory workbook other) last (frame.load >>= next)
      (frame.load >>= nextToo) := by
  intro left right answers both
  have loaded : frame.load left = (.ok workbook, left) :=
    load_apply (by rw [stored]; exact both.loads)
  have loadedToo : frame.load right = (.ok other, right) :=
    load_apply (by rw [stored]; exact both.loadsToo)
  rw [bind_ok loaded, bind_ok loadedToo]
  exact later left right answers both

theorem session_lockstep (same : workbook.token? = other.token?)
    {next nextToo : Session → Running α}
    (later : ∀ found foundToo : Session, found.token = foundToo.token →
      Lockstep first last (next found) (nextToo foundToo))
    (weaker : ∀ left right, first left right → last left right) :
    Lockstep first last (session workbook >>= next) (session other >>= nextToo) := by
  unfold Workbook.token? at same
  unfold session
  cases found : AuthSheet.session? (workbook.sheetFor .auth) with
  | none =>
      cases foundToo : AuthSheet.session? (other.sheetFor .auth) with
      | none =>
          exact fun left right answers stores =>
            ⟨_, left, right, rfl, rfl, answers, weaker _ _ stores, [], by simp, by simp⟩
      | some session =>
          rw [found, foundToo] at same
          cases same
  | some session =>
      cases foundToo : AuthSheet.session? (other.sheetFor .auth) with
      | none =>
          rw [found, foundToo] at same
          cases same
      | some sessionToo =>
          rw [found, foundToo] at same
          exact later session sessionToo (Option.some.inj same)

theorem print_lockstep (lines : List String) : Lockstep first first (print lines) (print lines) :=
  .forM (fun _ => .record _) lines

theorem withWorkbook_lockstep {ε : Type} {related : Workbook × Disk → Workbook × Disk → Prop}
    {action actionToo : Conversing ε (Workbook × Disk) α}
    (enters : ∀ left right, first left right → related (workbook, left) (other, right))
    (steps : Lockstep related related action actionToo)
    (leaves : ∀ held heldToo, related held heldToo → last held.2 heldToo.2) :
    Lockstep first last (withWorkbook workbook action) (withWorkbook other actionToo) := by
  intro left right answers stores
  rcases steps { left with store := (workbook, left.store) }
    { right with store := (other, right.store) } answers (enters _ _ stores) with
    ⟨result, _, _, ran, ranToo, abreast⟩
  exact ⟨result, _, _, withWorkbook_apply ran, withWorkbook_apply ranToo, abreast.answers,
    leaves _ _ abreast.stores, abreast.journal⟩

end Steps

/-! ## Posting -/

structure Savable (directory name : String) (held : Workbook × Disk) : Prop where
  sound : held.2.Sound
  listed : name ∈ held.1.names
  loads : ∃ loaded, SheetDirectory.load directory held.2 = .ok loaded ∧
    loaded.names = held.1.names

theorem statusSink_alike (directory : String) (schema : Schema) (column : Nat) :
    StatusSink.Alike
      (fun held heldToo => Savable directory schema.name held ∧ Savable directory schema.name heldToo)
      (statusSink (.directory directory) schema column)
      (statusSink (.directory directory) schema column) := by
  have writes (held : Workbook × Disk) (row : RowPosition) (status : String)
      (savable : Savable directory schema.name held) : ∃ after,
      (statusSink (.directory directory) schema column).write row status held = (.ok (), after) ∧
        Savable directory schema.name after := by
    rcases savable with ⟨sound, listed, loads⟩
    let change (table : Table) : Table := table.set row column (.ofText status)
    have names : (held.1.update schema change).names = held.1.names := by
      have same : (change (held.1.sheetFor schema)).name = schema.name :=
        Workbook.name_sheetFor held.1 schema
      rw [Workbook.update, Workbook.names_insert, same, if_pos listed]
    exact ⟨(held.1.update schema change, held.2), rfl, sound, names ▸ listed, names ▸ loads⟩
  have saves (held : Workbook × Disk) (savable : Savable directory schema.name held) : ∃ after,
      (statusSink (.directory directory) schema column).flush held = (.ok (), after) ∧
        Savable directory schema.name after := by
    rcases savable with ⟨sound, listed, loaded, loads, names⟩
    rcases SheetDirectory.save_over sound loads names.symm with ⟨after, saved, soundAfter, again⟩
    exact ⟨(held.1, after), flush_apply _ _ (Step.adapt_apply _ saved), soundAfter, listed,
      _, again, Workbook.names_reread _⟩
  constructor
  · rintro row status held heldToo ⟨savable, savableToo⟩
    rcases writes held row status savable with ⟨after, ran, kept⟩
    rcases writes heldToo row status savableToo with ⟨afterToo, ranToo, keptToo⟩
    exact ⟨_, _, _, ran, ranToo, kept, keptToo⟩
  · rintro held heldToo ⟨savable, savableToo⟩
    rcases saves held savable with ⟨after, ran, kept⟩
    rcases saves heldToo savableToo with ⟨afterToo, ranToo, keptToo⟩
    exact ⟨_, _, _, ran, ranToo, kept, keptToo⟩

theorem post_lockstep {kind : PostedSheet} (options : SyncOptions) (skipProcessed : Bool)
    {announce : Table → Extraction kind.Record → Running Unit}
    (announces : ∀ sheet extraction, Lockstep (BothLoad directory workbook other)
      (BothLoad directory workbook other) (announce sheet extraction) (announce sheet extraction))
    (stored : frame.store = .directory directory) (same : workbook.SameButAccount other) :
    let posting := post kind.Record frame skipProcessed announce
      fun dispatcher extraction sink => kind.dispatch dispatcher extraction options sink
    Lockstep (BothLoad directory workbook other) (fun _ _ => True) posting posting := by
  have apart : kind.schema.name ≠ Schema.auth.name := by cases kind <;> decide
  have sheets := same.sheetFor apart
  refine load_lockstep stored (session_lockstep same.token? (fun found foundToo token => ?_)
    fun _ _ _ => trivial)
  dsimp only
  rw [sheets]
  cases empty : (kind.extraction other (skipProcessed || frame.settings.skipProcessed)).isEmpty with
  | true => exact (print_lockstep _).weaken fun _ _ _ => trivial
  | false =>
      rw [if_neg Bool.false_ne_true, stored]
      have there := there_of_extraction empty
      have listed : kind.schema.name ∈ other.names := Workbook.mem_names.mpr ⟨_, there⟩
      refine (announces _ _).bind_weaken (fun _ => ?_) fun _ _ _ => trivial
      refine Lockstep.bind ?_ fun report => print_lockstep _
      refine (withWorkbook_lockstep ?_ (kind.dispatch_lockstep token
        (statusSink_alike directory kind.schema kind.statusColumn) _ options)
        fun _ _ _ => trivial).failingAs _
      rintro left right ⟨⟨sound, soundToo⟩, loads, loadsToo⟩
      exact ⟨⟨sound, (same.mem_names apart).mpr listed, workbook, loads, rfl⟩,
        soundToo, listed, other, loadsToo, rfl⟩

/-! ## The other commands -/

theorem save_lockstep (stored : frame.store = .directory directory) {table : Table}
    (named : Disk.IsName (SheetDirectory.fileName table.name)) (some : table.name ≠ "")
    (known : table.name ∈ workbook.names ↔ table.name ∈ other.names) :
    Lockstep (BothLoad directory workbook other) (fun _ _ => True)
      (frame.save (workbook.insert table)) (frame.save (other.insert table)) := by
  rcases SheetDirectory.save_insert_result directory named some with ⟨error, decided⟩
  rw [save, save, stored]
  refine .onStore _ fun left right both => ?_
  have same : (SheetDirectory.save directory (workbook.insert table) left).1 =
      (SheetDirectory.save directory (other.insert table) right).1 := by
    rw [decided both.sound.1 both.loads, decided both.sound.2 both.loadsToo]
    simp only [known]
  let wrap := StoreError.during ("Failed to save workbook: " ++ directory)
  cases ran : SheetDirectory.save directory (workbook.insert table) left with
  | mk result after =>
      cases ranToo : SheetDirectory.save directory (other.insert table) right with
      | mk resultToo afterToo =>
          rw [ran, ranToo] at same
          cases same
          exact ⟨_, _, _, Step.adapt_apply wrap ran, Step.adapt_apply wrap ranToo, trivial⟩

theorem report_lockstep (first? last? : Option Date) (stored : frame.store = .directory directory)
    (same : workbook.SameButAccount other) :
    Lockstep (BothLoad directory workbook other) (fun _ _ => True)
      (frame.report first? last?) (frame.report first? last?) := by
  have apart : Schema.report.name ≠ Schema.auth.name := by decide
  unfold report
  dsimp only
  split
  · exact (Lockstep.of_result (.error _)).weaken fun _ _ _ => trivial
  refine load_lockstep stored (session_lockstep same.token? (fun found foundToo token => ?_)
    fun _ _ _ => trivial)
  refine ((frame.client.fetchSummary_lockstep token _ _).failingAs _).bind_weaken (fun totals => ?_)
    fun _ _ _ => trivial
  refine Lockstep.bind ?_ fun _ => print_lockstep _
  let table := renderSummary totals (other.sheetFor .report)
  have name : table.name = Schema.report.name := Workbook.name_sheetFor other .report
  have saved : Lockstep (BothLoad directory workbook other) (fun _ _ => True)
      (frame.save (workbook.insert table)) (frame.save (other.insert table)) :=
    save_lockstep stored (name ▸ SheetDirectory.isName_known .report (by decide))
      (name ▸ by decide) (name ▸ same.mem_names apart)
  rw [Workbook.update, same.sheetFor apart]
  exact saved

theorem fetchList_lockstep {α : Type} {related : Disk → Disk → Prop} {session sessionToo : Session}
    (same : session.token = sessionToo.token) (operation : Operation)
    (item? : Reading → Option α) :
    Lockstep related related (frame.fetchList session operation item?)
      (frame.fetchList sessionToo operation item?) := by
  refine ((frame.client.execute_lockstep_of_token operation same).failingAs _).bind fun reply => ?_
  split
  · split
    · exact .of_result (.ok _)
    · exact .of_result (.error _)
  · exact .of_result (.error _)

theorem list_lockstep (listing : Listing) (json : Bool)
    (stored : frame.store = .directory directory) (same : workbook.SameButAccount other) :
    Lockstep (BothLoad directory workbook other) (fun _ _ => True)
      (frame.list listing json) (frame.list listing json) := by
  refine load_lockstep stored (session_lockstep same.token? (fun found foundToo token => ?_)
    fun _ _ _ => trivial)
  cases listing with
  | transactions =>
      exact ((fetchList_lockstep token _ _).bind fun _ => print_lockstep _).weaken
        fun _ _ _ => trivial
  | budgets =>
      exact ((fetchList_lockstep token _ _).bind fun _ => print_lockstep _).weaken
        fun _ _ _ => trivial

theorem ping_lockstep {related : Disk → Disk → Prop} (frame : Frame) :
    Lockstep related related frame.ping frame.ping := by
  refine ((frame.client.execute_lockstep .ping rfl).failingAs _).bind fun reply => ?_
  split
  · exact print_lockstep _
  · exact .of_result (.error _)

end Frame

def Command.asksGateway : Command → Bool
  | .syncTransactions _ | .syncBudgets _ | .report .. | .list .. | .ping => true
  | .register | .login _ | .logout | .loginStatus | .showSettings | .writeSettings
  | .createWorkbook _ => false

/-- A command that asks the gateway does the same over both directories. -/
theorem Frame.run_lockstep {frame : Frame} {directory : String} {workbook other : Workbook}
    {command : Command} (asks : command.asksGateway = true)
    (stored : frame.store = .directory directory) (same : workbook.SameButAccount other) :
    Lockstep (BothLoad directory workbook other) (fun _ _ => True) (frame.run command)
      (frame.run command) := by
  cases command with
  | syncTransactions flags =>
      rw [frame.run_syncTransactions flags]
      exact post_lockstep _ _ (fun _ _ => .record _) stored same
  | syncBudgets skipProcessed =>
      rw [frame.run_syncBudgets skipProcessed ⟨false, 0, false⟩]
      exact post_lockstep _ _ (fun _ _ => .of_result (.ok ())) stored same
  | report first? last? => exact report_lockstep first? last? stored same
  | list listing json => exact list_lockstep listing json stored same
  | ping => exact (ping_lockstep frame).weaken fun _ _ _ => trivial
  | _ => cases asks

end SheetPost
