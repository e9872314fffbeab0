import SheetPost.Proofs.Command.Posting
import SheetPost.Proofs.Posting.Record
import SheetPost.Proofs.Spreadsheet.Fitting

namespace SheetPost

open Conversation Conversing Book

theorem WorkbookStore.fileName?_of_ofPath {location path : String}
    (isFile : ofPath location = .spreadsheet path) : ∃ name, Path.fileName? path = some name := by
  unfold ofPath at isFile
  split at isFile
  · next name named =>
      split at isFile
      · cases isFile
        exact ⟨name, named⟩
      · cases isFile
  · cases isFile

namespace Frame

/-! ## A sink on a spreadsheet file -/

variable {path name : String} {workbook : Workbook} {schema : Schema}

/-- The workbook at hand is the one that was loaded with this sheet put in, and there is a file. -/
structure AtHand (path : String) (workbook : Workbook) (schema : Schema) (sheet : Table)
    (held : Workbook × Disk) : Prop where
  name : sheet.name = schema.name
  inserted : held.1 = workbook.insert sheet
  readable : ∃ content, held.2.read path = .ok content

/-- And the file shows the cells of the sheet, as far as a file can show them. -/
structure Filed (path : String) (workbook : Workbook) (schema : Schema) (sheet : Table)
    (held : Workbook × Disk) : Prop where
  atHand : AtHand path workbook schema sheet held
  shows : ∃ settled, SpreadsheetFile.load path held.2 = .ok settled ∧
    (InPlace sheet → ∀ row column, (sheet.get row column).Plain → (sheet.get row column).InFile →
      (settled.sheetFor schema).get row column = sheet.get row column)

theorem filed_of_save {sheet : Table} {before after : Disk} (name : sheet.name = schema.name)
    (saved : SpreadsheetFile.save path (workbook.insert sheet) before = (.ok (), after)) :
    Filed path workbook schema sheet (workbook.insert sheet, after) := by
  have member := (Workbook.mem_of_sheet? (workbook.sheet?_insert_same sheet)).1
  rcases SpreadsheetFile.saved_sheets (List.ne_nil_of_mem member) saved with
    ⟨settled, loads, _, each⟩
  rcases each sheet member with ⟨read, stored, found, written, reads⟩
  rcases SpreadsheetFile.save_eq_ok_iff.mp saved with ⟨book, _, _, wrote⟩
  have isRead : settled.sheetFor schema = read := Workbook.sheetFor_of_sheet? (name ▸ found)
  refine ⟨⟨name, rfl, _, Disk.read_of_write wrote⟩, settled, loads, ?_⟩
  intro inPlace row column plain inFile
  rw [isRead]
  exact (read_same_iff written reads inPlace plain).mpr inFile

theorem filed_of_load {disk : Disk} (loads : SpreadsheetFile.load path disk = .ok workbook)
    (there : workbook.sheet? schema.name = some (workbook.sheetFor schema)) :
    Filed path workbook schema (workbook.sheetFor schema) (workbook, disk) := by
  have name : (workbook.sheetFor schema).name = schema.name := Workbook.name_sheetFor _ _
  rcases SpreadsheetFile.load_eq_ok_iff.mp loads with ⟨_, read, _⟩
  exact ⟨⟨name, (Workbook.insert_of_sheet? (name ▸ there)).symm, _, read⟩, workbook, loads,
    fun _ _ _ _ _ => rfl⟩

theorem statusSink_keepsFitting (named : Path.fileName? path = some name) (workbook : Workbook)
    (schema : Schema) (column : Nat) :
    (statusSink (.spreadsheet path) schema column).KeepsFitting column
      (fun sheet => (workbook.insert sheet).Fits) (AtHand path workbook schema)
      (Filed path workbook schema) where
  write := by
    rintro sheet ⟨book, disk⟩ row status ⟨name, rfl, readable⟩
    have updated : (workbook.insert sheet).update schema (·.set row column (.ofText status)) =
        workbook.insert (sheet.set row column (.ofText status)) :=
      workbook.update_insert name rfl
    exact ⟨_, rfl, name, updated, readable⟩
  flush := by
    rintro sheet ⟨book, disk⟩ ⟨name, rfl, _, found⟩ fits
    rcases SpreadsheetFile.save_of_fits fits (Disk.write_of_read named found) with ⟨after, saved⟩
    exact ⟨_, flush_apply _ _ (Step.adapt_apply _ saved), filed_of_save name saved⟩
  refuse := by
    rintro sheet ⟨book, disk⟩ ⟨name, rfl, _⟩ notFit
    cases saved : SpreadsheetFile.save path (workbook.insert sheet) disk with
    | mk result after =>
        cases result with
        | ok value => exact absurd (SpreadsheetFile.fits_of_save saved) notFit
        | error error => exact ⟨_, _, flush_apply _ _ (Step.adapt_apply _ saved)⟩
  written_of_kept filed := filed.atHand

end Frame

/-! ## Rows of data are in reach -/

namespace PostedSheet

variable {kind : PostedSheet}

theorem isTruthy_of_ofRow? {cells : List Cell} {record : kind.Record}
    (made : SheetRecord.ofRow? cells = some record) : (cellAt cells 0).isTruthy = true := by
  cases kind with
  | transactions =>
      rcases Option.bind_eq_some_iff.mp made with ⟨amount, read, _⟩
      exact (Cell.holdsAmount_iff.mp (requiredNumber?_eq_some_iff.mp read)).1
  | budgets =>
      rcases Option.bind_eq_some_iff.mp made with ⟨category, read, _⟩
      exact (requiredText?_eq_some_iff.mp read).1

theorem holdsBeside_of_mem_rows {sheet : Table} {skipProcessed : Bool} {row : RowPosition}
    (member : row ∈ (extract kind.Record sheet skipProcessed).rows) :
    sheet.HoldsBeside kind.statusColumn row := by
  rcases List.mem_map.mp member with ⟨entry, found, rfl⟩
  rcases Extraction.row_of_mem found with ⟨_, cells, there, made⟩
  refine ⟨0, ?_, ?_⟩
  · cases kind <;> decide
  · rw [Table.get, there]
    exact isTruthy_of_ofRow? made

theorem statusColumn_near (kind : PostedSheet) : kind.statusColumn < columnLimit := by
  cases kind <;> decide

/-- How a run over a spreadsheet file has gone: it got through its saves exactly if nothing was
written, or a workbook with the early statuses fits and no status is too long; and then the file
shows what became of every row that was answered. -/
structure SavedAlong (kind : PostedSheet) (path : String) (workbook : Workbook)
    (answers : List Answer) (opening : Nat) (extraction : Extraction kind.Record)
    (events : List Event) (unsaved : Prop) (after : Disk) : Prop where
  saved_iff : ¬unsaved ↔ statusesIn events = [] ∨
    (workbook.insert ((workbook.sheetFor kind.schema).marked kind.statusColumn
      (earlyStatusesIn events))).Fits ∧
    ∀ entry ∈ statusesIn events, entry.2.length ≤ textLimit
  shows : ¬unsaved → ∃ settled, SpreadsheetFile.load path after = .ok settled ∧
    (InPlace (workbook.sheetFor kind.schema) → ∀ row outcome,
      kind.Answered answers opening (requestsIn events).length extraction row outcome →
      outcome.ShownBy ((settled.sheetFor kind.schema).get row kind.statusColumn))

theorem SavedAlong.nothing {path : String} {workbook : Workbook} {answers : List Answer}
    {opening : Nat} {extraction : Extraction kind.Record} {events : List Event} {unsaved : Prop}
    {after : Disk} (goesOn : ¬unsaved) (silent : events = [])
    (loads : SpreadsheetFile.load path after = .ok workbook) :
    kind.SavedAlong path workbook answers opening extraction events unsaved after := by
  subst silent
  refine ⟨iff_of_true goesOn (.inl rfl), fun _ => ⟨workbook, loads, ?_⟩⟩
  intro _ row outcome answered
  cases answered with
  | alone _ reached => cases reached
  | together _ reached => cases reached

theorem saved_iff_of_saves {σ : Type} {workbook : Workbook} {sheet : Table} {column : Nat}
    {kept : Table → σ → Prop} {early statuses : List (RowPosition × String)} {unsaved : Prop}
    {after : σ}
    (saves : Dispatcher.Saves column (fun sheet => (workbook.insert sheet).Fits) kept sheet early
      statuses unsaved after)
    (initial : early <+: statuses) (told : statuses ≠ [] → early ≠ [])
    (near : column < columnLimit) (nodup : (statuses.map (·.1)).Nodup)
    (holds : ∀ entry ∈ statuses, sheet.HoldsBeside column entry.1) :
    ¬unsaved ↔ statuses = [] ∨
      (workbook.insert (sheet.marked column early)).Fits ∧
      ∀ entry ∈ statuses, entry.2.length ≤ textLimit := by
  constructor
  · intro goesOn
    by_cases silent : statuses = []
    · exact .inl silent
    have fits (sofar : List (RowPosition × String)) (nonempty : sofar ≠ []) (late : early <+: sofar)
        (inTime : sofar <+: statuses) : (workbook.insert (sheet.marked column sofar)).Fits := by
      by_contra notFit
      exact goesOn (saves.unsaved_iff.mpr ⟨sofar, nonempty, late, inTime, notFit⟩)
    refine .inr ⟨fits early (told silent) List.prefix_rfl initial, fun entry member => ?_⟩
    exact (fits statuses silent initial List.prefix_rfl).inserted.length_le nodup member
  · rintro getsThrough unsaved
    rcases saves.unsaved_iff.mp unsaved with ⟨sofar, nonempty, ⟨more, rfl⟩, inTime, notFit⟩
    rcases getsThrough with silent | ⟨fits, short⟩
    · rw [silent] at inTime
      exact nonempty (List.prefix_nil.mp inTime)
    · have members : ∀ entry ∈ more, entry ∈ statuses := fun entry member =>
        inTime.subset (List.mem_append_right _ member)
      rw [Table.marked_append] at notFit
      refine notFit (fits.insert (Table.name_marked _ _ _) (fits.inserted.marked near ?_ ?_))
      · exact fun entry member => (holds entry (members entry member)).marked _
      · exact fun entry member => short entry (members entry member)

theorem WayPosted.savedAlong {path name : String} {workbook : Workbook} {skipProcessed : Bool}
    {dispatcher : Dispatcher} {options : SyncOptions} {answers : List Answer} {disk : Disk}
    {after : Workbook × Disk} {events : List Event} {result : Except Failure SyncReport}
    (named : Path.fileName? path = some name)
    (loads : SpreadsheetFile.load path disk = .ok workbook)
    (filled : (kind.extraction workbook skipProcessed).isEmpty = false)
    (way : WayPosted dispatcher
      (Frame.statusSink (.spreadsheet path) kind.schema kind.statusColumn) options answers
      (workbook, disk) kind (kind.extraction workbook skipProcessed) events result after) :
    kind.SavedAlong path workbook answers
      (kind.opening dispatcher (kind.extraction workbook skipProcessed) options).length
      (kind.extraction workbook skipProcessed) events (Dispatcher.Unsaved result) after.2 := by
  have keeps := Frame.statusSink_keepsFitting named workbook kind.schema kind.statusColumn
  have filed := Frame.filed_of_load loads (Frame.there_of_extraction filled)
  have saves := way.saves keeps (Extraction.rows_ne_nil filled) filed
  have initial := way.statuses_initial
  have nodup : ((statusesIn events).map (·.1)).Nodup :=
    initial.sublist.nodup (Extraction.rows_nodup _ _)
  have holds : ∀ entry ∈ statusesIn events,
      (workbook.sheetFor kind.schema).HoldsBeside kind.statusColumn entry.1 := fun entry member =>
    holdsBeside_of_mem_rows (initial.subset (List.mem_map_of_mem member))
  refine ⟨saved_iff_of_saves saves (earlyStatusesIn_initial events) (way.early_ne_nil keeps filed)
    kind.statusColumn_near nodup holds, fun goesOn => ?_⟩
  rcases (saves.kept goesOn).shows with ⟨settled, loadsAfter, shows⟩
  refine ⟨settled, loadsAfter, fun inPlace row outcome answered => ?_⟩
  rcases way.answered keeps filed answered with ⟨status, told, member⟩
  have cell := Table.get_marked_of_mem (workbook.sheetFor kind.schema) kind.statusColumn nodup
    member
  have same := shows (Table.inPlace_marked inPlace kind.statusColumn_near holds) row
    kind.statusColumn
  rw [cell] at same
  rw [same (Cell.plain_ofText status) (Cell.inFile_ofText status)]
  exact Outcome.shownBy_ofText answered.decided.hasStatus told

end PostedSheet

/-! ## A whole run -/

def Command.skipsProcessed : Command → Bool
  | .syncTransactions flags => flags.skipProcessed
  | .syncBudgets skipProcessed => skipProcessed
  | _ => false

namespace Frame

open PostedSheet

variable {path name : String} {workbook : Workbook} {kind : PostedSheet} {opening : Nat}
variable {skips : Bool}

def Unsaved (result : Except Problem Unit) : Prop :=
  ∃ problem error, result = .error problem ∧ problem.failure? = some (.statusNotWritten error)

theorem not_unsaved_ok : ¬Unsaved (.ok ()) := by
  rintro ⟨_, _, ⟨⟩, _⟩

theorem unsaved_error_iff {activity : String} {failure : Failure} :
    Unsaved (.error (.during activity (.failed failure))) ↔
      Dispatcher.Unsaved (.error failure : Except Failure SyncReport) := by
  simp [Unsaved, Dispatcher.Unsaved, Problem.failure?]

def SavesAlong (path : String) (workbook : Workbook) (kind : PostedSheet) (opening : Nat)
    (skips : Bool) (before : Conversation Disk)
    (ended : Except Problem Unit × Conversation Disk) : Prop :=
  ∃ events, Adds before ended.2 events ∧
    kind.SavedAlong path workbook before.answers opening (kind.extraction workbook skips) events
      (Unsaved ended.1) ended.2.store

theorem SavesAlong.of_remarked {before after : Conversation Disk} {result : Except Problem Unit}
    (remarked : Remarked before after) (goesOn : ¬Unsaved result)
    (loads : SpreadsheetFile.load path before.store = .ok workbook) :
    SavesAlong path workbook kind opening skips before (result, after) :=
  ⟨[], remarked.adds, .nothing goesOn rfl (remarked.store ▸ loads)⟩

theorem SavesAlong.after_remarks {before middle : Conversation Disk}
    {ended : Except Problem Unit × Conversation Disk} (remarked : Remarked before middle)
    (saves : SavesAlong path workbook kind opening skips middle ended) :
    SavesAlong path workbook kind opening skips before ended := by
  rcases saves with ⟨events, adds, along⟩
  exact ⟨events, remarked.adds.trans adds, remarked.answers ▸ along⟩

theorem dispatch_saves (dispatcher : Dispatcher) (options : SyncOptions) (activity : String)
    {say : SyncReport → Running Unit} (tells : ∀ report, Tells (say report))
    {before : Conversation Disk} (named : Path.fileName? path = some name)
    (loads : SpreadsheetFile.load path before.store = .ok workbook)
    (filled : (kind.extraction workbook skips).isEmpty = false) :
    SavesAlong path workbook kind
      (kind.opening dispatcher (kind.extraction workbook skips) options).length skips before
      ((failingAs (fun failure => .during activity (.failed failure))
        (withWorkbook workbook (kind.dispatch dispatcher (kind.extraction workbook skips) options
          (statusSink (.spreadsheet path) kind.schema kind.statusColumn))) >>= say) before) := by
  rcases dispatch_way dispatcher (statusSink (.spreadsheet path) kind.schema kind.statusColumn)
    options kind (kind.extraction workbook skips)
    { before with store := (workbook, before.store) } with
    ⟨events, result, after, ran, way, added, journal, effects⟩
  have along := way.savedAlong named loads filled
  have adds : Adds before { after with store := after.store.2 } events := ⟨added, journal, effects⟩
  have wrapped := failingAs_apply (fun failure => Problem.during activity (.failed failure))
    (withWorkbook_apply ran)
  cases result with
  | error failure =>
      rw [bind_error wrapped]
      refine ⟨events, adds, ?_⟩
      have stopped : Unsaved (.error (.during activity (.failed failure))) ↔
          Dispatcher.Unsaved (.error failure : Except Failure SyncReport) :=
        unsaved_error_iff
      rw [← stopped] at along
      exact along
  | ok report =>
      rcases tells report { after with store := after.store.2 } with ⟨last, ranSay, remarked⟩
      rw [(bind_ok wrapped).trans ranSay]
      refine ⟨events ++ [], adds.trans remarked.adds, ?_⟩
      have goesOn : Unsaved (.ok ()) ↔ Dispatcher.Unsaved (.ok report) :=
        iff_of_false not_unsaved_ok nofun
      rw [← goesOn] at along
      rw [List.append_nil, remarked.store]
      exact along

theorem session_cases (workbook : Workbook) (before : Conversation Disk) :
    (∃ found, AuthSheet.session? (workbook.sheetFor .auth) = some found ∧
        session workbook before = (.ok found, before)) ∨
      AuthSheet.session? (workbook.sheetFor .auth) = none ∧
        session workbook before = (.error (.failed .missingSession), before) := by
  unfold session
  cases AuthSheet.session? (workbook.sheetFor .auth) with
  | some found => exact .inl ⟨found, rfl, rfl⟩
  | none => exact .inr ⟨rfl, rfl⟩

theorem post_saves {frame : Frame} (options : SyncOptions) (skipProcessed : Bool)
    {announce : Table → Extraction kind.Record → Running Unit} {before : Conversation Disk}
    (opened : ∀ dispatcher extraction,
      (kind.opening dispatcher extraction options).length = opening)
    (tells : ∀ sheet extraction, Tells (announce sheet extraction))
    (stored : frame.store = .spreadsheet path)
    (loads : SpreadsheetFile.load path before.store = .ok workbook) :
    SavesAlong path workbook kind opening (skipProcessed || frame.settings.skipProcessed) before
      (post kind.Record frame skipProcessed announce
        (fun dispatcher extraction sink => kind.dispatch dispatcher extraction options sink)
        before) := by
  have loaded : frame.load before = (.ok workbook, before) :=
    load_apply (by rw [stored]; exact loads)
  rcases WorkbookStore.fileName?_of_ofPath stored with ⟨name, named⟩
  rw [post, bind_ok loaded]
  rcases session_cases workbook before with ⟨session, _, found⟩ | ⟨_, missing⟩
  · rw [bind_ok found]
    let skips := skipProcessed || frame.settings.skipProcessed
    cases empty : (kind.extraction workbook skips).isEmpty with
    | true =>
        rw [if_pos rfl]
        rcases print_tells [_] before with ⟨after, ran, remarked⟩
        rw [ran]
        exact .of_remarked remarked not_unsaved_ok loads
    | false =>
        rw [if_neg Bool.false_ne_true]
        rcases tells (workbook.sheetFor kind.schema) (kind.extraction workbook skips) before with
          ⟨middle, ran, remarked⟩
        rw [bind_ok ran, stored]
        refine .after_remarks remarked ?_
        have saves := dispatch_saves ⟨frame.client, session⟩ options
          (kind.schema.name ++ " sync failed")
          (fun report => print_tells (Display.reportLines kind.schema.name report)) named
          (remarked.store ▸ loads) empty
        rw [opened] at saves
        exact saves
  · rw [bind_error missing]
    refine .of_remarked (.refl _) ?_ loads
    rintro ⟨_, _, ⟨⟩, ⟨⟩⟩

theorem run_saves {frame : Frame} {command : Command} {bulk : Bool} {before : Conversation Disk}
    (posts : command.posting? = some (kind, bulk)) (stored : frame.store = .spreadsheet path)
    (loads : SpreadsheetFile.load path before.store = .ok workbook) :
    SavesAlong path workbook kind bulk.toNat
      (command.skipsProcessed || frame.settings.skipProcessed) before
      (frame.run command before) := by
  cases command with
  | syncTransactions flags =>
      cases posts
      rw [frame.run_syncTransactions flags]
      exact post_saves _ _ (frame.length_opening flags) announcement_tells stored loads
  | syncBudgets skipProcessed =>
      cases posts
      rw [frame.run_syncBudgets skipProcessed ⟨false, 0, false⟩]
      exact post_saves _ _ (fun _ _ => rfl) (fun _ _ => .nothing) stored loads
  | _ => cases posts

end Frame

theorem PostedSheet.SavedAlong.of_effects {kind : PostedSheet} {path : String} {workbook : Workbook}
    {answers : List Answer} {opening : Nat} {extraction : Extraction kind.Record}
    {added : List Event} {unsaved : Prop} {after : Disk}
    (along : kind.SavedAlong path workbook answers opening extraction (effectsIn added) unsaved
      after) :
    kind.SavedAlong path workbook answers opening extraction added unsaved after := by
  rcases along with ⟨saved, shows⟩
  rw [statusesIn_effectsIn, earlyStatusesIn_effectsIn] at saved
  rw [requestsIn_effectsIn] at shows
  exact ⟨saved, shows⟩

namespace Invocation

/-- A run that posts a sheet of a spreadsheet file gets through its saves exactly if it writes no
status, or a workbook with the first statuses in it fits and no status is too long; and then the
file shows what became of every row that was answered. -/
theorem run_saves_iff {invocation : Invocation} {around : Surroundings}
    {before middle : Conversation Disk} {frame : Frame} {path : String} {workbook : Workbook}
    {kind : PostedSheet} {bulk : Bool}
    (posts : invocation.command.posting? = some (kind, bulk))
    (found : invocation.frame around before = (.ok frame, middle))
    (stored : frame.store = .spreadsheet path)
    (loads : SpreadsheetFile.load path before.store = .ok workbook) :
    ∃ result after added, invocation.run around before = (result, after) ∧
      after.journal = before.journal ++ added ∧
      kind.SavedAlong path workbook before.answers bulk.toNat
        (kind.extraction workbook
          (invocation.command.skipsProcessed || frame.settings.skipProcessed))
        added (Frame.Unsaved result) after.store := by
  rcases run_of_frame found with ⟨noted, remarked, ran⟩
  rcases (Frame.run_saves posts stored (remarked.store ▸ loads)).after_remarks remarked with
    ⟨_, ⟨added, journal, rfl⟩, along⟩
  exact ⟨_, _, added, ran, journal, along.of_effects⟩

/-! ## Runs over a spreadsheet file with a note -/

def notedDisk (note : StoredCell) : Disk where
  workingDirectory := []
  entries := [(["k.xlsx"], .file (.book ⟨[
    ⟨"Auth", [((0, 0), .text "email"), ((0, 1), .text "password"), ((0, 2), .text "token"),
      ((1, 0), .text "a@b.c"), ((1, 2), .text "tok")]⟩,
    ⟨"Budgets", [((0, 0), .text "category"), ((0, 1), .text "limit"), ((0, 2), .text "status"),
      ((1, 0), .text "food"), ((1, 1), .number (.ofNat 200))]⟩,
    ⟨"Notes", [((0, 0), note)]⟩]⟩))]

def notedWorkbook (note : Cell) : Workbook :=
  ⟨[⟨"Auth", [[.text "email", .text "password", .text "token"],
      [.text "a@b.c", .empty, .text "tok"]]⟩,
    ⟨"Budgets", [[.text "category", .text "limit", .text "status"],
      [.text "food", .number (.ofNat 200), .empty]]⟩,
    ⟨"Notes", [[note]]⟩]⟩

def postFiledBudgets : Invocation :=
  { postBudgets with workbook := some "k.xlsx" }

theorem run_saves_iff_noted :
    let before : Conversation Disk :=
      ⟨[.replied 409 "exists"], [], notedDisk (.dateNumber (.ofNat 45658))⟩
    let run := postFiledBudgets.run bareSurroundings before
    ¬Frame.Unsaved run.1 ∧ ∃ settled, SpreadsheetFile.load "k.xlsx" run.2.store = .ok settled ∧
      (settled.sheetFor .budgets).get ⟨1⟩ 2 = .text "exists" := by
  intro before run
  let frame : Frame := ⟨{ Settings.standard with workbook := "k.xlsx" }, none, bareSurroundings⟩
  let workbook := notedWorkbook (.date ⟨2025, 1, 1, by decide⟩)
  have found : postFiledBudgets.frame bareSurroundings before =
      (.ok frame,
        { before with journal := [.noted .debug "No config file found, using defaults"] }) :=
    rfl
  have loads : SpreadsheetFile.load "k.xlsx" before.store = .ok workbook := by decide +kernel
  have stored : frame.store = .spreadsheet "k.xlsx" := by decide +kernel
  have posts : postFiledBudgets.command.posting? = some (.budgets, false) := rfl
  rcases run_saves_iff posts found stored loads with ⟨result, after, added, ran, journal, along⟩
  have same : run.2.journal = added := by
    have nothing : before.journal = [] := rfl
    rw [nothing, List.nil_append] at journal
    exact (congrArg (·.2.journal) ran).trans journal
  have statuses : statusesIn run.2.journal = [(⟨1⟩, "exists")] := by decide +kernel
  have early : earlyStatusesIn run.2.journal = [(⟨1⟩, "exists")] := by decide +kernel
  have sent : (requestsIn run.2.journal).length = 1 := by decide +kernel
  rw [same] at statuses early sent
  have goesOn : ¬Frame.Unsaved result := by
    apply along.saved_iff.mpr
    rw [statuses, early]
    refine .inr ⟨Workbook.fits_iff.mpr ⟨⟨[
      ⟨"Auth", [((0, 0), .text "email"), ((0, 1), .text "password"), ((0, 2), .text "token"),
        ((1, 0), .text "a@b.c"), ((1, 2), .text "tok")]⟩,
      ⟨"Budgets", [((0, 0), .text "category"), ((0, 1), .text "limit"), ((0, 2), .text "status"),
        ((1, 0), .text "food"), ((1, 1), .number (.ofNat 200)), ((1, 2), .text "exists")]⟩,
      ⟨"Notes", [((0, 0), .dateNumber (.ofNat 45658))]⟩]⟩, ?_, ?_⟩, ?_⟩ <;> decide +kernel
  rcases along.shows goesOn with ⟨settled, loadsAfter, shows⟩
  have inPlace : InPlace (workbook.sheetFor (PostedSheet.schema .budgets)) :=
    (keeps_of_forall_mem (by decide +kernel) (by decide +kernel)).inPlace
  let food : RowPosition × NewBudget := (⟨1⟩, ⟨"food", .ofNat 200⟩)
  have placed : (PostedSheet.extraction .budgets workbook false).entries[0]? = some food := by
    decide +kernel
  have decided : Dispatcher.verdict food.2 (Answer.nth before.answers 0) =
      .ok (.rejected "exists") := by
    decide +kernel
  have shown := shows inPlace food.1 _ (.alone placed (by rw [sent]; decide) decided)
  have isResult : run.1 = result := congrArg (·.1) ran
  have isAfter : run.2.store = after.store := congrArg (·.2.store) ran
  rw [isResult, isAfter]
  refine ⟨goesOn, settled, loadsAfter, ?_⟩
  rcases shown with ⟨impossible, _⟩ | ⟨_, ⟨⟩, _, cell⟩
  · cases impossible
  · exact cell

/-- A date of the year 10000 in another sheet is loaded and cannot be saved. The gateway has taken
the record, and the file does not show it. -/
theorem run_stops_at_save :
    let before : Conversation Disk :=
      ⟨[.replied 201 ""], [], notedDisk (.dateNumber (.ofNat 2958466))⟩
    let run := postFiledBudgets.run bareSurroundings before
    SpreadsheetFile.load "k.xlsx" before.store =
        .ok (notedWorkbook (.date ⟨10000, 1, 1, by decide⟩)) ∧
      (∃ after, before.store.write "k.xlsx" (.text "") = .ok after) ∧
      (requestsIn run.2.journal).length = 1 ∧ statusesIn run.2.journal = [(⟨1⟩, "OK")] ∧
      Frame.Unsaved run.1 ∧ run.2.store = before.store := by
  intro before run
  have told : (match run.1 with
      | .error problem => problem.failure?
      | .ok _ => none) = some (.statusNotWritten
        (.during "Failed to save workbook: k.xlsx" (.refused (.date 10000 1 1)))) := by
    decide +kernel
  have unsaved : Frame.Unsaved run.1 := by
    cases ended : run.1 with
    | ok value =>
        rw [ended] at told
        cases told
    | error problem =>
        rw [ended] at told
        exact ⟨problem, _, rfl, told⟩
  refine ⟨?_, ⟨⟨[], [(["k.xlsx"], .file (.text ""))]⟩, ?_⟩, ?_, ?_, unsaved, ?_⟩ <;> decide +kernel

end Invocation

end SheetPost
