import SheetPost.Proofs.Command.Remarks
import SheetPost.Proofs.Command.StatusSink
import SheetPost.Proofs.Posting.Isolation

namespace SheetPost

open Conversation Conversing

/-- No mark of byte order stands at the front of a sheet. -/
def Workbook.Unmarked (workbook : Workbook) : Prop :=
  ∀ table ∈ workbook.sheets, (table.get ⟨0⟩ 0).shown.toList.head? ≠ some '\uFEFF'

theorem Workbook.Unmarked.asRead {workbook : Workbook} (unmarked : workbook.Unmarked)
    {directory : String} {disk : Disk}
    (loads : SheetDirectory.load directory disk = .ok workbook) :
    ∀ table ∈ workbook.sheets, table.AsRead :=
  fun table member => SheetDirectory.asRead_of_load loads member (unmarked table member)

def Command.posting? : Command → Option (PostedSheet × Bool)
  | .syncTransactions flags => some (.transactions, flags.bulk)
  | .syncBudgets _ => some (.budgets, false)
  | _ => none

namespace PostedSheet

abbrev schema (kind : PostedSheet) : Schema :=
  SheetRecord.schema kind.Record

abbrev statusColumn (kind : PostedSheet) : Nat :=
  SheetRecord.statusColumn kind.Record

abbrev extraction (kind : PostedSheet) (workbook : Workbook) (skipProcessed : Bool) :
    Extraction kind.Record :=
  extract kind.Record (workbook.sheetFor kind.schema) skipProcessed

/-- A workbook has become another one through the statuses that were written: each of them is the
text of an outcome that was decided, and its cell shows it, and all other cells are as before. -/
structure Settled (kind : PostedSheet) (opening : Nat) (answers : List Answer)
    (workbook : Workbook) (statuses : List (RowPosition × String)) (settled : Workbook) :
    Prop where
  names : settled.names = workbook.names
  others : ∀ name ≠ kind.schema.name, settled.sheet? name = workbook.sheet? name
  unwritten : ∀ row column, column ≠ kind.statusColumn ∨ row ∉ statuses.map (·.1) →
    (settled.sheetFor kind.schema).get row column = (workbook.sheetFor kind.schema).get row column
  written : ∃ skipProcessed, ∀ row status, (row, status) ∈ statuses →
    ∃ outcome, outcome.statusText? = some status ∧
      Decided answers opening kind (kind.extraction workbook skipProcessed) row outcome ∧
      outcome.ShownBy ((settled.sheetFor kind.schema).get row kind.statusColumn)

variable {kind : PostedSheet} {opening : Nat} {answers : List Answer} {workbook : Workbook}

theorem Settled.nothing : kind.Settled opening answers workbook [] workbook :=
  ⟨rfl, fun _ _ => rfl, fun _ _ _ => rfl, false, fun _ _ member => nomatch member⟩

theorem Settled.of_revised {settled : Workbook} {statuses : List (RowPosition × String)}
    {skipProcessed : Bool}
    (revised : workbook.Revised
      ((workbook.sheetFor kind.schema).marked kind.statusColumn statuses) settled)
    (name : ((workbook.sheetFor kind.schema).marked kind.statusColumn statuses).name =
      kind.schema.name)
    (initial : statuses.map (·.1) <+: (kind.extraction workbook skipProcessed).rows)
    (decided : ∀ row status, (row, status) ∈ statuses →
      ∃ outcome, outcome.statusText? = some status ∧
        Decided answers opening kind (kind.extraction workbook skipProcessed) row outcome) :
    kind.Settled opening answers workbook statuses settled := by
  have sheet := revised.sheetFor name
  refine ⟨revised.names, fun other different => revised.others other (name ▸ different), ?_,
    skipProcessed, ?_⟩
  · intro row column apart
    rw [sheet]
    exact Table.get_marked_other _ _ apart.symm
  · intro row status member
    rcases decided row status member with ⟨outcome, told, isDecided⟩
    have nodup : (statuses.map (·.1)).Nodup :=
      initial.sublist.nodup (Extraction.rows_nodup _ _)
    refine ⟨outcome, told, isDecided, ?_⟩
    rw [sheet, Table.get_marked_of_mem _ _ nodup member]
    exact Outcome.shownBy_ofText isDecided.hasStatus told

end PostedSheet

namespace Frame

open PostedSheet

/-! ## The workbook that was loaded, and the one that is there afterwards -/

variable {directory : String} {workbook : Workbook} {kind : PostedSheet} {opening : Nat}

/-- Since a moment at which a workbook was in a directory, it has changed by statuses alone. -/
def Leaves (directory : String) (workbook : Workbook) (kind : PostedSheet) (opening : Nat)
    (before after : Conversation Disk) : Prop :=
  ∃ events settled, Adds before after events ∧ after.store.Sound ∧
    SheetDirectory.load directory after.store = .ok settled ∧
    kind.Settled opening before.answers workbook (statusesIn events) settled

theorem Leaves.of_remarked {before after : Conversation Disk} (remarked : Remarked before after)
    (sound : before.store.Sound)
    (loads : SheetDirectory.load directory before.store = .ok workbook) :
    Leaves directory workbook kind opening before after :=
  ⟨[], workbook, remarked.adds, remarked.store ▸ sound, remarked.store ▸ loads, .nothing⟩

theorem Leaves.bind_of_remarks {ε α β : Type} {first : Conversing ε Disk α}
    {next : α → Conversing ε Disk β} {before : Conversation Disk} (remarks : Remarks first)
    (sound : before.store.Sound)
    (loads : SheetDirectory.load directory before.store = .ok workbook)
    (later : ∀ value middle, first before = (.ok value, middle) → middle.store = before.store →
      Leaves directory workbook kind opening middle (next value middle).2) :
    Leaves directory workbook kind opening before ((first >>= next) before).2 := by
  have remarked := remarks before
  cases ran : first before with
  | mk result middle =>
      rw [ran] at remarked
      cases result with
      | error error =>
          rw [bind_error ran]
          exact .of_remarked remarked sound loads
      | ok value =>
          rw [bind_ok ran]
          rcases later value middle ran remarked.store with
            ⟨events, settled, adds, soundAfter, loads, isSettled⟩
          exact ⟨events, settled, remarked.adds.trans adds, soundAfter, loads,
            remarked.answers ▸ isSettled⟩

theorem Leaves.then_remarks {ε α β : Type} {first : Conversing ε Disk α}
    {next : α → Conversing ε Disk β} {before : Conversation Disk}
    (leaves : Leaves directory workbook kind opening before (first before).2)
    (remarks : ∀ value, Remarks (next value)) :
    Leaves directory workbook kind opening before ((first >>= next) before).2 := by
  cases ran : first before with
  | mk result middle =>
      rw [ran] at leaves
      cases result with
      | error error =>
          rw [bind_error ran]
          exact leaves
      | ok value =>
          rw [bind_ok ran]
          rcases leaves with ⟨events, settled, adds, sound, loads, isSettled⟩
          have remarked := remarks value middle
          refine ⟨events, settled, ?_, remarked.store ▸ sound, remarked.store ▸ loads, isSettled⟩
          rw [← List.append_nil events]
          exact adds.trans remarked.adds

/-! ## Posting -/

theorem there_of_extraction {skipProcessed : Bool}
    (filled : (kind.extraction workbook skipProcessed).isEmpty = false) :
    workbook.sheet? kind.schema.name = some (workbook.sheetFor kind.schema) := by
  cases found : workbook.sheet? kind.schema.name with
  | some table => rw [Workbook.sheetFor_of_sheet? found]
  | none =>
      have bare := Workbook.sheetFor_of_none found
      cases entries : (kind.extraction workbook skipProcessed).entries with
      | nil =>
          rw [Extraction.isEmpty, entries] at filled
          cases filled
      | cons entry rest =>
          have member : entry ∈ (kind.extraction workbook skipProcessed).entries :=
            entries ▸ List.mem_cons_self
          have inside := Extraction.inside_of_mem_rows (List.mem_map_of_mem member)
          rw [bare] at inside
          exact absurd (Extraction.row_of_mem member).1
            (Nat.not_lt.mpr (Nat.le_of_lt_succ inside))

theorem dispatch_leaves (dispatcher : Dispatcher) (options : SyncOptions) {skipProcessed : Bool}
    {before : Conversation Disk} (sound : before.store.Sound)
    (loads : SheetDirectory.load directory before.store = .ok workbook)
    (unmarked : workbook.Unmarked)
    (filled : (kind.extraction workbook skipProcessed).isEmpty = false) :
    Leaves directory workbook kind
      (kind.opening dispatcher (kind.extraction workbook skipProcessed) options).length before
      (withWorkbook workbook
        (kind.dispatch dispatcher (kind.extraction workbook skipProcessed) options
          (statusSink (.directory directory) kind.schema kind.statusColumn)) before).2 := by
  have there := there_of_extraction filled
  have name : (workbook.sheetFor kind.schema).name = kind.schema.name :=
    Workbook.name_sheetFor _ _
  have asRead := unmarked.asRead loads
  have saved : Saved directory workbook kind.schema (workbook.sheetFor kind.schema)
      (workbook, before.store) := by
    refine ⟨sound, name, .refl (name ▸ there), ?_⟩
    rw [Workbook.reread_of_asRead asRead]
    exact loads
  rcases dispatch_way dispatcher (statusSink (.directory directory) kind.schema kind.statusColumn)
    options kind (kind.extraction workbook skipProcessed)
    { before with store := (workbook, before.store) } with
    ⟨events, result, after, ran, way, added, journal, effects⟩
  -- What is loaded afterwards is the workbook at hand as it comes back from files. Its sheets were
  -- all read from files, and texts written into rows of data do not change how they come back.
  have savedAfter := way.keeps (statusSink_keeps directory workbook kind.schema _)
    (Extraction.rows_ne_nil filled) saved
  have initial := way.statuses_initial
  have asReadSheet : ((workbook.sheetFor kind.schema).marked kind.statusColumn
      (statusesIn events)).AsRead := by
    refine (asRead _ (Workbook.mem_of_sheet? there).1).marked _ fun entry member => ?_
    have sent := initial.subset (List.mem_map_of_mem member)
    rcases List.mem_map.mp sent with ⟨found, isFound, same⟩
    exact ⟨same ▸ (Extraction.row_of_mem isFound).1, Extraction.inside_of_mem_rows sent⟩
  have all := savedAfter.revised.forall_mem (SheetDirectory.nodup_of_load loads) asReadSheet asRead
  rw [withWorkbook_apply ran]
  refine ⟨events, after.store.1, ⟨added, journal, effects⟩, savedAfter.sound, ?_, ?_⟩
  · exact savedAfter.loads.trans (congrArg _ (Workbook.reread_of_asRead all))
  · exact .of_revised savedAfter.revised savedAfter.name initial
      fun row status member => way.decided member

theorem post_leaves {frame : Frame} (options : SyncOptions) (skipProcessed : Bool)
    {announce : Table → Extraction kind.Record → Running Unit} {before : Conversation Disk}
    (opened : ∀ dispatcher extraction,
      (kind.opening dispatcher extraction options).length = opening)
    (remarks : ∀ sheet extraction, Remarks (announce sheet extraction))
    (stored : frame.store = .directory directory) (sound : before.store.Sound)
    (loads : SheetDirectory.load directory before.store = .ok workbook)
    (unmarked : workbook.Unmarked) :
    Leaves directory workbook kind opening before
      (post kind.Record frame skipProcessed announce
        (fun dispatcher extraction sink => kind.dispatch dispatcher extraction options sink)
        before).2 := by
  have loaded : frame.load before = (.ok workbook, before) :=
    load_apply (by rw [stored]; exact loads)
  rw [post, bind_ok loaded]
  refine .bind_of_remarks (session_remarks workbook) sound loads fun session middle _ same => ?_
  let skips := skipProcessed || frame.settings.skipProcessed
  cases empty : (kind.extraction workbook skips).isEmpty with
  | true =>
      rw [if_pos rfl]
      exact .of_remarked (print_remarks _ middle) (same ▸ sound) (same ▸ loads)
  | false =>
      rw [if_neg Bool.false_ne_true]
      refine .bind_of_remarks (remarks _ _) (same ▸ sound) (same ▸ loads)
        fun _ later _ sameLater => ?_
      have here : later.store = before.store := sameLater.trans same
      refine .then_remarks ?_ fun report => print_remarks _
      rw [stored]
      have leaves := dispatch_leaves ⟨frame.client, session⟩ options (here ▸ sound) (here ▸ loads)
        unmarked empty
      rw [opened] at leaves
      exact leaves

def options (frame : Frame) (flags : PostingFlags) : SyncOptions :=
  ⟨flags.bulk, flags.workers.getD frame.settings.workers, flags.fallback || frame.settings.fallback⟩

def announcement (sheet : Table) (extraction : Extraction NewTransaction) : Running Unit :=
  Conversing.note .info
    ("Extracted " ++ integerText extraction.entries.length ++ " transactions from " ++
      integerText (sheet.rowCount - 1 : Nat) ++ " rows")

theorem announcement_tells (sheet : Table) (extraction : Extraction NewTransaction) :
    Tells (announcement sheet extraction) :=
  .note _ _

theorem run_syncTransactions (frame : Frame) (flags : PostingFlags) :
    frame.run (.syncTransactions flags) =
      post (Record .transactions) frame flags.skipProcessed announcement
        fun dispatcher extraction sink =>
          dispatch .transactions dispatcher extraction (frame.options flags) sink :=
  rfl

theorem length_opening (frame : Frame) (flags : PostingFlags) (dispatcher : Dispatcher)
    (extraction : Extraction NewTransaction) :
    (PostedSheet.opening .transactions dispatcher extraction (frame.options flags)).length =
      flags.bulk.toNat := by
  change (if flags.bulk then [_] else []).length = _
  cases flags.bulk <;> rfl

theorem run_syncBudgets (frame : Frame) (skipProcessed : Bool) (options : SyncOptions) :
    frame.run (.syncBudgets skipProcessed) =
      post (Record .budgets) frame skipProcessed (fun _ _ => pure ())
        fun dispatcher extraction sink =>
          dispatch .budgets dispatcher extraction options sink :=
  rfl

theorem run_leaves {frame : Frame} {command : Command} {bulk : Bool} {before : Conversation Disk}
    (posts : command.posting? = some (kind, bulk)) (stored : frame.store = .directory directory)
    (sound : before.store.Sound)
    (loads : SheetDirectory.load directory before.store = .ok workbook)
    (unmarked : workbook.Unmarked) :
    Leaves directory workbook kind bulk.toNat before (frame.run command before).2 := by
  cases command with
  | syncTransactions flags =>
      cases posts
      rw [frame.run_syncTransactions flags]
      exact post_leaves _ _ (frame.length_opening flags)
        (fun _ _ => (announcement_tells _ _).remarks) stored sound loads unmarked
  | syncBudgets skipProcessed =>
      cases posts
      rw [frame.run_syncBudgets skipProcessed ⟨false, 0, false⟩]
      exact post_leaves _ _ (fun _ _ => rfl) (fun _ _ => .of_result (.ok ())) stored sound loads
        unmarked
  | _ => cases posts

end Frame

namespace Invocation

/-- However a command that posts a sheet of a directory ends, the directory can be loaded again, and
its workbook has changed by the statuses that were written and by nothing else. -/
theorem run_settles {invocation : Invocation} {around : Surroundings} {before : Conversation Disk}
    {directory : String} {workbook : Workbook} {kind : PostedSheet} {bulk : Bool}
    (posts : invocation.command.posting? = some (kind, bulk))
    (stored : ∀ frame middle, invocation.frame around before = (.ok frame, middle) →
      frame.store = .directory directory)
    (sound : before.store.Sound)
    (loads : SheetDirectory.load directory before.store = .ok workbook)
    (unmarked : workbook.Unmarked) :
    ∃ result after added settled, invocation.run around before = (result, after) ∧
      after.journal = before.journal ++ added ∧
      SheetDirectory.load directory after.store = .ok settled ∧
      kind.Settled bulk.toNat before.answers workbook (statusesIn added) settled := by
  have leaves : Frame.Leaves directory workbook kind bulk.toNat before
      (invocation.run around before).2 := by
    refine .bind_of_remarks (invocation.frame_remarks around) sound loads
      fun frame middle ran same => ?_
    refine .bind_of_remarks (.note _ _) (same ▸ sound) (same ▸ loads) fun _ later _ sameLater => ?_
    have here : later.store = before.store := sameLater.trans same
    exact Frame.run_leaves posts (stored frame middle ran) (here ▸ sound) (here ▸ loads) unmarked
  rcases leaves with ⟨_, settled, ⟨added, journal, rfl⟩, _, loadsAfter, isSettled⟩
  rw [statusesIn_effectsIn] at isSettled
  exact ⟨_, _, added, settled, rfl, journal, loadsAfter, isSettled⟩

/-! ## A run over a directory with two sheets -/

def bareSurroundings : Surroundings where
  environment _ := none
  settingsDirectory := none
  today := ⟨2024, 1, 1, by decide⟩
  typedPassword := none

def postBudgets : Invocation where
  verbosity := 0
  settingsFile := none
  workbook := some "books"
  command := .syncBudgets false

/-- A directory with two sheets; the token is there, and a status from before. -/
def booksDisk : Disk where
  workingDirectory := []
  entries :=
    [(["books"], .directory),
      (["books", "Auth.csv"], .file (.text "email,password,token\na@b.c,pw,tok\n")),
      (["books", "Budgets.csv"], .file (.text "category,limit,status\nfood,200,late\n"))]

def booksWorkbook : Workbook :=
  ⟨[⟨"Auth", [[.text "email", .text "password", .text "token"],
      [.text "a@b.c", .text "pw", .text "tok"]]⟩,
    ⟨"Budgets", [[.text "category", .text "limit", .text "status"],
      [.text "food", .text "200", .text "late"]]⟩]⟩

theorem sheetFiles_books :
    SheetDirectory.sheetFiles ["Auth.csv", "Budgets.csv"] =
      [("Auth.csv", "Auth"), ("Budgets.csv", "Budgets")] := by
  have sheets : ["Auth.csv", "Budgets.csv"].filterMap (fun file =>
      (SheetDirectory.sheetName? file).map fun sheet => (file, sheet)) =
      [("Auth.csv", "Auth"), ("Budgets.csv", "Budgets")] := by
    decide +kernel
  change (List.mergeSort ((["Auth.csv", "Budgets.csv"].filterMap _).mergeSort _) _) = _
  rw [sheets]
  have byName : [("Auth.csv", "Auth"), ("Budgets.csv", "Budgets")].mergeSort
      (fun first second => first.1 ≤ second.1) =
      [("Auth.csv", "Auth"), ("Budgets.csv", "Budgets")] :=
    List.mergeSort_of_pairwise (by decide)
  rw [byName, List.mergeSort_of_pairwise (by decide)]

theorem load_books : SheetDirectory.load "books" booksDisk = .ok booksWorkbook := by
  have isDirectory : booksDisk.isDirectory "books" = true := by decide +kernel
  have files : booksDisk.list "books" = .ok ["Auth.csv", "Budgets.csv"] := by decide +kernel
  rw [SheetDirectory.load, isDirectory, files]
  change Except.bind ((SheetDirectory.sheetFiles ["Auth.csv", "Budgets.csv"]).mapM
    (SheetDirectory.loadItem booksDisk "books")) (fun tables => .ok (Workbook.ofTables tables)) = _
  rw [sheetFiles_books]
  decide +kernel

theorem sound_booksDisk : booksDisk.Sound := by
  refine ⟨nofun, by decide, ?_⟩
  have named : ∀ name ∈ ["books", "Auth.csv", "Budgets.csv"], Disk.IsName name := by
    intro name member
    have oneOf : name = "books" ∨ name = "Auth.csv" ∨ name = "Budgets.csv" := by simpa using member
    rcases oneOf with rfl | rfl | rfl <;> constructor <;> decide +kernel
  have listed : ∀ entry ∈ booksDisk.entries, ∀ name ∈ entry.1,
      name ∈ ["books", "Auth.csv", "Budgets.csv"] := by
    decide
  exact fun entry member name isIn => named name (listed entry member name isIn)

def booksStart : Conversation Disk :=
  ⟨[.replied 201 ""], [], booksDisk⟩

def booksFrame : Frame :=
  ⟨{ Settings.standard with workbook := "books" }, none, bareSurroundings⟩

theorem frame_books :
    postBudgets.frame bareSurroundings booksStart = (.ok booksFrame,
      { booksStart with journal := [.noted .debug "No config file found, using defaults"] }) :=
  rfl

theorem store_booksFrame : booksFrame.store = .directory "books" := by decide +kernel

theorem written_books :
    statusesIn (postBudgets.run bareSurroundings booksStart).2.journal = [(⟨1⟩, "OK")] := by
  let notes : List Event := [.noted .debug "No config file found, using defaults",
    .noted .debug "Using workbook books"]
  have loaded : booksFrame.load { booksStart with journal := notes } =
      (.ok booksWorkbook, { booksStart with journal := notes }) := by
    refine Frame.load_apply ?_
    rw [store_booksFrame]
    exact load_books
  have noted : (note .debug ("Using workbook " ++ booksFrame.settings.workbook) : Running Unit)
      { booksStart with journal := [.noted .debug "No config file found, using defaults"] } =
      (.ok (), { booksStart with journal := notes }) := rfl
  have posts : booksFrame.run postBudgets.command = _ :=
    booksFrame.run_syncBudgets false ⟨false, 0, false⟩
  rw [run, bind_ok frame_books, bind_ok noted, posts, Frame.post, bind_ok loaded]
  decide +kernel

theorem run_settles_books :
    ∃ settled, SheetDirectory.load "books" (postBudgets.run bareSurroundings booksStart).2.store =
        .ok settled ∧
      settled.names = ["Auth", "Budgets"] ∧
      settled.sheet? "Auth" = booksWorkbook.sheet? "Auth" ∧
      (settled.sheetFor .budgets).get ⟨1⟩ 1 = .text "200" ∧
      (settled.sheetFor .budgets).get ⟨1⟩ 2 = .text "OK" := by
  have stored : ∀ frame middle,
      postBudgets.frame bareSurroundings booksStart = (.ok frame, middle) →
        frame.store = .directory "books" := by
    intro frame middle ran
    cases frame_books.symm.trans ran
    exact store_booksFrame
  have unmarked : booksWorkbook.Unmarked := by
    unfold Workbook.Unmarked
    decide +kernel
  have posts : postBudgets.command.posting? = some (.budgets, false) := rfl
  rcases run_settles posts stored sound_booksDisk load_books unmarked with
    ⟨result, after, added, settled, ran, journal, loads, isSettled⟩
  have statuses : statusesIn added = [(⟨1⟩, "OK")] := by
    rw [← written_books, ran, journal]
    rfl
  rw [statuses] at isSettled
  refine ⟨settled, ?_, isSettled.names, isSettled.others "Auth" (by decide), ?_, ?_⟩
  · rw [ran]
    exact loads
  · exact isSettled.unwritten ⟨1⟩ 1 (.inl (by decide))
  · rcases isSettled.written with ⟨_, written⟩
    rcases written ⟨1⟩ "OK" List.mem_cons_self with ⟨outcome, told, _, shown⟩
    rcases shown with ⟨_, cell⟩ | ⟨reason, rfl, _, cell⟩
    · exact cell
    · cases told
      exact cell

end Invocation

end SheetPost
