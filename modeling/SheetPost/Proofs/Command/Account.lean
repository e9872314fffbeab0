import Mathlib.Data.List.DropRight
import Mathlib.Logic.Function.Basic
import SheetPost.Proofs.Command.Sparing
import SheetPost.Proofs.Store.OneSheet

namespace SheetPost

open Conversation Conversing

/-! ## The account of a workbook -/

def Workbook.account (workbook : Workbook) (column : Nat) : Cell :=
  (workbook.sheetFor .auth).get AuthSheet.valuesRow column

/-- The directory can be loaded, no mark of byte order stands at the front of a sheet, and its
account has these cells. -/
structure HoldsAccount (directory : String) (account : Nat → Cell) (disk : Disk) : Prop where
  sound : disk.Sound
  holds : ∃ workbook, SheetDirectory.load directory disk = .ok workbook ∧ workbook.Unmarked ∧
    workbook.account = account

section Loaded

variable {directory : String} {disk after : Disk} {workbook settled : Workbook}

theorem Workbook.account_congr (same : settled.sheet? "Auth" = workbook.sheet? "Auth") :
    settled.account = workbook.account := by
  have sheets : settled.sheetFor .auth = workbook.sheetFor .auth :=
    congrArg (·.getD (.ofSchema .auth)) same
  funext column
  rw [account, account, sheets]

theorem asRead_sheetFor_auth (loads : SheetDirectory.load directory disk = .ok workbook)
    (unmarked : workbook.Unmarked) : (workbook.sheetFor .auth).AsRead := by
  cases found : workbook.sheet? "Auth" with
  | some table =>
      rw [Workbook.sheetFor_of_sheet? found]
      exact unmarked.asRead loads table (Workbook.mem_of_sheet? found).1
  | none =>
      rw [Workbook.sheetFor_of_none found]
      constructor <;> decide

theorem unmarked_of_put {ε : Type} {result : Except ε Unit} {table : Table}
    (loadsAfter : SheetDirectory.load directory after = .ok settled)
    (put : SheetDirectory.Put workbook table result settled)
    (front : (table.get ⟨0⟩ 0).shown.toList.head? ≠ some '\uFEFF')
    (unmarked : workbook.Unmarked) : settled.Unmarked := by
  cases put with
  | refused => exact unmarked
  | done there others =>
      intro other member
      have found := Workbook.sheet?_of_mem (SheetDirectory.nodup_of_load loadsAfter) member
      by_cases same : other.name = table.name
      · rw [same, there] at found
        cases found
        rw [Table.get_reread front, Cell.shown_reread]
        exact front
      · rw [others _ same] at found
        exact unmarked other (Workbook.mem_of_sheet? found).1

theorem front_set_auth (unmarked : (workbook.sheetFor .auth).AsRead) (cell : Cell) :
    (((workbook.sheetFor .auth).set AuthSheet.valuesRow AuthSheet.tokenColumn cell).get
      ⟨0⟩ 0).shown.toList.head? ≠ some '\uFEFF' := by
  rw [Table.get_set_other _ _ (.inl (by decide))]
  exact unmarked.front

theorem account_of_put {ε : Type} {cell : Cell} (asRead : (workbook.sheetFor .auth).AsRead)
    (put : SheetDirectory.Put workbook
      ((workbook.sheetFor .auth).set AuthSheet.valuesRow AuthSheet.tokenColumn cell)
      (.ok () : Except ε Unit) settled) :
    settled.account = Function.update workbook.account AuthSheet.tokenColumn cell.reread := by
  cases put with
  | done there others =>
      rw [Table.name_set, Workbook.name_sheetFor] at there
      funext column
      rw [Workbook.account, Workbook.sheetFor_of_sheet? there,
        Table.get_reread (front_set_auth asRead cell)]
      by_cases isToken : column = AuthSheet.tokenColumn
      · rw [isToken, Table.get_set_same, Function.update_self]
      · rw [Table.get_set_other _ _ (.inr isToken), asRead.get_reread,
          Function.update_of_ne isToken]
        rfl

theorem account_of_notMem (missing : "Auth" ∉ workbook.names) (column : Nat) :
    workbook.account column = .empty := by
  have bare : workbook.sheetFor .auth = .ofSchema .auth :=
    Workbook.sheetFor_of_none (Workbook.sheet?_eq_none_iff.mpr missing)
  rw [Workbook.account, bare]
  rfl

end Loaded

/-! ## What becomes of the token -/

def Command.setsToken : Command → Bool
  | .login _ | .logout => true
  | _ => false

def Command.isEveryday : Command → Bool
  | .writeSettings | .createWorkbook _ => false
  | _ => true

/-- What a command makes of the cell of the token, by the answer to a login and by how it ends. -/
inductive Command.LeavesToken (answer : Answer) : Command → Except Problem Unit → Cell → Cell → Prop
  | loggedIn {prompt : Bool} {token : String} {cell : Cell} (granted : answer.token? = some token)
      (visible : trim token ≠ "") :
      LeavesToken answer (.login prompt) (.ok ()) cell (.ofText (trim token))
  | loggedOut {result : Except Problem Unit} {cell : Cell} :
      LeavesToken answer .logout result cell .empty
  | failed {command : Command} {problem : Problem} {cell : Cell} (stays : command ≠ .logout) :
      LeavesToken answer command (.error problem) cell cell
  | other {command : Command} {result : Except Problem Unit} {cell : Cell}
      (other : command.setsToken = false) : LeavesToken answer command result cell cell

namespace Frame

variable {directory : String} {workbook : Workbook} {command : Command} {frame : Frame}
variable {heeded : List Answer → Answer}

/-- Whenever this workbook can be loaded, the step leaves its account, with the token that the
command, the answer it heeds and the end of the step call for. -/
def LeavesAccount (directory : String) (workbook : Workbook) (command : Command)
    (heeded : List Answer → Answer) (step : Running Unit) : Prop :=
  ∀ before result after, before.store.Sound →
    SheetDirectory.load directory before.store = .ok workbook → step before = (result, after) →
    ∃ cell, HoldsAccount directory
        (Function.update workbook.account AuthSheet.tokenColumn cell) after.store ∧
      command.LeavesToken (heeded before.answers) result
        (workbook.account AuthSheet.tokenColumn) cell

theorem holdsAccount_of_load {disk : Disk} (sound : disk.Sound)
    (loads : SheetDirectory.load directory disk = .ok workbook) (unmarked : workbook.Unmarked) :
    HoldsAccount directory
      (Function.update workbook.account AuthSheet.tokenColumn
        (workbook.account AuthSheet.tokenColumn)) disk :=
  ⟨sound, workbook, loads, unmarked, (Function.update_eq_self _ _).symm⟩

theorem LeavesAccount.after_load {next : Workbook → Running Unit}
    (stored : frame.store = .directory directory)
    (leaves : LeavesAccount directory workbook command heeded (next workbook)) :
    LeavesAccount directory workbook command heeded (frame.load >>= next) := by
  intro before result after sound loads ran
  have loaded : frame.load before = (.ok workbook, before) :=
    load_apply (by rw [stored]; exact loads)
  rw [bind_ok loaded] at ran
  exact leaves before result after sound loads ran

theorem LeavesAccount.bind_of_remarks {α : Type} {first : Running α} {next : α → Running Unit}
    (unmarked : workbook.Unmarked) (stays : command ≠ .logout) (remarks : Remarks first)
    (later : ∀ value, LeavesAccount directory workbook command heeded (next value)) :
    LeavesAccount directory workbook command heeded (first >>= next) := by
  intro before result after sound loads ran
  rcases bind_cases ran with ⟨problem, failed, rfl⟩ | ⟨value, middle, went, ranLater⟩
  · have same := (remarks.of_ran failed).store
    exact ⟨_, holdsAccount_of_load (same ▸ sound) (same ▸ loads) unmarked, .failed stays⟩
  · have remarked := remarks.of_ran went
    rw [← remarked.answers]
    exact later value middle result after (remarked.store ▸ sound) (remarked.store ▸ loads) ranLater

theorem LeavesAccount.bind_of_asks {α : Type} {heard : Answer → α → Prop} {first : Running α}
    {next : α → Running Unit} (unmarked : workbook.Unmarked) (stays : command ≠ .logout)
    (asks : Asks heard first)
    (later : ∀ answer value, heard answer value →
      LeavesAccount directory workbook command (fun _ => answer) (next value)) :
    LeavesAccount directory workbook command Answer.next (first >>= next) := by
  intro before result after sound loads ran
  rcases bind_cases ran with ⟨problem, failed, rfl⟩ | ⟨value, middle, went, ranLater⟩
  · have same := (asks before _ after failed).1
    exact ⟨_, holdsAccount_of_load (same ▸ sound) (same ▸ loads) unmarked, .failed stays⟩
  · rcases asks before _ middle went with ⟨same, isHeard⟩
    exact later _ value (isHeard value rfl) middle result after (same ▸ sound) (same ▸ loads)
      ranLater

theorem LeavesAccount.of_spares {step : Running Unit} (other : command.setsToken = false)
    (unmarked : workbook.Unmarked) (spares : SparesUnless (fun _ _ => False) step) :
    LeavesAccount directory workbook command heeded step := by
  intro before result after sound loads ran
  have same : after.store = before.store :=
    by_contra fun changed => spares before result after ran changed
  exact ⟨_, holdsAccount_of_load (same ▸ sound) (same ▸ loads) unmarked, .other other⟩

/-! ## Saving one sheet -/

theorem save_puts {before : Conversation Disk} {table : Table}
    (stored : frame.store = .directory directory) (sound : before.store.Sound)
    (loads : SheetDirectory.load directory before.store = .ok workbook)
    (unmarked : workbook.Unmarked) (named : Disk.IsName (SheetDirectory.fileName table.name))
    (some : table.name ≠ "") :
    ∃ result after settled, frame.save (workbook.insert table) before =
        (result, { before with store := after }) ∧
      after.Sound ∧ SheetDirectory.load directory after = .ok settled ∧
      SheetDirectory.Put workbook table result settled := by
  rcases SheetDirectory.save_insert sound loads (unmarked.asRead loads) named some with
    ⟨result, after, settled, saved, soundAfter, again, put⟩
  let wrap := StoreError.during ("Failed to save workbook: " ++ directory)
  refine ⟨_, after, settled, ?_, soundAfter, again, (put.mapError wrap).mapError Problem.store⟩
  rw [save, stored]
  exact onStore_apply Problem.store (Step.adapt_apply wrap saved)

theorem save_token {before middle : Conversation Disk} {result : Except Problem Unit} (cell : Cell)
    (stored : frame.store = .directory directory) (sound : before.store.Sound)
    (loads : SheetDirectory.load directory before.store = .ok workbook)
    (unmarked : workbook.Unmarked)
    (ran : frame.save (workbook.update .auth fun sheet =>
      sheet.set AuthSheet.valuesRow AuthSheet.tokenColumn cell) before = (result, middle)) :
    (result = .ok () ∧ HoldsAccount directory
      (Function.update workbook.account AuthSheet.tokenColumn cell.reread) middle.store) ∨
    ((∃ problem, result = .error problem) ∧ "Auth" ∉ workbook.names ∧ HoldsAccount directory
      (Function.update workbook.account AuthSheet.tokenColumn
        (workbook.account AuthSheet.tokenColumn)) middle.store) := by
  have asRead := asRead_sheetFor_auth loads unmarked
  have name : ((workbook.sheetFor .auth).set AuthSheet.valuesRow AuthSheet.tokenColumn
      cell).name = "Auth" :=
    Workbook.name_sheetFor _ _
  have named : Disk.IsName (SheetDirectory.fileName "Auth") :=
    SheetDirectory.isName_known .auth (by decide)
  rcases save_puts stored sound loads unmarked (name ▸ named) (by rw [name]; decide) with
    ⟨_, after, settled, saved, soundAfter, again, put⟩
  cases saved.symm.trans ran
  have unmarkedAfter := unmarked_of_put again put (front_set_auth asRead cell) unmarked
  cases result with
  | ok value =>
      exact .inl ⟨rfl, soundAfter, settled, again, unmarkedAfter, account_of_put asRead put⟩
  | error problem =>
      cases put with
      | refused new =>
          exact .inr ⟨⟨problem, rfl⟩, name ▸ new, holdsAccount_of_load soundAfter again unmarked⟩

theorem save_report {before middle : Conversation Disk} {result : Except Problem Unit}
    {totals : List CategoryTotal} (stored : frame.store = .directory directory)
    (sound : before.store.Sound)
    (loads : SheetDirectory.load directory before.store = .ok workbook)
    (unmarked : workbook.Unmarked)
    (ran : frame.save (workbook.update .report (renderSummary totals)) before =
      (result, middle)) :
    HoldsAccount directory (Function.update workbook.account AuthSheet.tokenColumn
      (workbook.account AuthSheet.tokenColumn)) middle.store := by
  have name : (renderSummary totals (workbook.sheetFor .report)).name = "Report" :=
    Workbook.name_sheetFor workbook .report
  have first : ((renderSummary totals (workbook.sheetFor .report)).get ⟨0⟩ 0).shown = "Category" :=
    rfl
  have named : Disk.IsName (SheetDirectory.fileName "Report") :=
    SheetDirectory.isName_known .report (by decide)
  rcases save_puts stored sound loads unmarked (name ▸ named) (by rw [name]; decide) with
    ⟨_, after, settled, saved, soundAfter, again, put⟩
  cases saved.symm.trans ran
  have unmarkedAfter := unmarked_of_put again put (by rw [first]; decide) unmarked
  have account : settled.account = workbook.account := by
    cases put with
    | done _ others => exact Workbook.account_congr (others "Auth" (by rw [name]; decide))
    | refused => rfl
  rw [← account]
  exact holdsAccount_of_load soundAfter again unmarkedAfter

/-! ## Commands -/

theorem saveToken_leaves {answer : Answer} {prompt : Bool} {token : String} (lines : List String)
    (stored : frame.store = .directory directory) (unmarked : workbook.Unmarked)
    (granted : answer.token? = some token) (visible : trim token ≠ "") :
    LeavesAccount directory workbook (.login prompt) (fun _ => answer) (do
      frame.save (workbook.update .auth fun sheet =>
        sheet.set AuthSheet.valuesRow AuthSheet.tokenColumn (.ofText (trim token)))
      print lines) := by
  intro before result after sound loads ran
  rcases bind_cases ran with ⟨problem, failed, rfl⟩ | ⟨_, saved, done, ranPrint⟩
  · rcases save_token _ stored sound loads unmarked failed with ⟨done, _⟩ | ⟨_, _, holds⟩
    · cases done
    · exact ⟨_, holds, .failed nofun⟩
  · rcases save_token _ stored sound loads unmarked done with ⟨_, holds⟩ | ⟨⟨_, failed⟩, _⟩
    · rcases print_tells lines saved with ⟨_, printed, remarked⟩
      cases printed.symm.trans ranPrint
      rw [Table.ofText_reread] at holds
      exact ⟨_, remarked.store ▸ holds, .loggedIn granted visible⟩
    · cases failed

theorem login_leaves (prompt : Bool) (stored : frame.store = .directory directory)
    (unmarked : workbook.Unmarked) :
    LeavesAccount directory workbook (.login prompt) Answer.next (frame.login prompt) := by
  rw [login_eq]
  refine .after_load stored ?_
  refine .bind_of_remarks unmarked nofun (frame.credentialsFor_remarks _ _) fun credentials => ?_
  refine .bind_of_remarks unmarked nofun (requireEmail_remarks _) fun _ => ?_
  refine .bind_of_remarks unmarked nofun (requirePassword_remarks _) fun _ => ?_
  refine .bind_of_asks unmarked nofun (frame.client.loginAndStore_asks _ _).failingAs ?_
  rintro answer ⟨session, sheet⟩ ⟨token, granted, visible, rfl⟩
  exact saveToken_leaves _ stored unmarked granted visible

theorem logout_leaves (stored : frame.store = .directory directory)
    (unmarked : workbook.Unmarked) :
    LeavesAccount directory workbook .logout heeded frame.logout := by
  refine .after_load stored ?_
  intro before result after sound loads ran
  rcases bind_cases ran with ⟨problem, failed, rfl⟩ | ⟨_, saved, done, ranPrint⟩
  · rcases save_token .empty stored sound loads unmarked failed with ⟨done, _⟩ | ⟨_, missing, holds⟩
    · cases done
    · rw [account_of_notMem missing] at holds
      exact ⟨_, holds, .loggedOut⟩
  · rcases save_token .empty stored sound loads unmarked done with ⟨_, holds⟩ | ⟨⟨_, failed⟩, _⟩
    · have same := ((print_remarks _).of_ran ranPrint).store
      exact ⟨_, same ▸ holds, .loggedOut⟩
    · cases failed

theorem report_leaves (first? last? : Option Date) (stored : frame.store = .directory directory)
    (unmarked : workbook.Unmarked) :
    LeavesAccount directory workbook (.report first? last?) Answer.next
      (frame.report first? last?) := by
  unfold report
  dsimp only
  split
  · exact .of_spares rfl unmarked (Remarks.of_result (.error _)).spares
  refine .after_load stored ?_
  refine .bind_of_remarks unmarked nofun (session_remarks workbook) fun session => ?_
  refine .bind_of_asks unmarked nofun (frame.client.fetchSummary_asks session _ _).failingAs ?_
  intro answer totals _ before result after sound loads ran
  rcases bind_cases ran with ⟨_, failed, _⟩ | ⟨_, saved, done, ranPrint⟩
  · exact ⟨_, save_report stored sound loads unmarked failed, .other rfl⟩
  · have kept := save_report stored sound loads unmarked done
    exact ⟨_, ((print_remarks _).of_ran ranPrint).store ▸ kept, .other rfl⟩

theorem unmarked_of_settled {kind : PostedSheet} {opening : Nat} {answers : List Answer}
    {statuses : List (RowPosition × String)} {disk : Disk} {settled : Workbook}
    (loads : SheetDirectory.load directory disk = .ok settled)
    (isSettled : kind.Settled opening answers workbook statuses settled)
    (unmarked : workbook.Unmarked) : settled.Unmarked := by
  intro table member
  have found := Workbook.sheet?_of_mem (SheetDirectory.nodup_of_load loads) member
  by_cases posted : table.name = kind.schema.name
  · have listed : table.name ∈ workbook.names :=
      isSettled.names ▸ List.mem_map_of_mem member
    rcases Workbook.mem_names.mp listed with ⟨original, there⟩
    have front := unmarked original (Workbook.mem_of_sheet? there).1
    have isSheet : settled.sheetFor kind.schema = table :=
      Workbook.sheetFor_of_sheet? (posted ▸ found)
    have wasSheet : workbook.sheetFor kind.schema = original :=
      Workbook.sheetFor_of_sheet? (posted ▸ there)
    have first : (0 : Nat) ≠ kind.statusColumn := by cases kind <;> decide
    have same := isSettled.unwritten ⟨0⟩ 0 (.inl first)
    rw [isSheet, wasSheet] at same
    rw [same]
    exact front
  · rw [isSettled.others _ posted] at found
    exact unmarked table (Workbook.mem_of_sheet? found).1

theorem posting_leaves {kind : PostedSheet} {bulk : Bool}
    (posts : command.posting? = some (kind, bulk)) (stored : frame.store = .directory directory)
    (unmarked : workbook.Unmarked) :
    LeavesAccount directory workbook command heeded (frame.run command) := by
  intro before result after sound loads ran
  have leaves := run_leaves posts stored sound loads unmarked
  rw [ran] at leaves
  rcases leaves with ⟨events, settled, _, soundAfter, again, isSettled⟩
  have apart : "Auth" ≠ kind.schema.name := by cases kind <;> decide
  have holds := holdsAccount_of_load soundAfter again (unmarked_of_settled again isSettled unmarked)
  rw [Workbook.account_congr (isSettled.others "Auth" apart)] at holds
  have other : command.setsToken = false := by
    cases command with
    | login | logout => cases posts
    | _ => rfl
  exact ⟨_, holds, .other other⟩

theorem run_leaves_account (everyday : command.isEveryday = true)
    (stored : frame.store = .directory directory) (unmarked : workbook.Unmarked) :
    LeavesAccount directory workbook command Answer.next (frame.run command) := by
  cases command with
  | login prompt => exact login_leaves prompt stored unmarked
  | logout => exact logout_leaves stored unmarked
  | syncTransactions flags => exact posting_leaves rfl stored unmarked
  | syncBudgets skipProcessed => exact posting_leaves rfl stored unmarked
  | report first? last? => exact report_leaves first? last? stored unmarked
  | register => exact .of_spares rfl unmarked frame.register_spares
  | loginStatus => exact .of_spares rfl unmarked frame.loginStatus_remarks.spares
  | list listing json => exact .of_spares rfl unmarked (frame.list_spares listing json)
  | ping => exact .of_spares rfl unmarked frame.ping_spares
  | showSettings => exact .of_spares rfl unmarked frame.showSettings_remarks.spares
  | writeSettings => cases everyday
  | createWorkbook force => cases everyday

end Frame

end SheetPost
