import SheetPost.Proofs.Command.Posting
import SheetPost.Proofs.Store.Replacing
import SheetPost.Proofs.Store.SameFiles

namespace SheetPost

open Conversation Conversing

def WorkbookStore.taken (store : WorkbookStore) : Problem :=
  .said ("Workbook already exists: " ++ store.location ++ " (use --force to replace it)")

namespace Frame

variable {frame : Frame} {force : Bool} {before after : Conversation Disk}

theorem createWorkbook_apply (frame : Frame) (force : Bool) (before : Conversation Disk) :
    frame.createWorkbook force before =
      if before.store.exists? frame.store.location && !force then
        (.error frame.store.taken, before)
      else (frame.save .standard >>= fun _ => print ["✓ Created " ++ frame.store.location,
        "  Fill in email and password on row 2 of the Auth sheet, then run",
        "  ledger-sync auth login"]) before := by
  have got : (get : Running (Conversation Disk)) before = (.ok before, before) := rfl
  dsimp only [createWorkbook]
  rw [bind_ok got]
  cases before.store.exists? frame.store.location && !force <;> rfl

theorem saved_of_createWorkbook (ran : frame.createWorkbook force before = (.ok (), after)) :
    frame.store.save .standard before.store = (.ok (), after.store) := by
  rw [createWorkbook_apply] at ran
  split at ran
  · cases ran
  · cases saves : frame.store.save .standard before.store with
    | mk result disk =>
        have saved : frame.save .standard before = _ :=
          onStore_apply Problem.store (Step.adapt_apply _ saves)
        cases result with
        | error error => cases (bind_error saved).symm.trans ran
        | ok value =>
            rcases print_tells _ { before with store := disk } with ⟨told, ranPrint, remarked⟩
            cases (bind_ok saved).symm.trans ran |>.symm.trans ranPrint
            rw [remarked.store]

end Frame

namespace Invocation

variable {invocation : Invocation} {around : Surroundings} {before middle after : Conversation Disk}
  {frame : Frame} {force : Bool} {result : Except Problem Unit}

/-- A command that makes a workbook and succeeds leaves the new one and nothing else if and only if
the store was replaceable. Unless it is forced, it refuses a path that is there and leaves the disk
as it was. -/
theorem createWorkbook_replaces_iff (asked : invocation.command = .createWorkbook force)
    (found : invocation.frame around before = (.ok frame, middle)) (sound : before.store.Sound)
    (ran : invocation.run around before = (result, after)) :
    (result = .ok () →
      (frame.store.load after.store = .ok .standard ↔ frame.store.Replaceable before.store)) ∧
    (force = false → before.store.exists? frame.store.location = true →
      result = .error frame.store.taken ∧ after.store = before.store) := by
  rcases run_of_frame found with ⟨noted, remarked, runs⟩
  have made : frame.createWorkbook force noted = (result, after) := by
    rw [← ran, runs, asked]
    rfl
  constructor
  · rintro rfl
    have saved := Frame.saved_of_createWorkbook made
    rw [remarked.store] at saved
    exact WorkbookStore.load_standard_iff sound saved
  · rintro rfl there
    rw [Frame.createWorkbook_apply, remarked.store, there, Bool.not_false, Bool.and_self,
      if_pos rfl] at made
    cases made
    exact ⟨rfl, remarked.store⟩

def replaceBooks : Invocation where
  verbosity := 0
  settingsFile := none
  workbook := some "books"
  command := .createWorkbook true

theorem frame_replaceBooks (disk : Disk) :
    replaceBooks.frame bareSurroundings ⟨[], [], disk⟩ =
      (.ok booksFrame,
        ⟨[], [.noted .debug "No config file found, using defaults"], disk⟩) :=
  rfl

theorem replaceable_budgetsDisk :
    booksFrame.store.Replaceable (SheetDirectory.budgetsDisk "Budgets.csv") := by
  let disk := SheetDirectory.budgetsDisk "Budgets.csv"
  have there : disk.LeadsTo "books" ["books"] := by
    unfold Disk.LeadsTo
    decide +kernel
  have names : disk.namesIn ["books"] = ["notes.txt", "Budgets.csv"] := by decide +kernel
  rw [store_booksFrame]
  refine ⟨["books"], ?_⟩
  rw [Disk.makeDirectories_of_leadsTo there]
  refine ⟨there, ?_⟩
  rintro ⟨file, sheet⟩ member
  rcases SheetDirectory.mem_sheetFiles.mp member with ⟨isFile, holds⟩
  have oneOf : file = "notes.txt" ∨ file = "Budgets.csv" := by simpa [names] using isFile
  rcases oneOf with rfl | rfl
  · have none : SheetDirectory.sheetName? "notes.txt" = none := by decide +kernel
    cases none.symm.trans holds
  · cases (SheetDirectory.eq_of_sheetName?_fileName holds : sheet = "Budgets")
    exact ⟨by decide, .inl rfl⟩

theorem createWorkbook_replaces_iff_known :
    ∃ after, replaceBooks.run bareSurroundings
        ⟨[], [], SheetDirectory.budgetsDisk "Budgets.csv"⟩ = (.ok (), after) ∧
      booksFrame.store.load after.store = .ok .standard := by
  let before : Conversation Disk := ⟨[], [], SheetDirectory.budgetsDisk "Budgets.csv"⟩
  have named : Disk.IsName "Budgets.csv" := by constructor <;> decide +kernel
  have sound := SheetDirectory.sound_budgetsDisk named (by decide)
  have succeeds : (replaceBooks.run bareSurroundings before).1.toOption = some () := by
    decide +kernel
  cases ran : replaceBooks.run bareSurroundings before with
  | mk result after =>
      rw [ran] at succeeds
      cases result with
      | error problem => cases succeeds
      | ok value =>
          have replaces := createWorkbook_replaces_iff rfl (frame_replaceBooks _) sound ran
          exact ⟨after, rfl, (replaces.1 rfl).mpr replaceable_budgetsDisk⟩

/-- The sheet of another file stays, although the command says that the workbook was created. -/
theorem createWorkbook_keeps_sheet :
    (SheetDirectory.budgetsDisk "Savings.csv").Sound ∧ ∃ after, replaceBooks.run bareSurroundings
        ⟨[], [], SheetDirectory.budgetsDisk "Savings.csv"⟩ = (.ok (), after) ∧
      SheetDirectory.load "books" after.store ≠ .ok .standard := by
  let ran := replaceBooks.run bareSurroundings ⟨[], [], SheetDirectory.budgetsDisk "Savings.csv"⟩
  have succeeds : ran.1.toOption = some () := by decide +kernel
  have leads : ran.2.store.LeadsTo "books" ["books"] := by
    unfold Disk.LeadsTo
    decide +kernel
  have listed : ("Savings.csv", "Savings") ∈
      SheetDirectory.sheetFiles (ran.2.store.namesIn ["books"]) :=
    SheetDirectory.mem_sheetFiles.mpr (by decide +kernel)
  have named : Disk.IsName "Savings.csv" := by constructor <;> decide +kernel
  refine ⟨SheetDirectory.sound_budgetsDisk named (by decide), ran.2, ?_, fun loads => ?_⟩
  · cases result : ran.1 with
    | error problem =>
        rw [result] at succeeds
        cases succeeds
    | ok value => exact Prod.ext result rfl
  · have stays := (SheetDirectory.mem_names_loaded leads loads).mpr ⟨_, listed⟩
    revert stays
    decide

end Invocation

end SheetPost
