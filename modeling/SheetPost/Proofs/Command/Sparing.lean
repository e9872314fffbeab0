import SheetPost.Proofs.Command.Posting
import SheetPost.Proofs.Gateway.Login
import SheetPost.Proofs.Posting.AllOrNothing
import SheetPost.Proofs.Posting.Fallback

/-!
# Runs that change no file

A command that asks and is refused leaves the files as they are. Most commands prepare for their
request with notes and nothing else, send it, and touch a file only after the answer has turned out
to be what they asked for; some commands never touch one. A command that needs a session and finds
none ends before it has sent anything.
-/

namespace SheetPost

open Conversation Conversing

namespace Answer

def GrantsToken (answer : Answer) : Prop :=
  ∃ body reading token, answer = .replied 200 body ∧ Reading.ofText? body = some reading ∧
    accessToken? reading = some token ∧ trim token ≠ ""

theorem grantsToken_of_token? {answer : Answer} {token : String}
    (sent : answer.token? = some token) (visible : trim token ≠ "") : answer.GrantsToken := by
  unfold token? at sent
  split at sent
  · next body =>
      rcases Option.bind_eq_some_iff.mp sent with ⟨reading, read, isToken⟩
      exact ⟨body, reading, token, rfl, read, isToken, visible⟩
  · cases sent

def GivesTotals (answer : Answer) : Prop :=
  ∃ body reading totals, answer = .replied 200 body ∧ Reading.ofText? body = some reading ∧
    reading.totals? = some totals

end Answer

/-! ## Steps that wait for an answer -/

namespace Conversing

variable {ε σ α β : Type}

/-- The step leaves the store alone unless the next answer allows it to do something else. -/
def SparesUnless (allowed : σ → Answer → Prop) (step : Conversing ε σ α) : Prop :=
  ∀ before result after, step before = (result, after) → after.store ≠ before.store →
    allowed before.store (Answer.next before.answers)

/-- The step asks and does nothing to the store, and its value is in this relation to the answer. -/
def Asks (heard : Answer → α → Prop) (step : Conversing ε σ α) : Prop :=
  ∀ before result after, step before = (result, after) → after.store = before.store ∧
    ∀ value, result = .ok value → heard (Answer.next before.answers) value

variable {allowed : σ → Answer → Prop} {heard : Answer → α → Prop}

theorem Remarks.spares {step : Conversing ε σ α} (remarks : Remarks step) :
    SparesUnless allowed step :=
  fun _ _ _ ran changed => absurd (remarks.of_ran ran).store changed

theorem Asks.spares {step : Conversing ε σ α} (asks : Asks heard step) :
    SparesUnless allowed step :=
  fun _ _ _ ran changed => absurd (asks _ _ _ ran).1 changed

theorem SparesUnless.bind_of_remarks {first : Conversing ε σ α} {next : α → Conversing ε σ β}
    (remarks : Remarks first) (later : ∀ value, SparesUnless allowed (next value)) :
    SparesUnless allowed (first >>= next) := by
  intro before result after ran changed
  rcases bind_cases ran with ⟨error, failed, _⟩ | ⟨value, middle, went, ranLater⟩
  · exact absurd (remarks.of_ran failed).store changed
  · have remarked := remarks.of_ran went
    rw [← remarked.store] at changed ⊢
    rw [← remarked.answers]
    exact later value middle result after ranLater changed

theorem SparesUnless.then_remarks {first : Conversing ε σ α} {next : α → Conversing ε σ β}
    (spares : SparesUnless allowed first) (remarks : ∀ value, Remarks (next value)) :
    SparesUnless allowed (first >>= next) := by
  intro before result after ran changed
  rcases bind_cases ran with ⟨error, failed, _⟩ | ⟨value, middle, went, ranLater⟩
  · exact spares before _ after failed changed
  · rw [((remarks value).of_ran ranLater).store] at changed
    exact spares before _ middle went changed

theorem SparesUnless.failingAs {δ : Type} {wrap : δ → ε} {step : Conversing δ σ α}
    (spares : SparesUnless allowed step) :
    SparesUnless allowed (failingAs wrap step : Conversing ε σ α) := by
  intro before result after ran
  cases ranStep : step before with
  | mk resultStep afterStep =>
      cases (Step.adapt_apply wrap ranStep).symm.trans ran
      exact spares before _ _ ranStep

theorem Asks.bind_spares {first : Conversing ε σ α} {next : α → Conversing ε σ β}
    (asks : Asks heard first) :
    SparesUnless (fun _ answer => ∃ value, heard answer value) (first >>= next) := by
  intro before result after ran changed
  rcases bind_cases ran with ⟨error, failed, _⟩ | ⟨value, middle, went, _⟩
  · exact absurd (asks before _ after failed).1 changed
  · exact ⟨value, (asks before _ middle went).2 value rfl⟩

theorem Asks.bind_remarks {told : Answer → β → Prop} {first : Conversing ε σ α}
    {next : α → Conversing ε σ β} (asks : Asks heard first)
    (remarks : ∀ value, Remarks (next value))
    (judged : ∀ {answer value before last after}, heard answer value →
      next value before = (.ok last, after) → told answer last) :
    Asks told (first >>= next) := by
  intro before result after ran
  rcases bind_cases ran with ⟨error, failed, rfl⟩ | ⟨value, middle, went, ranLater⟩
  · exact ⟨(asks before _ after failed).1, nofun⟩
  · rcases asks before _ middle went with ⟨same, isHeard⟩
    refine ⟨((remarks value).of_ran ranLater).store.trans same, ?_⟩
    rintro last rfl
    exact judged (isHeard value rfl) ranLater

theorem Asks.failingAs {δ : Type} {wrap : δ → ε} {step : Conversing δ σ α}
    (asks : Asks heard step) : Asks heard (failingAs wrap step : Conversing ε σ α) := by
  intro before result after ran
  cases ranStep : step before with
  | mk resultStep afterStep =>
      cases (Step.adapt_apply wrap ranStep).symm.trans ran
      rcases asks before _ _ ranStep with ⟨same, isHeard⟩
      refine ⟨same, fun value told => ?_⟩
      cases resultStep with
      | error error => cases told
      | ok value =>
          cases told
          exact isHeard value rfl

end Conversing

namespace Client

variable {σ : Type}

theorem execute_asks (client : Client) (operation : Operation) (session : Option Session) :
    Asks (fun answer reply => classify operation answer = .ok reply)
      (client.execute operation session : Conversing Failure σ Reply) := by
  intro before result after ran
  cases carried : bearer? operation session with
  | error failure =>
      rw [execute, carried] at ran
      cases ran
      exact ⟨rfl, nofun⟩
  | ok bearer =>
      rcases client.execute_sends carried before with ⟨sent, sends, _, store, _⟩
      cases sends.symm.trans ran
      exact ⟨store, fun _ told => told⟩

theorem register_asks (client : Client) (credentials : Credentials) :
    Asks (fun _ _ => True) (client.register credentials : Conversing Failure σ Unit) := by
  refine (client.execute_asks (.register credentials) none).bind_remarks (fun reply => ?_)
    fun _ _ => trivial
  split
  · exact .note _ _
  · exact .of_result (.error _)

theorem loginAndStore_asks (client : Client) (credentials : Credentials) (sheet : Table) :
    Asks (fun answer stored => ∃ token, answer.token? = some token ∧ trim token ≠ "" ∧
        stored.2 = sheet.set AuthSheet.valuesRow AuthSheet.tokenColumn (.ofText (trim token)))
      (client.loginAndStore credentials sheet : Conversing Failure σ (Session × Table)) := by
  intro before result after ran
  have ⟨_, ranAgain, store⟩ := client.loginAndStore_apply credentials sheet before
  cases ranAgain.symm.trans ran
  refine ⟨store, ?_⟩
  intro stored granted
  cases session : sessionOfAnswer credentials (Answer.next before.answers) with
  | error failure =>
      rw [session] at granted
      cases granted
  | ok session =>
      rw [session] at granted
      cases granted
      have ⟨token, sent, visible, same⟩ := sessionOfAnswer_eq_ok_iff.mp session
      exact ⟨token, sent, visible, by rw [same]; rfl⟩

theorem givesTotals_of_summary {first last : Date} {answer : Answer} {reply : Reply}
    {totals : List CategoryTotal}
    (replied : classify (.reportSummary first last) answer = .ok reply)
    (succeeded : reply.succeeded = true) (read : summaryOfText reply.body = .ok totals) :
    answer.GivesTotals := by
  rcases classify_ok replied with ⟨rfl, same⟩
  have status : reply.status = 200 := by
    rw [succeeded] at same
    simpa [Operation.succeeds, Operation.successStatuses] using same.symm
  unfold summaryOfText at read
  split at read
  · next entries found =>
      rcases Option.bind_eq_some_iff.mp found with ⟨reading, isRead, isTotals⟩
      exact ⟨reply.body, reading, entries, by rw [status], isRead, isTotals⟩
  · cases read

theorem fetchSummary_asks (client : Client) (session : Session) (first last : Date) :
    Asks (fun answer _ => answer.GivesTotals)
      (client.fetchSummary session first last : Conversing Failure σ (List CategoryTotal)) := by
  refine (client.execute_asks _ (some session)).bind_remarks (fun reply => ?_) ?_
  · split
    · exact (Remarks.of_result _).bind fun _ => (Remarks.note _ _).bind fun _ => .of_result (.ok _)
    · exact .of_result (.error _)
  · intro answer reply before totals after replied ran
    split at ran
    · next succeeded =>
        rcases bind_cases ran with ⟨_, _, impossible⟩ | ⟨found, middle, read, _⟩
        · cases impossible
        · exact givesTotals_of_summary replied succeeded (Prod.ext_iff.mp read).1
    · cases ran

end Client

/-! ## Commands -/

/-- What the answer has to be before a command touches a file. Some commands never touch one, and
others need no answer for it. Posting all transactions in one request without resending them waits
for an answer that settles the rows that were sent. -/
def Command.Allowed (frame : Frame) : Command → Disk → Answer → Prop
  | .register, _, _ | .loginStatus, _, _ | .list .., _, _ | .ping, _, _ | .showSettings, _, _ =>
      False
  | .login _, _, answer => answer.GrantsToken
  | .report .., _, answer => answer.GivesTotals
  | .syncTransactions flags, disk, answer =>
      flags.bulk = true → (frame.options flags).fallback = false →
        ∃ workbook, frame.store.load disk = .ok workbook ∧
          ¬answer.Flawed (extract NewTransaction (workbook.sheetFor .transactions)
            (flags.skipProcessed || frame.settings.skipProcessed)).rows.length
  | .syncBudgets _, _, _ | .logout, _, _ | .writeSettings, _, _ | .createWorkbook _, _, _ => True

namespace Frame

variable {α : Type} {allowed : Disk → Answer → Prop}

theorem requireEmail_remarks (credentials : Credentials) : Remarks (requireEmail credentials) := by
  unfold requireEmail
  split
  · exact .of_result (.error _)
  · exact .of_result (.ok ())

theorem requirePassword_remarks (credentials : Credentials) :
    Remarks (requirePassword credentials) := by
  unfold requirePassword
  split
  · exact .of_result (.error _)
  · exact .of_result (.ok ())

theorem askPassword_remarks (frame : Frame) (credentials : Credentials) :
    Remarks (frame.askPassword credentials) := by
  refine (requireEmail_remarks credentials).bind fun _ => ?_
  cases frame.surroundings.typedPassword with
  | some password => exact .of_result (.ok _)
  | none => exact .of_result (.error _)

theorem register_spares (frame : Frame) : SparesUnless allowed frame.register := by
  refine .bind_of_remarks frame.load_remarks fun workbook => ?_
  refine .bind_of_remarks (requireEmail_remarks _) fun _ => ?_
  refine .bind_of_remarks (requirePassword_remarks _) fun _ => ?_
  exact .then_remarks (frame.client.register_asks _).failingAs.spares fun _ => print_remarks _

def credentialsFor (frame : Frame) (prompt : Bool) (stored : Credentials) : Running Credentials :=
  if prompt then frame.askPassword stored else pure stored

def loginWith (frame : Frame) (workbook : Workbook) (credentials : Credentials) :
    Running Unit := do
  requireEmail credentials
  requirePassword credentials
  let (_, sheet) ← failingAs .failed
    (frame.client.loginAndStore credentials (workbook.sheetFor .auth))
  frame.save (workbook.update .auth fun _ => sheet)
  print ["✓ Logged in as " ++ credentials.email]

theorem login_eq (frame : Frame) (prompt : Bool) :
    frame.login prompt = frame.load >>= fun workbook =>
      frame.credentialsFor prompt (AuthSheet.credentials (workbook.sheetFor .auth)) >>=
        frame.loginWith workbook := by
  cases prompt <;> rfl

theorem credentialsFor_remarks (frame : Frame) (prompt : Bool) (stored : Credentials) :
    Remarks (frame.credentialsFor prompt stored) := by
  unfold credentialsFor
  split
  · exact frame.askPassword_remarks stored
  · exact .of_result (.ok stored)

theorem login_spares (frame : Frame) (prompt : Bool) :
    SparesUnless (fun _ answer => answer.GrantsToken) (frame.login prompt) := by
  rw [login_eq]
  refine .bind_of_remarks frame.load_remarks fun workbook => ?_
  refine .bind_of_remarks (frame.credentialsFor_remarks _ _) fun credentials => ?_
  refine .bind_of_remarks (requireEmail_remarks _) fun _ => ?_
  refine .bind_of_remarks (requirePassword_remarks _) fun _ => ?_
  intro before result after ran changed
  rcases (frame.client.loginAndStore_asks credentials _).failingAs.bind_spares before result
    after ran changed with ⟨_, token, sent, visible, _⟩
  exact Answer.grantsToken_of_token? sent visible

theorem loginStatus_remarks (frame : Frame) : Remarks frame.loginStatus := by
  refine frame.load_remarks.bind fun workbook => ?_
  cases AuthSheet.session? (workbook.sheetFor .auth) with
  | some session => exact print_remarks _
  | none => exact print_remarks _

theorem report_spares (frame : Frame) (first? last? : Option Date) :
    SparesUnless (fun _ answer => answer.GivesTotals) (frame.report first? last?) := by
  unfold report
  dsimp only
  split
  · exact (Remarks.of_result (.error _)).spares
  refine .bind_of_remarks frame.load_remarks fun workbook => ?_
  refine .bind_of_remarks (session_remarks workbook) fun session => ?_
  intro before result after ran changed
  rcases (frame.client.fetchSummary_asks session _ _).failingAs.bind_spares before result after
    ran changed with ⟨_, given⟩
  exact given

theorem fetchList_spares (frame : Frame) (session : Session) (operation : Operation)
    (item? : Reading → Option α) :
    SparesUnless allowed (frame.fetchList session operation item?) := by
  refine .then_remarks (frame.client.execute_asks operation session).failingAs.spares
    fun reply => ?_
  split
  · split
    · exact .of_result (.ok _)
    · exact .of_result (.error _)
  · exact .of_result (.error _)

theorem list_spares (frame : Frame) (listing : Listing) (json : Bool) :
    SparesUnless allowed (frame.list listing json) := by
  refine .bind_of_remarks frame.load_remarks fun workbook => ?_
  refine .bind_of_remarks (session_remarks workbook) fun session => ?_
  cases listing with
  | transactions => exact .then_remarks (frame.fetchList_spares _ _ _) fun _ => print_remarks _
  | budgets => exact .then_remarks (frame.fetchList_spares _ _ _) fun _ => print_remarks _

theorem ping_spares (frame : Frame) : SparesUnless allowed frame.ping := by
  refine .then_remarks (frame.client.execute_asks .ping none).failingAs.spares fun reply => ?_
  split
  · exact print_remarks _
  · exact .of_result (.error _)

theorem showSettings_remarks (frame : Frame) : Remarks frame.showSettings :=
  .get_bind fun _ => (print_remarks _).bind fun _ =>
    fun _ => ⟨rfl, rfl, [.printed frame.settings.fileText], rfl, rfl⟩

theorem dispatchBulk_spares (dispatcher : Dispatcher) (extraction : Extraction NewTransaction)
    {options : SyncOptions} (bulk : options.bulk = true) (stands : options.fallback = false)
    (workbook : Workbook) (sink : StatusSink (Workbook × Disk)) :
    SparesUnless (fun _ answer => ¬answer.Flawed extraction.rows.length)
      (withWorkbook workbook (dispatcher.syncTransactions extraction options sink)) := by
  intro before result after ran changed flawed
  let talking : Conversation (Workbook × Disk) := { before with store := (workbook, before.store) }
  rcases dispatcher.dispatchBulk_posted sink extraction options.workers talking with
    ⟨_, _, last, ranBulk, posted, _⟩
  have kept := dispatcher.syncTransactions_kept sink extraction options bulk talking
    (by rw [stands]; rfl)
  have same : after.store = last.store.2 := by
    cases (withWorkbook_apply (kept.trans ranBulk)).symm.trans ran
    rfl
  rcases posted.of_flawed flawed with ⟨_, _, untouched⟩
  rw [same, untouched] at changed
  exact changed rfl

theorem post_spares [SheetRecord α] {frame : Frame} {skipProcessed : Bool}
    {announce : Table → Extraction α → Running Unit}
    {dispatch : Dispatcher → Extraction α → StatusSink (Workbook × Disk) →
      Conversing Failure (Workbook × Disk) SyncReport}
    {allowed : Workbook → Answer → Prop}
    (remarks : ∀ sheet extraction, Remarks (announce sheet extraction))
    (spares : ∀ workbook dispatcher sink, SparesUnless (fun _ => allowed workbook)
      (withWorkbook workbook (dispatch dispatcher (extract α
        (workbook.sheetFor (SheetRecord.schema α))
        (skipProcessed || frame.settings.skipProcessed)) sink))) :
    SparesUnless
      (fun disk answer => ∃ workbook, frame.store.load disk = .ok workbook ∧
        allowed workbook answer)
      (post α frame skipProcessed announce dispatch) := by
  intro before result after ran changed
  rcases bind_cases ran with ⟨_, failed, _⟩ | ⟨workbook, middle, loaded, ranPost⟩
  · exact absurd (frame.load_remarks.of_ran failed).store changed
  rcases load_ok loaded with ⟨loads, rfl⟩
  refine ⟨workbook, loads, ?_⟩
  refine (?_ : SparesUnless (fun _ => allowed workbook) _) _ _ _ ranPost changed
  refine .bind_of_remarks (session_remarks workbook) fun session => ?_
  dsimp only
  split
  · exact (print_remarks _).spares
  · refine .bind_of_remarks (remarks _ _) fun _ => .then_remarks ?_ fun _ => print_remarks _
    exact (spares workbook _ _).failingAs

theorem syncTransactions_spares (frame : Frame) (flags : PostingFlags) :
    SparesUnless ((Command.syncTransactions flags).Allowed frame)
      (frame.syncTransactions flags) := by
  intro before result after ran changed bulk stands
  exact post_spares (fun _ _ => .note _ _)
    (fun workbook dispatcher sink => dispatchBulk_spares dispatcher _ bulk stands workbook sink)
    before result after ran changed

theorem run_spares (frame : Frame) (command : Command) :
    SparesUnless (command.Allowed frame) (frame.run command) := by
  cases command with
  | register => exact frame.register_spares
  | login prompt => exact frame.login_spares prompt
  | loginStatus => exact frame.loginStatus_remarks.spares
  | syncTransactions flags => exact frame.syncTransactions_spares flags
  | report first last => exact frame.report_spares first last
  | list listing json => exact frame.list_spares listing json
  | ping => exact frame.ping_spares
  | showSettings => exact frame.showSettings_remarks.spares
  | logout => exact fun _ _ _ _ _ => trivial
  | syncBudgets skipProcessed => exact fun _ _ _ _ _ => trivial
  | writeSettings => exact fun _ _ _ _ _ => trivial
  | createWorkbook force => exact fun _ _ _ _ _ => trivial

end Frame

/-! ## Without a session -/

/-- The commands that need a session. A report on a range that ends before it begins is turned down
before a session is looked for. -/
def Command.NeedsSession (today : Date) : Command → Prop
  | .syncTransactions _ | .syncBudgets _ | .list .. => True
  | .report first? last? => first?.getD today.monthRange.1 ≤ last?.getD today.monthRange.2
  | _ => False

namespace Frame

theorem session_missing {workbook : Workbook}
    (missing :
      trim ((workbook.sheetFor .auth).get AuthSheet.valuesRow AuthSheet.tokenColumn).shown = "")
    (before : Conversation Disk) :
    session workbook before = (.error (.failed .missingSession), before) := by
  have absent : AuthSheet.session? (workbook.sheetFor .auth) = none := by
    unfold AuthSheet.session? Session.of?
    rw [if_pos missing]
  unfold session
  rw [absent]
  rfl

theorem run_without_session {frame : Frame} {command : Command} {before : Conversation Disk}
    {workbook : Workbook} (needs : command.NeedsSession frame.surroundings.today)
    (loads : frame.store.load before.store = .ok workbook)
    (missing :
      trim ((workbook.sheetFor .auth).get AuthSheet.valuesRow AuthSheet.tokenColumn).shown = "") :
    frame.run command before = (.error (.failed .missingSession), before) := by
  have loaded := load_apply loads
  have ends {α : Type} (next : Session → Running α) :
      (session workbook >>= next) before = (.error (.failed .missingSession), before) :=
    bind_error (session_missing missing before)
  cases command with
  | syncTransactions flags => exact (bind_ok loaded).trans (ends _)
  | syncBudgets skipProcessed => exact (bind_ok loaded).trans (ends _)
  | list listing json => exact (bind_ok loaded).trans (ends _)
  | report first? last? =>
      change frame.report first? last? before = _
      unfold report
      dsimp only [Command.NeedsSession] at needs ⊢
      rw [if_neg (not_not_intro needs)]
      exact (bind_ok loaded).trans (ends _)
  | _ => exact needs.elim

end Frame

namespace Invocation

theorem surroundings_of_frame {invocation : Invocation} {around : Surroundings}
    {before middle : Conversation Disk} {frame : Frame}
    (found : invocation.frame around before = (.ok frame, middle)) :
    frame.surroundings = around := by
  rcases bind_cases found with ⟨_, _, impossible⟩ | ⟨settings, _, _, made⟩
  · cases impossible
  · cases made
    rfl

/-- A run changes a file only if the answer allows its command to do so. Where a session is needed
and the token is missing, a run makes notes and fails. -/
theorem run_spares_files (invocation : Invocation) (around : Surroundings)
    (before : Conversation Disk) :
    let result := (invocation.run around before).1
    let after := (invocation.run around before).2
    (after.store ≠ before.store →
      ∃ frame middle, invocation.frame around before = (.ok frame, middle) ∧
        invocation.command.Allowed frame before.store (Answer.next before.answers)) ∧
    ∀ frame middle workbook, invocation.frame around before = (.ok frame, middle) →
      frame.store.load before.store = .ok workbook →
      trim ((workbook.sheetFor .auth).get AuthSheet.valuesRow AuthSheet.tokenColumn).shown = "" →
      invocation.command.NeedsSession around.today →
        result = .error (.failed .missingSession) ∧ Remarked before after := by
  intro result after
  have ran : invocation.run around before = (result, after) := rfl
  have settings := invocation.frame_remarks around
  constructor
  · intro changed
    rcases bind_cases ran with ⟨_, failed, _⟩ | ⟨frame, middle, found, ranFrame⟩
    · exact absurd (settings.of_ran failed).store changed
    · have remarked := settings.of_ran found
      refine ⟨frame, middle, found, ?_⟩
      rw [← remarked.store] at changed ⊢
      rw [← remarked.answers]
      exact SparesUnless.bind_of_remarks (.note _ _) (fun _ => frame.run_spares _) middle result
        after ranFrame changed
  · intro frame middle workbook found loads missing needs
    rcases run_of_frame found with ⟨noted, remarked, ranFrame⟩
    have failed : frame.run invocation.command noted =
        (.error (.failed .missingSession), noted) :=
      Frame.run_without_session (surroundings_of_frame found ▸ needs) (remarked.store ▸ loads)
        missing
    have same : (result, after) = (.error (.failed .missingSession), noted) :=
      ran.symm.trans (ranFrame.trans failed)
    rcases Prod.mk.inj same with ⟨isMissing, isNoted⟩
    exact ⟨isMissing, isNoted ▸ remarked⟩

/-! ## Runs on a spreadsheet file with an account and no token -/

def accountDisk : Disk where
  workingDirectory := []
  entries := [(["k.xlsx"], .file (.book ⟨[⟨"Auth",
    [((0, 0), .text "email"), ((0, 1), .text "password"), ((0, 2), .text "token"),
      ((1, 0), .text "a@b.c"), ((1, 1), .text "pw")]⟩]⟩))]

def onAccount (command : Command) : Invocation where
  verbosity := 0
  settingsFile := none
  workbook := some "k.xlsx"
  command

theorem run_spares_files_account :
    let granted : Conversation Disk :=
      ⟨[.replied 200 "\x7b\"access_token\":\"tok\"\x7d"], [], accountDisk⟩
    let refused : Conversation Disk := ⟨[.replied 401 "no such account"], [], accountDisk⟩
    (Answer.next granted.answers).GrantsToken ∧
    ((onAccount (.login false)).run bareSurroundings refused).2.store = accountDisk ∧
    ((onAccount (.syncBudgets false)).run bareSurroundings granted).1 =
      .error (.failed .missingSession) ∧
    ((onAccount (.syncBudgets false)).run bareSurroundings granted).2.answers =
      granted.answers := by
  intro granted refused
  have changed :
      ((onAccount (.login false)).run bareSurroundings granted).2.store ≠ accountDisk := by
    decide +kernel
  refine ⟨?_, ?_, ?_⟩
  · rcases (run_spares_files _ _ granted).1 changed with ⟨_, _, _, allowed⟩
    exact allowed
  · by_contra changedAgain
    rcases (run_spares_files _ _ refused).1 changedAgain with ⟨_, _, _, _, _, _, answered, _⟩
    cases answered
  · let frame : Frame :=
      ⟨{ Settings.standard with workbook := "k.xlsx" }, none, bareSurroundings⟩
    have found : (onAccount (.syncBudgets false)).frame bareSurroundings granted =
        (.ok frame,
          { granted with journal := [.noted .debug "No config file found, using defaults"] }) :=
      rfl
    have loads : frame.store.load accountDisk = .ok ⟨[⟨"Auth",
        [[.text "email", .text "password", .text "token"],
          [.text "a@b.c", .text "pw", .empty]]⟩]⟩ := by
      decide +kernel
    rcases (run_spares_files _ _ granted).2 frame _ _ found loads (by decide +kernel) trivial with
      ⟨failed, remarked⟩
    exact ⟨failed, remarked.answers⟩

end Invocation

end SheetPost
