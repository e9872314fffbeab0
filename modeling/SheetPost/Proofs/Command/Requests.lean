import SheetPost.Proofs.Command.Sparing

namespace SheetPost

open Conversation Conversing

/-! ## Steps that send requests of one kind -/

namespace Conversing

variable {ε σ α β : Type}

def Sends (allowed : Request → Prop) (step : Conversing ε σ α) : Prop :=
  ∀ before, ∃ events, Adds before (step before).2 events ∧
    ∀ request ∈ requestsIn events, allowed request

variable {allowed : Request → Prop}

theorem Remarks.sends {step : Conversing ε σ α} (remarks : Remarks step) : Sends allowed step :=
  fun before => ⟨[], (remarks before).adds, nofun⟩

theorem Sends.onStore {δ : Type} (wrap : δ → ε) (action : ExceptT δ (StateM σ) α) :
    Sends allowed (onStore wrap action) :=
  fun before => ⟨[], ⟨[], (List.append_nil before.journal).symm, rfl⟩, nofun⟩

theorem Sends.bind {first : Conversing ε σ α} {next : α → Conversing ε σ β}
    (sends : Sends allowed first) (later : ∀ value, Sends allowed (next value)) :
    Sends allowed (first >>= next) := by
  intro before
  rcases sends before with ⟨events, adds, among⟩
  cases ran : first before with
  | mk result middle =>
      rw [ran] at adds
      cases result with
      | error error =>
          rw [bind_error ran]
          exact ⟨events, adds, among⟩
      | ok value =>
          rw [bind_ok ran]
          rcases later value middle with ⟨more, addsLater, amongLater⟩
          refine ⟨events ++ more, adds.trans addsLater, fun request sent => ?_⟩
          rw [requestsIn_append, List.mem_append] at sent
          exact sent.elim (among request) (amongLater request)

theorem Sends.get_bind {next : Conversation σ → Conversing ε σ α}
    (later : ∀ conversation, Sends allowed (next conversation)) : Sends allowed (get >>= next) :=
  fun before => later before before

theorem Sends.failingAs {δ : Type} {wrap : δ → ε} {step : Conversing δ σ α}
    (sends : Sends allowed step) : Sends allowed (failingAs wrap step : Conversing ε σ α) := by
  intro before
  cases ran : step before with
  | mk result after =>
      have sent := sends before
      rw [ran] at sent
      rw [failingAs_apply wrap ran]
      exact sent

theorem Sends.execute (client : Client) {operation : Operation} {session : Option Session}
    (allows : ∀ bearer, Client.bearer? operation session = .ok bearer →
      allowed (client.request operation bearer)) :
    Sends allowed (client.execute operation session : Conversing Failure σ Reply) := by
  intro before
  cases carried : Client.bearer? operation session with
  | error failure =>
      rw [Client.execute, carried]
      exact ⟨[], .refl before, fun request sent => absurd sent List.not_mem_nil⟩
  | ok bearer =>
      rcases client.execute_sends carried before with ⟨after, ran, _, _, adds⟩
      rw [ran]
      exact ⟨_, adds, fun request sent => List.mem_singleton.mp sent ▸ allows bearer carried⟩

end Conversing

/-! ## What a request carries -/

def Workbook.token? (workbook : Workbook) : Option String :=
  (AuthSheet.session? (workbook.sheetFor .auth)).map (·.token)

/-- A request for an operation while this token is in force. All that is asked of the gateway but
the ping is asked with the token; without one there is no such request. -/
def Client.Carries (client : Client) (token : Option String) (operation : Operation)
    (request : Request) : Prop :=
  if operation.service = .gateway ∧ operation ≠ .ping then
    ∃ held, token = some held ∧ request = client.request operation (some held)
  else request = client.request operation none

def Command.Poses : Command → Operation → Prop
  | .register, .register _ => True
  | .login _, .login _ => True
  | .syncTransactions _, .createTransaction _ => True
  | .syncTransactions flags, .bulkImport .. => flags.bulk = true
  | .syncBudgets _, .createBudget _ => True
  | .report .., .reportSummary .. => True
  | .list .transactions _, .listTransactions => True
  | .list .budgets _, .listBudgets => True
  | .ping, .ping => True
  | _, _ => False

def Command.Requests (command : Command) (client : Client) (token : Option String)
    (request : Request) : Prop :=
  ∃ operation, command.Poses operation ∧ client.Carries token operation request

theorem Operation.requiresSession_iff {operation : Operation} :
    operation.requiresSession = true ↔ operation.service = .gateway ∧ operation ≠ .ping := by
  cases operation <;> simp [requiresSession, service]

namespace Client

variable {client : Client} {operation : Operation} {token : Option String}

theorem carries_of_session {session : Session} (same : token = some session.token) :
    client.Carries token operation (client.sessionRequest operation session) := by
  unfold Carries sessionRequest
  by_cases needed : operation.requiresSession = true
  · rw [if_pos needed, if_pos (Operation.requiresSession_iff.mp needed)]
    exact ⟨session.token, same, rfl⟩
  · rw [if_neg needed, if_neg fun asks => needed (Operation.requiresSession_iff.mpr asks)]

theorem carries_of_free {session : Option Session} {bearer : Option String}
    (free : operation.requiresSession = false)
    (carried : bearer? operation session = .ok bearer) :
    client.Carries token operation (client.request operation bearer) := by
  unfold bearer? at carried
  rw [free, if_neg Bool.false_ne_true] at carried
  cases carried
  refine (if_neg fun asks => ?_).mpr rfl
  rw [Operation.requiresSession_iff.mpr asks] at free
  cases free

end Client

theorem Conversing.Sends.execute_session {σ : Type} {client : Client} {operation : Operation}
    {session : Session} {allowed : Request → Prop}
    (allows : allowed (client.sessionRequest operation session)) :
    Sends allowed (client.execute operation (some session) : Conversing Failure σ Reply) := by
  refine .execute client fun bearer carried => ?_
  rw [Client.bearer?_session] at carried
  cases carried
  exact allows

namespace Frame

open PostedSheet

variable {frame : Frame} {workbook : Workbook} {before : Conversation Disk} {token : Option String}

/-! ## Commands that need no token -/

theorem register_sends (frame : Frame) :
    Sends (Command.register.Requests frame.client token) frame.register := by
  refine frame.load_remarks.sends.bind fun workbook => ?_
  refine (requireEmail_remarks _).sends.bind fun _ => ?_
  refine (requirePassword_remarks _).sends.bind fun _ => ?_
  refine .bind (.failingAs (.bind ?_ fun reply => ?_)) fun _ => (print_remarks _).sends
  · exact .execute _ fun _ carried => ⟨.register _, trivial, Client.carries_of_free rfl carried⟩
  · split
    · exact (Remarks.note _ _).sends
    · exact (Remarks.of_result (.error _)).sends

theorem login_sends (frame : Frame) (prompt : Bool) :
    Sends ((Command.login prompt).Requests frame.client token) (frame.login prompt) := by
  rw [login_eq]
  refine frame.load_remarks.sends.bind fun workbook => ?_
  refine (frame.credentialsFor_remarks _ _).sends.bind fun credentials => ?_
  refine (requireEmail_remarks _).sends.bind fun _ => ?_
  refine (requirePassword_remarks _).sends.bind fun _ => ?_
  refine .bind (.failingAs (.bind (.bind ?_ fun reply => ?_) fun session => ?_))
    fun stored => .bind (.onStore _ _) fun _ => (print_remarks _).sends
  · exact .execute _ fun _ carried => ⟨.login _, trivial, Client.carries_of_free rfl carried⟩
  · exact (Remarks.of_result _).sends
  · exact ((Remarks.note _ _).bind fun _ => .of_result (.ok _)).sends

theorem ping_sends (frame : Frame) :
    Sends (Command.ping.Requests frame.client token) frame.ping := by
  refine .bind (.failingAs (.execute _ fun bearer carried => ?_)) fun reply => ?_
  · exact ⟨.ping, trivial, Client.carries_of_free rfl carried⟩
  · split
    · exact (print_remarks _).sends
    · exact (Remarks.of_result (.error _)).sends

theorem writeSettings_sends (frame : Frame) {allowed : Request → Prop} :
    Sends allowed frame.writeSettings := by
  unfold writeSettings
  split
  · refine .bind (.get_bind fun conversation => ?_) fun _ => (print_remarks _).sends
    split
    · exact (Remarks.of_result (.error _)).sends
    · exact .onStore _ _
  · exact (Remarks.of_result (.error _)).sends

theorem createWorkbook_sends (frame : Frame) (force : Bool) {allowed : Request → Prop} :
    Sends allowed (frame.createWorkbook force) := by
  refine .get_bind fun conversation => ?_
  split
  · exact (Remarks.of_result (.error _)).sends
  · exact .bind (.onStore _ _) fun _ => (print_remarks _).sends

/-! ## Commands that need the token -/

section Session

variable {α : Type} {allowed : Request → Prop}

theorem session_sends {next : Session → Running α}
    (later : ∀ session : Session, workbook.token? = some session.token →
      Sends allowed (next session)) :
    Sends allowed (session workbook >>= next) := by
  unfold session
  cases found : AuthSheet.session? (workbook.sheetFor .auth) with
  | none => exact fun before => ⟨[], .refl before, nofun⟩
  | some session => exact later session (by rw [Workbook.token?, found]; rfl)

theorem load_sends {next : Workbook → Running α}
    (loads : frame.store.load before.store = .ok workbook) (later : Sends allowed (next workbook)) :
    ∃ events, Adds before ((frame.load >>= next) before).2 events ∧
      ∀ request ∈ requestsIn events, allowed request := by
  rw [bind_ok (load_apply loads)]
  exact later before

theorem report_sends (first? last? : Option Date)
    (loads : frame.store.load before.store = .ok workbook) :
    ∃ events, Adds before (frame.report first? last? before).2 events ∧
      ∀ request ∈ requestsIn events,
        (Command.report first? last?).Requests frame.client workbook.token? request := by
  unfold report
  dsimp only
  split
  · exact (Remarks.of_result (.error _)).sends before
  refine load_sends loads (session_sends fun session same => ?_)
  refine .bind (.failingAs (.bind ?_ fun reply => ?_)) fun totals => ?_
  · exact .execute_session ⟨.reportSummary _ _, trivial, Client.carries_of_session same⟩
  · split
    · exact ((Remarks.of_result _).bind fun _ =>
        (Remarks.note _ _).bind fun _ => .of_result (.ok _)).sends
    · exact (Remarks.of_result (.error _)).sends
  · exact .bind (.onStore _ _) fun _ => (print_remarks _).sends

theorem fetchList_sends {session : Session} {operation : Operation} {item? : Reading → Option α}
    (allows : allowed (frame.client.sessionRequest operation session)) :
    Sends allowed (frame.fetchList session operation item?) := by
  refine .bind (.failingAs (.execute_session allows)) fun reply => ?_
  split
  · split
    · exact (Remarks.of_result (.ok _)).sends
    · exact (Remarks.of_result (.error _)).sends
  · exact (Remarks.of_result (.error _)).sends

theorem list_sends (listing : Listing) (json : Bool)
    (loads : frame.store.load before.store = .ok workbook) :
    ∃ events, Adds before (frame.list listing json before).2 events ∧
      ∀ request ∈ requestsIn events,
        (Command.list listing json).Requests frame.client workbook.token? request := by
  refine load_sends loads (session_sends fun session same => ?_)
  cases listing with
  | transactions =>
      refine .bind (fetchList_sends ?_) fun _ => (print_remarks _).sends
      exact ⟨.listTransactions, trivial, Client.carries_of_session same⟩
  | budgets =>
      refine .bind (fetchList_sends ?_) fun _ => (print_remarks _).sends
      exact ⟨.listBudgets, trivial, Client.carries_of_session same⟩

theorem dispatch_sends {kind : PostedSheet} {dispatcher : Dispatcher} {options : SyncOptions}
    {skips : Bool} (store : WorkbookStore)
    (opens : ∀ request ∈ kind.opening dispatcher (kind.extraction workbook skips) options,
      allowed request)
    (creates : ∀ record : kind.Record, allowed (dispatcher.creation record)) :
    Sends allowed (withWorkbook workbook
      (kind.dispatch dispatcher (kind.extraction workbook skips) options
        (statusSink store kind.schema kind.statusColumn)) : Conversing Failure Disk SyncReport) := by
  intro before
  rcases dispatch_posted kind dispatcher (Extraction.rows_nodup _ _) options
    (statusSink_writesInto store kind.schema kind.statusColumn)
    { before with store := (workbook, before.store) } with
    ⟨events, result, after, ran, posted, added, journal, effects⟩
  rw [withWorkbook_apply ran]
  refine ⟨events, ⟨added, journal, effects⟩, fun request member => ?_⟩
  rcases posted.requests with ⟨sent, _, requests⟩
  rw [requests, List.mem_append] at member
  rcases member with opening | later
  · exact opens request opening
  · rcases List.mem_map.mp later with ⟨entry, _, rfl⟩
    exact creates entry.2

theorem post_sends {kind : PostedSheet} (options : SyncOptions) (skipProcessed : Bool)
    {announce : Table → Extraction kind.Record → Running Unit}
    (remarks : ∀ sheet extraction, Remarks (announce sheet extraction))
    (loads : frame.store.load before.store = .ok workbook)
    (opens : ∀ session : Session, workbook.token? = some session.token → ∀ extraction,
      ∀ request ∈ kind.opening ⟨frame.client, session⟩ extraction options, allowed request)
    (creates : ∀ session : Session, workbook.token? = some session.token →
      ∀ record : kind.Record, allowed (Dispatcher.creation ⟨frame.client, session⟩ record)) :
    ∃ events, Adds before (post kind.Record frame skipProcessed announce
        (fun dispatcher extraction sink => kind.dispatch dispatcher extraction options sink)
        before).2 events ∧
      ∀ request ∈ requestsIn events, allowed request := by
  refine load_sends loads (session_sends fun session same => ?_)
  dsimp only
  split
  · exact (print_remarks _).sends
  · refine (remarks _ _).sends.bind fun _ => ?_
    refine .bind (.failingAs ?_) fun report => (print_remarks _).sends
    exact dispatch_sends frame.store (opens session same _) (creates session same)

theorem syncTransactions_sends (flags : PostingFlags)
    (loads : frame.store.load before.store = .ok workbook) :
    ∃ events, Adds before (frame.run (.syncTransactions flags) before).2 events ∧
      ∀ request ∈ requestsIn events,
        (Command.syncTransactions flags).Requests frame.client workbook.token? request := by
  rw [frame.run_syncTransactions flags]
  refine post_sends _ _ (fun _ _ => (announcement_tells _ _).remarks) loads ?_ ?_
  · intro session held extraction request member
    rw [PostedSheet.opening] at member
    split at member
    · next bulk =>
        cases List.mem_singleton.mp member
        exact ⟨.bulkImport _ _, bulk, Client.carries_of_session held⟩
    · cases member
  · exact fun session held record =>
      ⟨.createTransaction record, trivial, Client.carries_of_session held⟩

theorem syncBudgets_sends (skipProcessed : Bool)
    (loads : frame.store.load before.store = .ok workbook) :
    ∃ events, Adds before (frame.run (.syncBudgets skipProcessed) before).2 events ∧
      ∀ request ∈ requestsIn events,
        (Command.syncBudgets skipProcessed).Requests frame.client workbook.token? request := by
  rw [frame.run_syncBudgets skipProcessed ⟨false, 0, false⟩]
  refine post_sends _ _ (fun _ _ => .of_result (.ok ())) loads ?_ ?_
  · exact fun session held extraction request member => nomatch member
  · exact fun session held record =>
      ⟨.createBudget record, trivial, Client.carries_of_session held⟩

end Session

/-- With a workbook that can be loaded, a command sends requests for what it is about, each under
the token of the workbook. -/
theorem run_sends (command : Command) (loads : frame.store.load before.store = .ok workbook) :
    ∃ events, Adds before (frame.run command before).2 events ∧
      ∀ request ∈ requestsIn events, command.Requests frame.client workbook.token? request := by
  cases command with
  | register => exact frame.register_sends before
  | login prompt => exact frame.login_sends prompt before
  | logout =>
      refine load_sends loads ?_
      exact .bind (.onStore _ _) fun _ => (print_remarks _).sends
  | loginStatus => exact frame.loginStatus_remarks.sends before
  | syncTransactions flags => exact syncTransactions_sends flags loads
  | syncBudgets skipProcessed => exact syncBudgets_sends skipProcessed loads
  | report first? last? => exact report_sends first? last? loads
  | list listing json => exact list_sends listing json loads
  | ping => exact frame.ping_sends before
  | showSettings => exact frame.showSettings_remarks.sends before
  | writeSettings => exact frame.writeSettings_sends before
  | createWorkbook force => exact frame.createWorkbook_sends force before

end Frame

end SheetPost
