import SheetPost.Calendar.Month
import SheetPost.Command.Display
import SheetPost.Command.Invocation
import SheetPost.Gateway.Login
import SheetPost.Posting.Dispatch
import SheetPost.Settings.Layers
import SheetPost.Store.WorkbookStore

/-!
# Running a command

A command works on the files below the working directory and talks to the services. The workbook is
loaded at the beginning and kept in memory; it is saved where a command has changed it, and while
records are posted it is saved after every status that is to be kept.
-/

namespace SheetPost

structure Surroundings where
  environment : String → Option String
  settingsDirectory : Option String
  today : Date
  typedPassword : Option String

abbrev Running (α : Type) := Conversing Problem Disk α

structure Frame where
  settings : Settings
  settingsFile : Option String
  surroundings : Surroundings

namespace Frame

def store (frame : Frame) : WorkbookStore :=
  .ofPath frame.settings.workbook

def client (frame : Frame) : Client where
  authUrl := frame.settings.authUrl
  gatewayUrl := frame.settings.gatewayUrl
  correlationIds := frame.settings.correlationIds
  requestLogging := frame.settings.requestLogging

def settingsPath? (frame : Frame) : Option String :=
  frame.settingsFile <|> frame.surroundings.settingsDirectory.map Settings.fileIn

/-! ## The workbook -/

def load (frame : Frame) : Running Workbook := do
  let store := frame.store
  match store.load (← get).store with
  | .ok workbook => return workbook
  | .error error => throw (.store (.during ("Failed to open workbook: " ++ store.location) error))

def saveTo (store : WorkbookStore) (workbook : Workbook) :
    ExceptT StoreError (StateM Disk) Unit :=
  (store.save workbook).adapt (.during ("Failed to save workbook: " ++ store.location))

def save (frame : Frame) (workbook : Workbook) : Running Unit :=
  Conversing.onStore .store (saveTo frame.store workbook)

def session (workbook : Workbook) : Running Session :=
  match AuthSheet.session? (workbook.sheetFor .auth) with
  | some session => pure session
  | none => throw (.failed .missingSession)

/-- A sink that writes into a sheet of the workbook and saves the whole workbook. -/
def statusSink (store : WorkbookStore) (schema : Schema) (column : Nat) :
    StatusSink (Workbook × Disk) where
  write row status := modify fun (workbook, disk) =>
    (workbook.update schema (·.set row column (.ofText status)), disk)
  flush := fun (workbook, disk) =>
    let (result, disk) := saveTo store workbook disk
    (result, (workbook, disk))

/-- Talk while a workbook is at hand next to the disk. -/
def withWorkbook {ε α : Type} (workbook : Workbook)
    (action : Conversing ε (Workbook × Disk) α) : Conversing ε Disk α :=
  fun conversation =>
    let (result, after) := action { conversation with store := (workbook, conversation.store) }
    (result, { after with store := after.store.2 })

def print (lines : List String) : Running Unit :=
  lines.forM Conversing.print

/-! ## The account -/

def requireEmail (credentials : Credentials) : Running Unit :=
  if trim credentials.email = "" then
    throw (.said "Email missing from the Auth sheet (row 2, column A)")
  else pure ()

def requirePassword (credentials : Credentials) : Running Unit :=
  if credentials.password = "" then
    throw (.said "Password missing from the Auth sheet (row 2, column B)")
  else pure ()

def register (frame : Frame) : Running Unit := do
  let credentials := AuthSheet.credentials ((← frame.load).sheetFor .auth)
  requireEmail credentials
  requirePassword credentials
  Conversing.failingAs .failed (frame.client.register credentials)
  print ["✓ Registered " ++ credentials.email]

def askPassword (frame : Frame) (credentials : Credentials) : Running Credentials := do
  requireEmail credentials
  match frame.surroundings.typedPassword with
  | some password => return { credentials with password }
  | none => throw (.said "Failed to read password")

def login (frame : Frame) (prompt : Bool) : Running Unit := do
  let workbook ← frame.load
  let sheet := workbook.sheetFor .auth
  let stored := AuthSheet.credentials sheet
  let credentials ← if prompt then frame.askPassword stored else pure stored
  requireEmail credentials
  requirePassword credentials
  let (_, sheet) ← Conversing.failingAs .failed (frame.client.loginAndStore credentials sheet)
  frame.save (workbook.update .auth fun _ => sheet)
  print ["✓ Logged in as " ++ credentials.email]

def logout (frame : Frame) : Running Unit := do
  frame.save ((← frame.load).update .auth AuthSheet.clearSession)
  print ["✓ Token removed"]

def loginStatus (frame : Frame) : Running Unit := do
  match AuthSheet.session? ((← frame.load).sheetFor .auth) with
  | some session => print ["✓ Token stored for " ++ session.email.getD "<unknown>"]
  | none => print ["✗ Not logged in. Run ledger-sync auth login"]

/-! ## Posting -/

def post (α : Type) [SheetRecord α] (frame : Frame) (skipProcessed : Bool)
    (announce : Table → Extraction α → Running Unit)
    (dispatch : Dispatcher → Extraction α → StatusSink (Workbook × Disk) →
      Conversing Failure (Workbook × Disk) SyncReport) : Running Unit := do
  let workbook ← frame.load
  let session ← session workbook
  let schema := SheetRecord.schema α
  let sheet := workbook.sheetFor schema
  let extraction := extract α sheet (skipProcessed || frame.settings.skipProcessed)
  if extraction.isEmpty then
    print [Display.nothingToPost schema.name extraction.alreadyProcessed.length]
  else
    announce sheet extraction
    let sink := statusSink frame.store schema (SheetRecord.statusColumn α)
    let activity := schema.name ++ " sync failed"
    let report ← Conversing.failingAs (fun failure => .during activity (.failed failure))
      (withWorkbook workbook (dispatch ⟨frame.client, session⟩ extraction sink))
    print (Display.reportLines schema.name report)

def syncTransactions (frame : Frame) (flags : PostingFlags) : Running Unit :=
  post NewTransaction frame flags.skipProcessed
    (fun sheet extraction =>
      Conversing.note .info
        ("Extracted " ++ integerText extraction.entries.length ++ " transactions from " ++
          integerText (sheet.rowCount - 1 : Nat) ++ " rows"))
    (fun dispatcher extraction sink =>
      dispatcher.syncTransactions extraction
        { bulk := flags.bulk
          workers := flags.workers.getD frame.settings.workers
          fallback := flags.fallback || frame.settings.fallback }
        sink)

def syncBudgets (frame : Frame) (skipProcessed : Bool) : Running Unit :=
  post NewBudget frame skipProcessed (fun _ _ => pure ())
    (fun dispatcher extraction sink => dispatcher.dispatchEach extraction sink)

/-! ## Asking the gateway -/

def report (frame : Frame) (first? last? : Option Date) : Running Unit := do
  let (monthFirst, monthLast) := frame.surroundings.today.monthRange
  let first := first?.getD monthFirst
  let last := last?.getD monthLast
  if ¬ first ≤ last then
    throw (.said ("--from " ++ first.text ++ " is after --to " ++ last.text))
  let workbook ← frame.load
  let session ← session workbook
  let totals ← Conversing.failingAs .failed (frame.client.fetchSummary session first last)
  frame.save (workbook.update .report (renderSummary totals))
  print (Display.summaryLines first last totals)

def fetchList {α : Type} (frame : Frame) (session : Session) (operation : Operation)
    (item? : Reading → Option α) : Running (List α) := do
  let reply ← Conversing.failingAs .failed (frame.client.execute operation session)
  if reply.succeeded then
    match (Reading.ofText? reply.body).bind (·.list? item?) with
    | some items => return items
    | none =>
        throw (.during ("Unexpected " ++ operation.name ++ " response") (.store (.malformed .json)))
  else throw (.failed (.requestFailed reply.status reply.body))

def list (frame : Frame) (listing : Listing) (json : Bool) : Running Unit := do
  let session ← session (← frame.load)
  match listing with
  | .transactions =>
      let items ← frame.fetchList session .listTransactions StoredTransaction.ofReading?
      print (if json then [(Json.list (items.map (·.json))).indented]
        else Display.transactionLines items)
  | .budgets =>
      let items ← frame.fetchList session .listBudgets StoredBudget.ofReading?
      print (if json then [(Json.list (items.map (·.json))).indented]
        else Display.budgetLines items)

def ping (frame : Frame) : Running Unit := do
  let url := frame.settings.gatewayUrl
  let reply ← Conversing.failingAs .failed (frame.client.execute .ping none)
  if reply.succeeded then
    print ["✓ Gateway " ++ url ++ " is up"]
  else
    throw (.said ("Gateway " ++ url ++ " answered HTTP " ++ integerText reply.status ++ ": " ++
      trim reply.body))

/-! ## Settings and new workbooks -/

def showSettings (frame : Frame) : Running Unit := do
  let disk := (← get).store
  print [match frame.settingsPath?.filter disk.exists? with
    | some path => "# file: " ++ path
    | none => "# no config file, defaults and environment only"]
  Conversing.printText frame.settings.fileText

def writeSettings (frame : Frame) : Running Unit := do
  match frame.settingsPath? with
  | some path =>
      Settings.init path
      print ["✓ Wrote " ++ path]
  | none => throw (.said "Could not determine the config directory; pass --config")

def createWorkbook (frame : Frame) (force : Bool) : Running Unit := do
  let location := frame.store.location
  if (← get).store.exists? location && !force then
    throw (.said ("Workbook already exists: " ++ location ++ " (use --force to replace it)"))
  frame.save .standard
  print ["✓ Created " ++ location,
    "  Fill in email and password on row 2 of the Auth sheet, then run",
    "  ledger-sync auth login"]

def run (frame : Frame) : Command → Running Unit
  | .register => frame.register
  | .login prompt => frame.login prompt
  | .logout => frame.logout
  | .loginStatus => frame.loginStatus
  | .syncTransactions flags => frame.syncTransactions flags
  | .syncBudgets skipProcessed => frame.syncBudgets skipProcessed
  | .report first last => frame.report first last
  | .list listing json => frame.list listing json
  | .ping => frame.ping
  | .showSettings => frame.showSettings
  | .writeSettings => frame.writeSettings
  | .createWorkbook force => frame.createWorkbook force

end Frame

namespace Invocation

/-- The settings of an invocation: those of the run, with the workbook that its command line
names. -/
def frame (invocation : Invocation) (surroundings : Surroundings) : Running Frame := do
  let settings ← Settings.resolve invocation.settingsFile
    (surroundings.settingsDirectory.map Settings.fileIn) surroundings.environment
  return {
    settings := { settings with workbook := invocation.workbook.getD settings.workbook }
    settingsFile := invocation.settingsFile
    surroundings }

def run (invocation : Invocation) (surroundings : Surroundings) : Running Unit := do
  let frame ← invocation.frame surroundings
  Conversing.note .debug ("Using workbook " ++ frame.settings.workbook)
  frame.run invocation.command

end Invocation

end SheetPost
