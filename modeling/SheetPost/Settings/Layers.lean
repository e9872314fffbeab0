import SheetPost.Disk.Disk
import SheetPost.Settings.Problem
import SheetPost.Settings.Settings

/-!
# Layers of settings

The settings of a run come from a file, and variables of the environment go before what the file
says. A file that is named has to be there; the file at the usual place may be missing. A count of
zero workers is refused in both layers, whether or not another layer would overrule it.
-/

namespace SheetPost.Settings

def authUrlVariable : String := "LEDGER_SYNC_AUTH_URL"

def gatewayUrlVariable : String := "LEDGER_SYNC_GATEWAY_URL"

def workbookVariable : String := "LEDGER_SYNC_WORKBOOK"

def workersVariable : String := "LEDGER_SYNC_WORKERS"

def fileIn (directory : String) : String :=
  Path.join (Path.join directory "ledger-sync") "config.toml"

/-! ## The file -/

def readFile (path : String) (disk : Disk) : Except Problem Settings :=
  match disk.readText path with
  | .error fault =>
      .error (.during ("Failed to read config file: " ++ path) (.store (.file fault)))
  | .ok text =>
      match ofFileText? text with
      | none => .error (.during ("Invalid config file: " ++ path) (.store (.malformed .toml)))
      | some settings =>
          if settings.workers = 0 then
            .error (.said ("sync.workers must be at least 1 in " ++ path))
          else .ok settings

/-- The file to read: the one that is named, or else the one at the usual place if it is there. -/
def fileToRead (named? usual? : Option String) (disk : Disk) : Except Problem (Option String) :=
  match named? with
  | some path =>
      if disk.exists? path then .ok (some path)
      else .error (.said ("Config file does not exist: " ++ path))
  | none => .ok (usual?.filter disk.exists?)

def load (named? usual? : Option String) : Conversing Problem Disk Settings := do
  let disk := (← get).store
  match ← ExceptT.mk (pure (fileToRead named? usual? disk)) with
  | some path =>
      let settings ← ExceptT.mk (pure (readFile path disk))
      Conversing.note .debug ("Loaded config from " ++ path)
      return settings
  | none =>
      Conversing.note .debug "No config file found, using defaults"
      return standard

/-! ## The environment -/

def workersOfText? (text : String) : Option Nat :=
  (readNatural? (trimmed text.toList)).filter fun count => 0 < count ∧ count < 2 ^ 32

/-- The settings under an environment. The variable of the workers may be refused, and the others
are in force even then. -/
def underEnvironment (environment : String → Option String) (settings : Settings) :
    Settings × Except Problem Unit :=
  let settings :=
    { settings with
      authUrl := (environment authUrlVariable).getD settings.authUrl
      gatewayUrl := (environment gatewayUrlVariable).getD settings.gatewayUrl
      workbook := (environment workbookVariable).getD settings.workbook }
  match environment workersVariable with
  | none => (settings, .ok ())
  | some text =>
      match workersOfText? text with
      | some workers => ({ settings with workers }, .ok ())
      | none =>
          (settings, .error (.said
            (workersVariable ++ " must be a positive integer, got '" ++ text ++ "'")))

/-- The settings of a run: the file, and the environment before it. -/
def resolve (named? usual? : Option String) (environment : String → Option String) :
    Conversing Problem Disk Settings := do
  let (settings, verdict) := (← load named? usual?).underEnvironment environment
  ExceptT.mk (pure verdict)
  return settings

/-! ## Writing a file -/

def save (path : String) (settings : Settings) : ExceptT StoreError (StateM Disk) Unit := do
  if let some parent := Path.parent? path then
    (Disk.makeDirectories parent).adapt fun fault =>
      .during ("Failed to create directory: " ++ parent) (.file fault)
  set (← ExceptT.mk (pure (((← get).write path (.text settings.fileText)).mapError fun fault =>
    .during ("Failed to write config file: " ++ path) (.file fault))))

def init (path : String) : Conversing Problem Disk Unit := do
  if (← get).store.exists? path then
    throw (.said ("Config file already exists: " ++ path))
  Conversing.onStore .store (save path standard)

end SheetPost.Settings
