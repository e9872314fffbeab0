import SheetPost.Command.Run

/-!
# The program

The command line, the environment and the files that a run may look at are read first; then the run
is worked out; then what it has printed is shown and the files that it has changed are written. The
answers of the services are lines of the standard input: a status and the body behind a blank, or,
without a status, the reason why no answer came.
-/

namespace SheetPost

def answerOfLine (line : String) : Answer :=
  let (status, rest) := spanDigits line.toList
  if status.isEmpty then .failed line
  else .replied (numeralValue status) (String.ofList (rest.drop 1))

partial def readLines (input : IO.FS.Stream) (before : List String) : IO (List String) := do
  let line ← input.getLine
  if line.isEmpty then return before.reverse
  let text := String.ofList (line.toList.reverse.dropWhile (· == '\n')).reverse
  readLines input (text :: before)

def placeOf (disk : Disk) (path : String) : Place :=
  if path.startsWith "/" then Path.names path else disk.workingDirectory ++ Path.names path

def takeIn (disk : Disk) (path : String) : IO Disk := do
  let file := (← IO.currentDir) / path
  let place := placeOf disk path
  if ← file.isDir then
    let mut disk := disk.putWithParents place .directory
    for found in ← file.readDir do
      let entry ← if ← found.path.isDir then pure .directory
        else .file <$> Content.ofBytes <$> IO.FS.readBinFile found.path
      disk := disk.put (place ++ [found.fileName]) entry
    return disk
  else if ← file.pathExists then
    return disk.putWithParents place (.file (.ofBytes (← IO.FS.readBinFile file)))
  else match Path.parent? path with
    | some parent =>
        if parent != "" && (← ((← IO.currentDir) / parent).isDir) then
          return disk.putWithParents (placeOf disk parent) .directory
        else return disk
    | none => return disk

def writeChanges (before after : Disk) : IO Unit := do
  for (place, entry) in after.entries do
    if before.entryAt? place != some entry then
      let path := "/" ++ "/".intercalate place
      match entry with
      | .directory => IO.FS.createDirAll path
      | .file (.text value) => IO.FS.writeFile path value
      | .file (.bytes values) => IO.FS.writeBinFile path ⟨values.toArray⟩
      | .file (.book _) => throw (.userError ("cannot write a spreadsheet file: " ++ path))

def isShown (verbosity : Nat) : Level → Bool
  | .warn => true
  | .info | .debug => 1 ≤ verbosity
  | .trace => 2 ≤ verbosity

def showNotes (verbosity : Nat) (journal : List Event) : IO Unit := do
  for event in journal do
    match event with
    | .noted level text =>
        if isShown verbosity level then IO.eprintln ("[" ++ level.name ++ "] " ++ text)
    | .requested request => IO.eprintln (request.method.name ++ " " ++ request.url)
    | _ => pure ()

/-- The day on which the program runs: the system dates the directory of a running program by its
start. -/
def startDay : IO Date := do
  let started := (← ((← IO.currentDir) / "/proc/self").metadata).modified.sec
  let origin : Date := ⟨1970, 1, 1, by decide⟩
  return (origin.addDays? (started / 86400)).getD origin

def surroundings : IO Surroundings := do
  let names := [Settings.authUrlVariable, Settings.gatewayUrlVariable, Settings.workbookVariable,
    Settings.workersVariable]
  let values ← names.mapM fun name => return (name, ← IO.getEnv name)
  let home := (← IO.getEnv "HOME").map fun home => Path.join home ".config"
  return {
    environment := fun name => (values.lookup name).join
    settingsDirectory := (← IO.getEnv "XDG_CONFIG_HOME") <|> home
    today := ← startDay
    typedPassword := none }

def perform (invocation : Invocation) : IO UInt32 := do
  let around ← surroundings
  let directory := Path.names (← IO.currentDir).toString
  let bare : Disk := (Disk.mk directory []).putWithParents directory .directory
  let usual := around.settingsDirectory.map Settings.fileIn
  let settled ← match invocation.settingsFile <|> usual with
    | some path => takeIn bare path
    | none => pure bare
  let workbook := match invocation.frame around ⟨[], [], settled⟩ with
    | (.ok frame, _) => frame.settings.workbook
    | (.error _, _) => ""
  let disk ← if workbook.isEmpty then pure settled else takeIn settled workbook
  let answers := (← readLines (← IO.getStdin) []).map answerOfLine
  let (result, conversation) := invocation.run around ⟨answers, [], disk⟩
  showNotes invocation.verbosity conversation.journal
  writeChanges disk conversation.store
  IO.print conversation.printed
  match result with
  | .ok () => return 0
  | .error problem =>
      IO.eprintln ("Error: " ++ problem.fullMessage)
      return 1

end SheetPost

def main (arguments : List String) : IO UInt32 := do
  match SheetPost.Invocation.ofArguments arguments with
  | .ok invocation => SheetPost.perform invocation
  | .error fault =>
      if fault.exitCode != 0 then IO.eprintln "The command line is not understood."
      return UInt32.ofNat fault.exitCode
