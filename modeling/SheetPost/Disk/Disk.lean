import SheetPost.Disk.FileFault
import SheetPost.Disk.Path
import SheetPost.Spreadsheet.Book

/-!
# The disk

The disk is a tree of files. It is kept as a list of entries, each with the names that lead to it
from the root, and a path is followed name by name: what is not its last name has to be a directory.
A path that does not begin at the root begins at the working directory. Names and paths have a
limit, and how the last name is taken depends on whether something is found, written or made there.
-/

namespace SheetPost

inductive Content where
  | text (value : String)
  | bytes (values : List UInt8)
  | book (value : Book)
deriving DecidableEq

def Content.ofBytes (bytes : ByteArray) : Content :=
  match String.fromUTF8? bytes with
  | some value => text value
  | none => .bytes bytes.toList

inductive DiskEntry where
  | file (content : Content)
  | directory
deriving DecidableEq

abbrev Place := List String

structure Disk where
  workingDirectory : Place
  entries : List (Place × DiskEntry)
deriving DecidableEq

namespace Disk

/-! ## Entries by place -/

def entryAt? (disk : Disk) (place : Place) : Option DiskEntry :=
  if place = [] then some .directory else disk.entries.lookup place

def putEntry (place : Place) (entry : DiskEntry) :
    List (Place × DiskEntry) → List (Place × DiskEntry)
  | [] => [(place, entry)]
  | head :: tail =>
      if head.1 = place then (place, entry) :: tail else head :: putEntry place entry tail

def put (disk : Disk) (place : Place) (entry : DiskEntry) : Disk :=
  { disk with entries := putEntry place entry disk.entries }

/-- Put an entry at a place together with the directories above it. -/
def putWithParents (disk : Disk) (place : Place) (entry : DiskEntry) : Disk :=
  let above := ((List.range place.length).drop 1).map fun depth => (place.take depth)
  (above.foldl (fun disk parent => disk.put parent .directory) disk).put place entry

theorem lookup_putEntry_same (place : Place) (entry : DiskEntry)
    (entries : List (Place × DiskEntry)) :
    (putEntry place entry entries).lookup place = some entry := by
  induction entries with
  | nil => simp [putEntry]
  | cons head tail induction =>
      unfold putEntry
      split
      · simp
      · next different =>
          have apart : (place == head.1) = false := by simpa using Ne.symm different
          obtain ⟨name, content⟩ := head
          simp only [List.lookup_cons, apart, induction]

theorem lookup_putEntry_other {place other : Place} (different : other ≠ place)
    (entry : DiskEntry) (entries : List (Place × DiskEntry)) :
    (putEntry place entry entries).lookup other = entries.lookup other := by
  have apart : (other == place) = false := by simpa using different
  induction entries with
  | nil => simp [putEntry, List.lookup_cons, apart]
  | cons head tail induction =>
      unfold putEntry
      split
      · next same =>
          obtain ⟨name, content⟩ := head
          cases same
          simp [List.lookup_cons, apart]
      · obtain ⟨name, content⟩ := head
        simp only [List.lookup_cons, induction]

theorem entryAt?_put_other (disk : Disk) {place other : Place} (entry : DiskEntry)
    (different : other ≠ place) : (disk.put place entry).entryAt? other = disk.entryAt? other := by
  simp [entryAt?, put, lookup_putEntry_other different]

theorem entryAt?_put_same (disk : Disk) {place : Place} (entry : DiskEntry) (named : place ≠ []) :
    (disk.put place entry).entryAt? place = some entry := by
  simp [entryAt?, put, named, lookup_putEntry_same]

/-! ## Following paths -/

def longestName : Nat := 255

def longestPath : Nat := 4095

/-- The place that a name leads to from a directory; the root is above itself. -/
def step (directory : Place) (name : String) : Place :=
  if name = "." then directory
  else if name = ".." then directory.dropLast
  else directory ++ [name]

def lookUp (disk : Disk) (directory : Place) (name : String) : Except FileFault DiskEntry :=
  if longestName < name.utf8ByteSize then .error .nameTooLong
  else match disk.entryAt? (step directory name) with
    | some entry => .ok entry
    | none => .error .noEntry

def enter (disk : Disk) (directory : Place) (name : String) : Except FileFault Place := do
  match ← disk.lookUp directory name with
  | .directory => return step directory name
  | .file _ => throw .notDirectory

/-- Where the last step of a path is taken. -/
structure LastStep where
  directory : Place
  name : String
  closed : Bool

namespace LastStep

def place (last : LastStep) : Place :=
  step last.directory last.name

/-- Whether the step is to a name, not along dots. -/
def named (last : LastStep) : Bool :=
  last.name ≠ "." ∧ last.name ≠ ".."

end LastStep

/-- Follow a path up to its last step. A path without steps stays where it begins. -/
def approach (disk : Disk) (path : String) : Except FileFault LastStep := do
  if path.toList.contains '\x00' then throw .nulInName
  if path = "" then throw .noEntry
  if longestPath < path.utf8ByteSize then throw .nameTooLong
  let steps := Path.steps path
  let start := if path.startsWith "/" then [] else disk.workingDirectory
  return ⟨← steps.dropLast.foldlM disk.enter start, steps.getLast?.getD ".", path.endsWith "/"⟩

/-- The place that a path leads to, with what is there. A slash at the end asks for a directory. -/
def seek (disk : Disk) (path : String) : Except FileFault (Place × DiskEntry) := do
  let last ← disk.approach path
  match ← disk.lookUp last.directory last.name with
  | .directory => return (last.place, .directory)
  | .file content => if last.closed then throw .notDirectory else return (last.place, .file content)

def find (disk : Disk) (path : String) : Except FileFault DiskEntry :=
  (disk.seek path).map (·.2)

def exists? (disk : Disk) (path : String) : Bool :=
  (disk.find path).isOk

def isDirectory (disk : Disk) (path : String) : Bool :=
  match disk.find path with
  | .ok .directory => true
  | _ => false

/-! ## Reading and writing -/

def read (disk : Disk) (path : String) : Except FileFault Content := do
  match ← disk.find path with
  | .file content => return content
  | .directory => throw .isDirectory

def readText (disk : Disk) (path : String) : Except FileFault String := do
  match ← disk.read path with
  | .text value => return value
  | _ => throw .notText

def list (disk : Disk) (path : String) : Except FileFault (List String) := do
  match ← disk.seek path with
  | (_, .file _) => throw .notDirectory
  | (place, .directory) =>
      return disk.entries.filterMap fun entry =>
        if entry.1.dropLast = place then entry.1.getLast? else none

def write (disk : Disk) (path : String) (content : Content) : Except FileFault Disk := do
  let last ← disk.approach path
  if last.closed ∨ !last.named then throw .isDirectory
  match disk.lookUp last.directory last.name with
  | .ok .directory => throw .isDirectory
  | .error .nameTooLong => throw .nameTooLong
  | _ => return disk.put last.place (.file content)

def makeDirectory (disk : Disk) (path : String) : Except FileFault Disk := do
  let last ← disk.approach path
  if !last.named then throw .exists
  match disk.lookUp last.directory last.name with
  | .ok _ => throw .exists
  | .error .noEntry => return disk.put last.place .directory
  | .error fault => throw fault

/-- Make a directory that may be there already. What to do when one above it is missing is given. -/
def ensureDirectory (path : String) (onMissing : ExceptT FileFault (StateM Disk) Unit) :
    ExceptT FileFault (StateM Disk) Unit := do
  let disk ← get
  match disk.makeDirectory path with
  | .ok made => set made
  | .error .noEntry => onMissing
  | .error fault => if !disk.isDirectory path then throw fault

/-- Make the first of the given directories. Each one is in the next one, and those that are missing
are made before it. -/
def makeInside : List String → ExceptT FileFault (StateM Disk) Unit
  | [] => throw .noEntry
  | path :: above =>
      if path = "" then pure ()
      else ensureDirectory path do
        makeInside above
        ensureDirectory path (throw .noEntry)

/-- Make the directory of a path with the directories above it, as far as they are missing. What was
made stays when a later one fails. -/
def makeDirectories (path : String) : ExceptT FileFault (StateM Disk) Unit :=
  makeInside (path :: Path.parents path)

end Disk

end SheetPost
