import SheetPost.Text.Blank

namespace SheetPost

namespace Path

def pieces : List Char → List (List Char)
  | [] => [[]]
  | character :: rest =>
      if character = '/' then [] :: pieces rest
      else match pieces rest with
        | [] => [[character]]
        | piece :: more => (character :: piece) :: more

def steps (path : String) : List String :=
  ((pieces path.toList).filter (· ≠ [])).map String.ofList

/-- The names that a path goes through; two dots lead back. -/
def names (path : String) : List String :=
  (steps path).filter (· ≠ ".")

def fileName? (path : String) : Option String :=
  (names path).getLast?.filter (· != "..")

def stemAndExtension (name : String) : String × Option String :=
  let characters := name.toList
  let extension := (characters.reverse.takeWhile (· != '.')).reverse
  let stem := characters.take (characters.length - extension.length - 1)
  if name = ".." ∨ stem = [] ∨ !characters.contains '.' then (name, none)
  else (String.ofList stem, some (String.ofList extension))

example : stemAndExtension "a.b.csv" = ("a.b", some "csv") := by decide +kernel
example : stemAndExtension ".csv" = (".csv", none) := by decide +kernel
example : stemAndExtension "..csv" = (".", some "csv") := by decide +kernel
example : stemAndExtension "csv." = ("csv", some "") := by decide +kernel
example : stemAndExtension "csv" = ("csv", none) := by decide +kernel

def hasExtension (extension name : String) : Bool :=
  (stemAndExtension name).2.any fun found => found.toLower == extension

/-- The path of a name in a directory. A name that begins with a slash is a path of its own. -/
def join (directory name : String) : String :=
  if name.startsWith "/" ∨ directory = "" then name
  else if directory.endsWith "/" then directory ++ name
  else directory ++ "/" ++ name

/-! ## The directories above a path -/

/-- A piece that leads nowhere. -/
def idle (piece : List Char) : Bool :=
  piece = [] ∨ piece = ['.']

/-- The pieces of a path from the last one, without idle ones at its end. What a path begins with is
never idle: nothing before the first slash is the root. -/
def settled : List (List Char) → List (List Char)
  | [] => []
  | [first] => [first]
  | piece :: above => if idle piece then settled above else piece :: above

def ofPieces (pieces : List (List Char)) : String :=
  if pieces = [[]] then "/" else String.ofList (List.intercalate ['/'] pieces.reverse)

def directoriesAbove : List (List Char) → List String
  | [] => []
  | [first] => if first = [] then [] else [""]
  | piece :: above =>
      if idle piece then directoriesAbove above
      else ofPieces (settled above) :: directoriesAbove above

/-- The directories above a path, the nearest one first; the last one is the root or no name. -/
def parents (path : String) : List String :=
  directoriesAbove (pieces path.toList).reverse

/-- The directory that a path names its file in, if it names a file at all. -/
def parent? (path : String) : Option String :=
  (parents path).head?

example : parents "out/new/c.toml" = ["out/new", "out", ""] ∧ parents "/a/b" = ["/a", "/"] := by
  decide +kernel
example : parents "a//b/./" = ["a", ""] ∧ parents "./a/." = [".", ""] := by decide +kernel
example : parents "a/.." = ["a", ""] ∧ parents "." = [""] := by decide +kernel
example : parents "" = [] ∧ parents "//" = [] ∧ parents "//a" = ["/"] := by decide +kernel

end Path

end SheetPost
