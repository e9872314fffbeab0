import SheetPost.Toml.Quoted
import SheetPost.Toml.Scalar

/-!
# Settings files

A settings file consists of fields, one a line, in sections that start with the header of a table.
The fields before the first header belong to the file as a whole. Comments run to the end of a line.
A file has no more than a limited depth: neither a key with more names nor brackets within brackets
beyond it.
-/

namespace SheetPost.Toml

def deepest : Nat := 80

/-! ## What stands between values -/

def dropSpaces (characters : List Char) : List Char :=
  characters.dropWhile isSpace

def dropComment : List Char → Option (List Char)
  | '#' :: rest =>
      let text := rest.takeWhile fun character => character != '\n'
      let text := if text.getLast? = some '\r' then text.dropLast else text
      if text.all isPlain then some (rest.drop text.length) else none
  | characters => some characters

/-- Pass over the end of a line with the blanks and the comment before it; the end of the file ends
a line. -/
def endLine? (characters : List Char) : Option (List Char) := do
  match ← dropComment (dropSpaces characters) with
  | [] => return []
  | '\n' :: rest => return rest
  | '\r' :: '\n' :: rest => return rest
  | _ => none

def dropFiller? : (steps : Nat) → List Char → Option (List Char)
  | 0, characters => some characters
  | steps + 1, characters => do
      match ← dropComment (dropSpaces characters) with
      | '\n' :: rest => dropFiller? steps rest
      | '\r' :: '\n' :: rest => dropFiller? steps rest
      | rest => return rest

def filler? (characters : List Char) : Option (List Char) :=
  dropFiller? (characters.length + 1) characters

/-! ## Keys -/

def isBareKey (character : Char) : Bool :=
  character.isAlphanum || character = '_' || character = '-'

def simpleKey? (characters : List Char) : Option (String × List Char) :=
  match quoted? false characters with
  | some (name, rest) => some (String.ofList name, rest)
  | none =>
      let name := characters.takeWhile isBareKey
      if name.isEmpty then none
      else some (String.ofList name, characters.dropWhile isBareKey)

/-- At most so many names with dots between them, and what follows the blanks behind them. -/
def keyWithin? : (most : Nat) → List Char → Option (List String × List Char)
  | 0, _ => none
  | most + 1, characters => do
      let (name, rest) ← simpleKey? (dropSpaces characters)
      match dropSpaces rest with
      | '.' :: rest =>
          let (names, rest) ← keyWithin? most rest
          return (name :: names, rest)
      | rest => return ([name], rest)

def key? (characters : List Char) : Option (List String × List Char) :=
  keyWithin? deepest characters

/-! ## Values -/

mutual
/-- A value at the front of the characters, in which so many brackets may be open at a time. -/
def value? : (steps depth : Nat) → List Char → Option (Value × List Char)
  | 0, _, _ => none
  | steps + 1, depth, characters =>
      match characters, depth with
      | '[' :: _, 0 => none
      | '[' :: rest, depth + 1 => items? steps depth [] rest
      | '\x7b' :: _, 0 => none
      | '\x7b' :: rest, depth + 1 => fields? steps depth [] rest
      | characters, _ =>
          match quoted? true characters with
          | some (text, rest) => some (.text (String.ofList text), rest)
          | none =>
              if characters.head? = some '"' ∨ characters.head? = some '\'' then none
              else scalar? characters

def items? : (steps depth : Nat) → (before : List Value) → List Char → Option (Value × List Char)
  | 0, _, _, _ => none
  | steps + 1, depth, before, characters =>
      match filler? characters with
      | some (']' :: rest) => some (.list before.reverse, rest)
      | some characters =>
          match value? steps depth characters with
          | some (item, rest) =>
              match filler? rest with
              | some (',' :: rest) => items? steps depth (item :: before) rest
              | some (']' :: rest) => some (.list (item :: before).reverse, rest)
              | _ => none
          | none => none
      | none => none

def fields? : (steps depth : Nat) → (before : List (List String × Value)) → List Char →
    Option (Value × List Char)
  | 0, _, _, _ => none
  | steps + 1, depth, before, characters =>
      match filler? characters with
      | some ('\x7d' :: rest) =>
          (addFields [] before.reverse).map fun fields => (.table .braces fields, rest)
      | some characters =>
          match key? characters with
          | some (path, '=' :: rest) =>
              match value? steps depth (dropSpaces rest) with
              | some (value, rest) =>
                  match filler? rest with
                  | some (',' :: rest) => fields? steps depth ((path, value) :: before) rest
                  | some ('\x7d' :: rest) =>
                      (addFields [] ((path, value) :: before).reverse).map fun fields =>
                        (.table .braces fields, rest)
                  | _ => none
              | none => none
          | _ => none
      | none => none
end

/-! ## Lines and sections -/

inductive Line where
  | blank
  | field (path : List String) (value : Value)
  | header (path : List String)
  | repeatedHeader (path : List String)

def line? (characters : List Char) : Option (Line × List Char) :=
  match dropSpaces characters with
  | '[' :: '[' :: rest => do
      match ← key? rest with
      | (path, ']' :: ']' :: rest) => return (.repeatedHeader path, ← endLine? rest)
      | _ => none
  | '[' :: rest => do
      match ← key? rest with
      | (path, ']' :: rest) => return (.header path, ← endLine? rest)
      | _ => none
  | rest =>
      match endLine? rest with
      | some rest => some (.blank, rest)
      | none => do
          match ← key? rest with
          | (path, '=' :: rest) =>
              let (value, rest) ← value? (rest.length + 1) deepest (dropSpaces rest)
              return (.field path value, ← endLine? rest)
          | _ => none

def linesWithin? : (steps : Nat) → List Char → Option (List Line)
  | 0, characters => if characters.isEmpty then some [] else none
  | _ + 1, [] => some []
  | steps + 1, characters => do
      let (line, rest) ← line? characters
      return line :: (← linesWithin? steps rest)

structure Section where
  header : Line
  fields : List (List String × Value)

def sections (lines : List Line) : List Section :=
  let add (line : Line) (later : List Section) : List Section :=
    match line, later with
    | .blank, _ => later
    | .field path value, ⟨.blank, fields⟩ :: later => ⟨.blank, (path, value) :: fields⟩ :: later
    | .field path value, later => ⟨.blank, [(path, value)]⟩ :: later
    | header, ⟨.blank, fields⟩ :: later => ⟨header, fields⟩ :: later
    | header, later => ⟨header, []⟩ :: later
  lines.foldr add []

def addSection (fields : Fields) (part : Section) : Option Fields :=
  match part.header with
  | .header path => addTable path part.fields fields
  | .repeatedHeader path => addRepeated path part.fields fields
  | _ => addFields fields part.fields

def ofText? (text : String) : Option Fields := do
  let characters := match text.toList with
    | '\uFEFF' :: rest => rest
    | characters => characters
  let lines ← linesWithin? (characters.length + 1) characters
  (sections lines).foldlM addSection []

end SheetPost.Toml
