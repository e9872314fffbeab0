import SheetPost.Number.Layout

namespace SheetPost

inductive Json where
  | null
  | boolean (value : Bool)
  | integer (value : Int)
  | number (value : Number)
  | text (value : String)
  | list (items : List Json)
  | record (fields : List (String × Json))

namespace Json

def hexDigits (value : Nat) : List Char :=
  let digits := Nat.toDigits 16 value
  List.replicate (4 - digits.length) '0' ++ digits

/-- A character inside a quoted text. Only the quote, the backslash and the control characters
below the blank are escaped. -/
def escaped (character : Char) : List Char :=
  if character = '"' then ['\\', '"']
  else if character = '\\' then ['\\', '\\']
  else if character = '\n' then ['\\', 'n']
  else if character = '\r' then ['\\', 'r']
  else if character = '\t' then ['\\', 't']
  else if character.toNat = 0x08 then ['\\', 'b']
  else if character.toNat = 0x0C then ['\\', 'f']
  else if character.toNat < 0x20 then '\\' :: 'u' :: hexDigits character.toNat
  else [character]

def quoted (text : String) : String :=
  String.ofList ('"' :: text.toList.flatMap escaped ++ ['"'])

/-- A number in a message; those that no decimal denotes are written as `null`. -/
def numberText : Number → String
  | .finite negative magnitude => Number.messageText negative magnitude
  | _ => "null"

mutual
def compact : Json → String
  | null => "null"
  | boolean value => if value then "true" else "false"
  | integer value => integerText value
  | number value => numberText value
  | text value => quoted value
  | list items => "[" ++ ",".intercalate (compactItems items) ++ "]"
  | record fields => "\x7b" ++ ",".intercalate (compactFields fields) ++ "\x7d"

def compactItems : List Json → List String
  | [] => []
  | item :: items => compact item :: compactItems items

def compactFields : List (String × Json) → List String
  | [] => []
  | (name, value) :: fields => (quoted name ++ ":" ++ compact value) :: compactFields fields
end

/-- Entries one a line between brackets; brackets without entries stay together. -/
def bracketed (opening closing : String) (depth : Nat) (entries : List String) : String :=
  let margin := fun depth => String.ofList (List.replicate (2 * depth) ' ')
  if entries.isEmpty then opening ++ closing
  else
    opening ++ "\n" ++
      ",\n".intercalate (entries.map fun entry => margin (depth + 1) ++ entry) ++
      "\n" ++ margin depth ++ closing

mutual
def indentedAt (depth : Nat) : Json → String
  | list items => bracketed "[" "]" depth (indentedItems (depth + 1) items)
  | record fields => bracketed "\x7b" "\x7d" depth (indentedFields (depth + 1) fields)
  | null => "null"
  | boolean value => if value then "true" else "false"
  | integer value => integerText value
  | number value => numberText value
  | text value => quoted value

def indentedItems (depth : Nat) : List Json → List String
  | [] => []
  | item :: items => indentedAt depth item :: indentedItems depth items

def indentedFields (depth : Nat) : List (String × Json) → List String
  | [] => []
  | (name, value) :: fields =>
      (quoted name ++ ": " ++ indentedAt depth value) :: indentedFields depth fields
end

def indented (value : Json) : String :=
  indentedAt 0 value

end Json

end SheetPost
