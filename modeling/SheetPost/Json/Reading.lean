import SheetPost.Json.Token

/-!
# Messages as read

A message that was read is a tree of lists and records over words, number literals and texts. It is
built from the tokens with a stack of the brackets that are still open, so nesting is limited by
nothing but the message. A record keeps its fields as they came, repeated names and all: what a
repetition means is for the reader of the record to say.
-/

namespace SheetPost

inductive Reading where
  | null
  | boolean (value : Bool)
  | number (literal : Literal)
  | text (value : Option String)
  | list (items : List Reading)
  | record (fields : List (Option String × Reading))

namespace Reading

/-- An open bracket with the entries before the one that is being read, last one first. -/
inductive Frame where
  | list (before : List Reading)
  | record (before : List (Option String × Reading)) (name : Option String)

abbrev Fields := List (Option String × Reading)

/-- What the builder waits for, with the open brackets around it, innermost first. -/
inductive Building where
  | value (outer : List Frame)
  | firstItem (outer : List Frame)
  | firstName (outer : List Frame)
  | name (outer : List Frame) (before : Fields)
  | colon (outer : List Frame) (before : Fields) (name : Option String)
  | done (outer : List Frame) (value : Reading)

def beginValue? (outer : List Frame) : Json.Token → Option Building
  | .null => some (.done outer null)
  | .boolean value => some (.done outer (boolean value))
  | .number literal => some (.done outer (number literal))
  | .text value => some (.done outer (text value))
  | .openList => some (.firstItem outer)
  | .openRecord => some (.firstName outer)
  | _ => none

def buildStep? : Building → Json.Token → Option Building
  | .value outer, token => beginValue? outer token
  | .firstItem outer, .closeList => some (.done outer (list []))
  | .firstItem outer, token => beginValue? (.list [] :: outer) token
  | .firstName outer, .closeRecord => some (.done outer (record []))
  | .firstName outer, .text name => some (.colon outer [] name)
  | .name outer before, .text name => some (.colon outer before name)
  | .colon outer before name, .colon => some (.value (.record before name :: outer))
  | .done (.list before :: outer) item, .comma => some (.value (.list (item :: before) :: outer))
  | .done (.list before :: outer) item, .closeList =>
      some (.done outer (list (item :: before).reverse))
  | .done (.record before name :: outer) value, .comma =>
      some (.name outer ((name, value) :: before))
  | .done (.record before name :: outer) value, .closeRecord =>
      some (.done outer (record ((name, value) :: before).reverse))
  | _, _ => none

def ofTokens? (tokens : List Json.Token) : Option Reading :=
  match tokens.foldlM buildStep? (.value []) with
  | some (.done [] value) => some value
  | _ => none

def ofText? (text : String) : Option Reading :=
  (Json.tokens? text).bind ofTokens?

/-! ## Questions to a reading -/

def text? : Reading → Option String
  | text value => value
  | _ => none

def number? : Reading → Option Number
  | number literal => literal.number?
  | _ => none

def count? : Reading → Option Nat
  | number literal => literal.count?
  | _ => none

def signed? : Reading → Option Int
  | number literal => literal.signed?
  | _ => none

/-- The items of a list, each read in the same way. -/
def list? {α : Type} (item? : Reading → Option α) : Reading → Option (List α)
  | list items => items.mapM item?
  | _ => none

/-- Every name of a record as text; a name that is no text spoils the record. -/
def names? : Fields → Option (List (String × Reading))
  | [] => some []
  | (some name, value) :: fields => (names? fields).map ((name, value) :: ·)
  | (none, _) :: _ => none

/-- The values of the named fields, in the order of the names. A record may hold other fields, but
none of these twice. A list stands for the record whose fields are its items in order, and may
break off early. -/
def fields? (names : List String) : Reading → Option (List (Option Reading))
  | record fields => do
      let entries ← names? fields
      names.mapM fun name =>
        match entries.filter (·.1 == name) with
        | [] => some none
        | [entry] => some (some entry.2)
        | _ => none
  | list items =>
      if items.length ≤ names.length then
        some (items.map some ++ List.replicate (names.length - items.length) none)
      else none
  | _ => none

def required? {α : Type} (value? : Reading → Option α) : Option Reading → Option α
  | some value => value? value
  | none => none

def optional? {α : Type} (value? : Reading → Option α) (default : α) :
    Option Reading → Option α
  | some value => value? value
  | none => some default

/-- Put an entry at its place among sorted ones, in place of one with the same name. -/
def putTotal (entry : String × Number) : List (String × Number) → List (String × Number)
  | [] => [entry]
  | head :: tail =>
      if entry.1 = head.1 then entry :: tail
      else if entry.1 < head.1 then entry :: head :: tail
      else head :: putTotal entry tail

/-- A record from names to numbers. Where a name is repeated, its last value counts; the entries
come in ascending order of the names. -/
def totals? : Reading → Option (List (String × Number))
  | record fields => do
      let entries ← names? fields
      let totals ← entries.mapM fun entry => entry.2.number?.map fun value => (entry.1, value)
      some (totals.foldl (fun sorted total => putTotal total sorted) [])
  | _ => none

end Reading

end SheetPost
