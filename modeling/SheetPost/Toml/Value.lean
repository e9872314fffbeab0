namespace SheetPost.Toml

/-- How a table came about. -/
inductive Origin where
  | braces
  | header
  | headerPath
  | dottedKey
deriving DecidableEq

inductive Value where
  | text (value : String)
  | integer (value : Int)
  | float
  | boolean (value : Bool)
  | moment
  | list (items : List Value)
  | table (origin : Origin) (fields : List (String × Value))
  | tables (items : List (List (String × Value)))

abbrev Fields := List (String × Value)

def alter (name : String) (change : Option Value → Option Value) : Fields → Option Fields
  | [] => (change none).map fun value => [(name, value)]
  | (head, value) :: tail =>
      if head = name then (change (some value)).map fun changed => (head, changed) :: tail
      else (alter name change tail).map ((head, value) :: ·)

/-- Change the field at the end of a path, going through the tables named before it. A dotted key
goes through no table that has its own header; a path leads to the last of several tables. -/
def alterAt (dotted : Bool) (change : Option Value → Option Value) :
    (path : List String) → Fields → Option Fields
  | [], _ => none
  | [name], fields => alter name change fields
  | name :: path, fields =>
      alter name
        (fun
          | none =>
              (alterAt dotted change path []).map
                (.table (if dotted then .dottedKey else .headerPath))
          | some (.table origin inner) =>
              if origin = .braces ∨ (dotted ∧ origin = .header) then none
              else (alterAt dotted change path inner).map (.table origin)
          | some (.tables items) => do
              let last ← items.getLast?
              return .tables (items.dropLast ++ [← alterAt dotted change path last])
          | _ => none)
        fields

def addFields (fields : Fields) (given : List (List String × Value)) : Option Fields :=
  given.foldlM
    (fun fields (path, value) =>
      alterAt true
        (fun
          | none => some value
          | some _ => none)
        path fields)
    fields

def addTable (path : List String) (given : List (List String × Value)) (fields : Fields) :
    Option Fields :=
  alterAt false
    (fun
      | none => (addFields [] given).map (.table .header)
      | some (.table .headerPath inner) => (addFields inner given).map (.table .header)
      | _ => none)
    path fields

def addRepeated (path : List String) (given : List (List String × Value)) (fields : Fields) :
    Option Fields :=
  alterAt false
    (fun
      | none => (addFields [] given).map fun inner => .tables [inner]
      | some (.tables items) => (addFields [] given).map fun inner => .tables (items ++ [inner])
      | _ => none)
    path fields

end SheetPost.Toml
