import SheetPost.Calendar.Pattern
import SheetPost.Number.Layout
import SheetPost.Number.Reader

namespace SheetPost

inductive Cell where
  | empty
  | text (value : String)
  | number (value : Number)
  | boolean (value : Bool)
  | date (value : Date)
deriving DecidableEq

namespace Cell

instance : Inhabited Cell := ⟨empty⟩

/-- The cell that holds a text; a text of nothing is an empty cell. -/
def ofText (value : String) : Cell :=
  if value = "" then empty else text value

/-- Whether a cell holds something to go by: no blank text, no zero, no `false`. -/
def isTruthy : Cell → Bool
  | empty => false
  | text value => !blank value
  | number value => !value.isZero && !value.isNan
  | boolean value => value
  | date _ => true

/-- The finite number in a cell, read from its text if need be. -/
def number? : Cell → Option Number
  | number value => if value.isFinite then some value else none
  | text value => (Number.read? (trim value)).filter (·.isFinite)
  | _ => none

def date? : Cell → Option Date
  | date value => some value
  | text value => Date.read? (trim value)
  | _ => none

def shown : Cell → String
  | empty => ""
  | text value => value
  | number value => value.cellText
  | boolean value => if value then "true" else "false"
  | date value => value.text

theorem shown_ofText (value : String) : (ofText value).shown = value := by
  unfold ofText
  split
  · next equal => rw [equal]; rfl
  · rfl

end Cell

end SheetPost
