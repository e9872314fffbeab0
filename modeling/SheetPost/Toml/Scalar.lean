import SheetPost.Calendar.Date
import SheetPost.Number.Rounding
import SheetPost.Text.Digit
import SheetPost.Toml.Value

namespace SheetPost.Toml

/-- The digits of a base with single underscores between them. -/
def digitsOf? (isDigitOfBase : Char → Bool) : List Char → Option (List Char)
  | [] => none
  | [digit] => if isDigitOfBase digit then some [digit] else none
  | digit :: '_' :: rest =>
      if isDigitOfBase digit then (digitsOf? isDigitOfBase rest).map (digit :: ·) else none
  | digit :: rest =>
      if isDigitOfBase digit then (digitsOf? isDigitOfBase rest).map (digit :: ·) else none

def decimalDigits? (characters : List Char) : Option (List Char) :=
  match digitsOf? isDigit characters with
  | some ['0'] => some ['0']
  | some ('0' :: _) => none
  | digits => digits

def hexadecimalValue (digit : Char) : Nat :=
  ("0123456789abcdef".toList.idxOf digit.toLower)

def based? (base : Nat) (characters : List Char) : Option Nat :=
  (digitsOf? (fun digit => hexadecimalValue digit < base) characters).map fun digits =>
    digits.foldl (fun value digit => value * base + hexadecimalValue digit) 0

def unsigned : List Char → Bool × List Char
  | '-' :: rest => (true, rest)
  | '+' :: rest => (false, rest)
  | characters => (false, characters)

def integer? (characters : List Char) : Option Int := do
  let value : Int ← match characters with
    | '0' :: 'x' :: digits => (based? 16 digits).map fun value => (value : Int)
    | '0' :: 'o' :: digits => (based? 8 digits).map fun value => (value : Int)
    | '0' :: 'b' :: digits => (based? 2 digits).map fun value => (value : Int)
    | _ =>
        let (negative, digits) := unsigned characters
        (decimalDigits? digits).map fun digits =>
          let value : Int := numeralValue digits
          if negative then -value else value
  if -2 ^ 127 ≤ value ∧ value < 2 ^ 128 then some value else none

def exponent? (characters : List Char) : Option Int := do
  let (negative, digits) := unsigned characters
  let digits ← digitsOf? isDigit digits
  let value : Int := numeralValue digits
  return if negative then -value else value

def fraction? (characters : List Char) : Option (List Char × Int) := do
  let isMark (character : Char) : Bool := character = 'e' ∨ character = 'E'
  let digits ← digitsOf? isDigit (characters.takeWhile fun character => !isMark character)
  match characters.dropWhile fun character => !isMark character with
  | [] => return (digits, 0)
  | _ :: exponent => return (digits, ← exponent? exponent)

def isFloat (characters : List Char) : Bool :=
  let (_, body) := unsigned characters
  if body = ['i', 'n', 'f'] ∨ body = ['n', 'a', 'n'] then true
  else
    let isInner (character : Char) : Bool := isDigit character ∨ character = '_'
    let number : Option Number := do
      let whole ← decimalDigits? (body.takeWhile isInner)
      let (fraction, exponent) ← match body.dropWhile isInner with
        | '.' :: rest => fraction? rest
        | 'e' :: rest | 'E' :: rest => (exponent? rest).map fun exponent => ([], exponent)
        | _ => none
      return .ofDecimal false (numeralValue (whole ++ fraction)) (exponent - fraction.length)
    number.any (·.isFinite)

def twoDigits? (least greatest : Nat) : List Char → Option (List Char)
  | a :: b :: rest =>
      let value := numeralValue [a, b]
      if isDigit a ∧ isDigit b ∧ least ≤ value ∧ value ≤ greatest then some rest else none
  | _ => none

def colon? : List Char → Option (List Char)
  | ':' :: rest => some rest
  | _ => none

def date? : List Char → Option (List Char)
  | a :: b :: c :: d :: '-' :: e :: f :: '-' :: g :: h :: rest =>
      if [a, b, c, d, e, f, g, h].all isDigit ∧
          (Date.of? (numeralValue [a, b, c, d]) (numeralValue [e, f])
            (numeralValue [g, h])).isSome then some rest
      else none
  | _ => none

def time? (characters : List Char) : Option (List Char) := do
  let rest ← twoDigits? 0 59 (← colon? (← twoDigits? 0 23 characters))
  match rest with
  | ':' :: rest =>
      match ← twoDigits? 0 60 rest with
      | '.' :: rest =>
          let digits := rest.takeWhile isDigit
          if digits.isEmpty then none else some (rest.drop digits.length)
      | rest => some rest
  | _ => some rest

def isOffset : List Char → Bool
  | [] => true
  | ['Z'] | ['z'] => true
  | sign :: rest =>
      (sign = '+' ∨ sign = '-') &&
        ((twoDigits? 0 23 rest).bind colon? |>.bind (twoDigits? 0 59)) == some []

def isMoment (characters : List Char) : Bool :=
  match date? characters with
  | some [] => true
  | some (separator :: rest) =>
      (separator = 'T' ∨ separator = 't' ∨ separator = ' ') && (time? rest).any isOffset
  | none => time? characters == some []

def isBare (character : Char) : Bool :=
  character.isAlphanum || ['+', '-', '_', '.', ':'].contains character

def ofSpelling? (characters : List Char) : Option Value :=
  if characters = "true".toList then some (.boolean true)
  else if characters = "false".toList then some (.boolean false)
  else match integer? characters with
    | some value => some (.integer value)
    | none =>
        if isFloat characters then some .float
        else if isMoment characters then some .moment
        else none

/-- A bare scalar at the front of the characters. A blank may part a date from its time. -/
def scalar? (characters : List Char) : Option (Value × List Char) :=
  let spelling := characters.takeWhile isBare
  let rest := characters.dropWhile isBare
  let withTime : Option (Value × List Char) :=
    match date? spelling, rest with
    | some [], ' ' :: digit :: more =>
        if isDigit digit then
          let time := (digit :: more).takeWhile isBare
          (ofSpelling? (spelling ++ ' ' :: time)).map fun value =>
            (value, (digit :: more).dropWhile isBare)
        else none
    | _, _ => none
  match withTime with
  | some found => some found
  | none => (ofSpelling? spelling).map fun value => (value, rest)

end SheetPost.Toml
