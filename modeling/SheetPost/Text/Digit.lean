namespace SheetPost

def isDigit (character : Char) : Bool :=
  '0' ≤ character && character ≤ '9'

def digitValue (character : Char) : Nat :=
  if isDigit character then character.toNat - 48 else 0

def numeralValue (digits : List Char) : Nat :=
  digits.foldl (fun value digit => value * 10 + digitValue digit) 0

def numeral (value : Nat) : List Char :=
  Nat.toDigits 10 value

def paddedNumeral (width value : Nat) : List Char :=
  let digits := numeral value
  List.replicate (width - digits.length) '0' ++ digits

example : paddedNumeral 4 25 = "0025".toList := by decide
example : paddedNumeral 2 2025 = "2025".toList := by decide
example : numeralValue "0190".toList = 190 := by decide

def spanDigits (characters : List Char) : List Char × List Char :=
  (characters.takeWhile isDigit, characters.dropWhile isDigit)

def integerText (value : Int) : String :=
  String.ofList (if value < 0 then '-' :: numeral value.natAbs else numeral value.natAbs)

def readNatural? (characters : List Char) : Option Nat :=
  let digits := match characters with
    | '+' :: rest => rest
    | _ => characters
  if digits.isEmpty || !digits.all isDigit then none else some (numeralValue digits)

example : readNatural? "+007".toList = some 7 ∧ readNatural? "-7".toList = none := by decide
example : readNatural? "+".toList = none ∧ readNatural? "7 ".toList = none := by decide

def readInteger? (characters : List Char) : Option Int :=
  let (negative, digits) := match characters with
    | '-' :: rest => (true, rest)
    | '+' :: rest => (false, rest)
    | _ => (false, characters)
  if digits.isEmpty || !digits.all isDigit then none
  else
    let value : Int := numeralValue digits
    some (if negative then -value else value)

end SheetPost
