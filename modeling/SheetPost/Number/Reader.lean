import SheetPost.Number.Rounding
import SheetPost.Text.Digit

namespace SheetPost.Number

structure Numeral where
  whole : List Char
  fraction : List Char
  exponent : Int

def Numeral.value (negative : Bool) (decimal : Numeral) : Number :=
  ofDecimal negative (numeralValue (decimal.whole ++ decimal.fraction))
    (decimal.exponent - decimal.fraction.length)

/-- An unsigned decimal that takes up the whole text. -/
def readNumeral? (characters : List Char) : Option Numeral :=
  let (whole, afterWhole) := spanDigits characters
  let (fraction, afterFraction) := match afterWhole with
    | '.' :: rest => spanDigits rest
    | _ => ([], afterWhole)
  if whole.isEmpty && fraction.isEmpty then none
  else match afterFraction with
    | [] => some ⟨whole, fraction, 0⟩
    | 'e' :: rest | 'E' :: rest =>
        (readInteger? rest).map fun exponent => ⟨whole, fraction, exponent⟩
    | _ => none

def read? (text : String) : Option Number :=
  let (negative, body) := match text.toList with
    | '-' :: rest => (true, rest)
    | '+' :: rest => (false, rest)
    | characters => (false, characters)
  match String.ofList (body.map Char.toLower) with
  | "inf" | "infinity" => some (.infinite negative)
  | "nan" => some .nan
  | _ => (readNumeral? body).map (·.value negative)

end SheetPost.Number
