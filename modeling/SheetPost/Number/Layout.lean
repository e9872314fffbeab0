import SheetPost.Number.Shortest

namespace SheetPost

/-- `digits * 10 ^ exponent` written out positionally. -/
def positional (digits : List Char) (exponent : Int) : List Char :=
  if 0 ≤ exponent then
    digits ++ List.replicate exponent.toNat '0'
  else
    let places := (-exponent).toNat
    let padded := List.replicate (places + 1 - digits.length) '0' ++ digits
    let wholeLength := padded.length - places
    padded.take wholeLength ++ '.' :: padded.drop wholeLength

example : positional "25".toList (-1) = "2.5".toList := by decide
example : positional "25".toList (-4) = "0.0025".toList := by decide
example : positional "25".toList 2 = "2500".toList := by decide

/-- `digits * 10 ^ exponent` with one digit before the point and a signed exponent. -/
def scientific (digits : List Char) (exponent : Int) : List Char :=
  let power := exponent + digits.length - 1
  let fraction := digits.drop 1
  digits.take 1 ++ (if fraction.isEmpty then [] else '.' :: fraction) ++
    'e' :: (if power < 0 then '-' else '+') :: numeral power.natAbs

example : scientific "15".toList (-10) = "1.5e-9".toList := by decide
example : scientific "1".toList 16 = "1e+16".toList := by decide

namespace Number

private def signed (negative : Bool) (characters : List Char) : List Char :=
  if negative then '-' :: characters else characters

def plainText : Number → String
  | nan => "NaN"
  | infinite negative => String.ofList (signed negative "inf".toList)
  | finite negative magnitude =>
      let (digits, exponent) := magnitude.shortest .up
      String.ofList (signed negative (positional (numeral digits) exponent))

/-- The text of a number in a cell. Whole numbers below `10 ^ 15` are written as integers, which
leaves zero without a sign; all others as `plainText`. -/
def cellText : Number → String
  | finite negative magnitude =>
      if magnitude.isWhole && magnitude.whole < 10 ^ 15 then
        integerText (if negative then -magnitude.whole else magnitude.whole)
      else plainText (finite negative magnitude)
  | number => plainText number

/-- The text of a finite number in a message, at least one decimal in the positional form: the
fewest digits that read back, an exact tie to the even digit. Numbers from `10 ^ -5` on and below
`10 ^ 16` are written positionally. -/
def messageText (negative : Bool) (magnitude : Magnitude) : String :=
  let (value, exponent) := magnitude.shortest .toEven
  let digits := numeral value
  let power := exponent + digits.length - 1
  let laidOut :=
    if magnitude.isZero then "0.0".toList
    else if -5 ≤ power ∧ power < 16 then
      positional digits exponent ++ (if 0 ≤ exponent then ".0".toList else [])
    else scientific digits exponent
  String.ofList (signed negative laidOut)

end Number

end SheetPost
