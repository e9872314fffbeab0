import SheetPost.Number.Basic

/-!
# Rounding to a number

Every number that is not already at hand comes from an exact fraction by one rounding: to the
nearest number, a tie going to the even significand, and to infinity where the nearest one is out
of range. Decimal texts, whole numbers, products and quotients are all that one rounding of an
exact fraction.
-/

namespace SheetPost

/-- The quotient of two natural numbers, rounded to the nearest whole number, a tie to the even
one. -/
def divideToEven (numerator denominator : Nat) : Nat :=
  let quotient := numerator / denominator
  let twice := 2 * (numerator % denominator)
  if twice < denominator then quotient
  else if denominator < twice then quotient + 1
  else if quotient % 2 = 0 then quotient
  else quotient + 1

example : divideToEven 5 2 = 2 ∧ divideToEven 7 2 = 4 ∧ divideToEven 8 3 = 3 := by decide

namespace Number

/-- The exponent of the grid on which `numerator / denominator` has 53 significant bits, or the
lowest exponent where that is higher. -/
def gridExponent (numerator denominator : Nat) : Int :=
  if numerator = 0 then -1074 else
  let guess : Int := (numerator.log2 : Int) - (denominator.log2 : Int) - 52
  let reaches :=
    if 0 ≤ guess then denominator * 2 ^ (guess.toNat + 52) ≤ numerator
    else denominator * 2 ^ 52 ≤ numerator * 2 ^ (-guess).toNat
  max (-1074) (if reaches then guess else guess - 1)

def ofFraction (negative : Bool) (numerator denominator : Nat) : Number :=
  let grid := gridExponent numerator denominator
  let significand :=
    divideToEven (numerator * 2 ^ (-grid).toNat) (denominator * 2 ^ grid.toNat)
  let carried : Nat × Int :=
    if significand = 2 ^ 53 then (2 ^ 52, grid + 1) else (significand, grid)
  if canonical : Canonical carried.1 carried.2 then
    .finite negative ⟨carried.1, carried.2, canonical⟩
  else
    .infinite negative

/-- The number nearest to `digits * 10 ^ exponent`. The two guards only spare the work on
fractions that are far out of range. -/
def ofDecimal (negative : Bool) (digits : Nat) (exponent : Int) : Number :=
  let length : Int := (Nat.toDigits 10 digits).length
  if digits = 0 then .finite negative .zero
  else if 400 < length + exponent then .infinite negative
  else if length + exponent < -400 then .finite negative .zero
  else ofFraction negative (digits * 10 ^ exponent.toNat) (10 ^ (-exponent).toNat)

def ofNat (value : Nat) : Number :=
  ofFraction false value 1

/-! Products and quotients follow the usual rules for the infinities and for the sign of zero. -/

def multiply : Number → Number → Number
  | .finite left a, .finite right b =>
      ofFraction (left != right) (a.numerator * b.numerator) (a.denominator * b.denominator)
  | .nan, _ | _, .nan => .nan
  | .infinite left, .infinite right => .infinite (left != right)
  | .infinite left, .finite right magnitude | .finite left magnitude, .infinite right =>
      if magnitude.isZero then .nan else .infinite (left != right)

def divide : Number → Number → Number
  | .finite left a, .finite right b =>
      if b.isZero then (if a.isZero then .nan else .infinite (left != right))
      else ofFraction (left != right) (a.numerator * b.denominator) (a.denominator * b.numerator)
  | .nan, _ | _, .nan => .nan
  | .infinite _, .infinite _ => .nan
  | .infinite left, .finite right _ => .infinite (left != right)
  | .finite left _, .infinite right => .finite (left != right) .zero

def negate : Number → Number
  | .nan => .nan
  | .infinite negative => .infinite !negative
  | .finite negative magnitude => .finite (!negative) magnitude

end Number

end SheetPost
