/-!
# Numbers of cells and messages

A cell and a message hold binary floating-point numbers of double width. A finite one is a sign,
a significand and a power of two; the type keeps the significand canonical, so equal numbers are
equal values and there is exactly one value for each of the two zeros. Nothing here rounds: these
are the questions the program asks of a number it already has.
-/

namespace SheetPost

-- A power is one of natural numbers or integers, also where a library has more general powers.
attribute [instance (high), default_instance (high + 1)] instPowNat

/-- Canonical significand and exponent of a finite number: 53 bits, and fewer only where the
exponent can get no smaller. -/
structure Canonical (significand : Nat) (exponent : Int) : Prop where
  width : significand < 2 ^ 53
  lowest : -1074 ≤ exponent
  highest : exponent ≤ 971
  leading : 2 ^ 52 ≤ significand ∨ exponent = -1074

instance (significand : Nat) (exponent : Int) : Decidable (Canonical significand exponent) :=
  decidable_of_iff
    (significand < 2 ^ 53 ∧ -1074 ≤ exponent ∧ exponent ≤ 971 ∧
      (2 ^ 52 ≤ significand ∨ exponent = -1074))
    ⟨fun fields => ⟨fields.1, fields.2.1, fields.2.2.1, fields.2.2.2⟩,
      fun canonical => ⟨canonical.width, canonical.lowest, canonical.highest, canonical.leading⟩⟩

structure Magnitude where
  significand : Nat
  exponent : Int
  canonical : Canonical significand exponent
deriving DecidableEq

namespace Magnitude

def zero : Magnitude :=
  ⟨0, -1074, by decide⟩

def isZero (magnitude : Magnitude) : Bool :=
  magnitude.significand == 0

def numerator (magnitude : Magnitude) : Nat :=
  magnitude.significand * 2 ^ magnitude.exponent.toNat

def denominator (magnitude : Magnitude) : Nat :=
  2 ^ (-magnitude.exponent).toNat

def whole (magnitude : Magnitude) : Nat :=
  magnitude.numerator / magnitude.denominator

def isWhole (magnitude : Magnitude) : Bool :=
  magnitude.numerator % magnitude.denominator == 0

theorem denominator_pos (magnitude : Magnitude) : 0 < magnitude.denominator :=
  Nat.two_pow_pos _

end Magnitude

inductive Number where
  | nan
  | infinite (negative : Bool)
  | finite (negative : Bool) (magnitude : Magnitude)
deriving DecidableEq

namespace Number

def zero : Number :=
  .finite false .zero

instance : Inhabited Number := ⟨zero⟩

def isFinite : Number → Bool
  | .finite .. => true
  | _ => false

def isNan : Number → Bool
  | .nan => true
  | _ => false

def isZero : Number → Bool
  | .finite _ magnitude => magnitude.isZero
  | _ => false

end Number

end SheetPost
