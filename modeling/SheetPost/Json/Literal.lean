import SheetPost.Number.Rounding
import SheetPost.Text.Digit

/-!
# Number literals in messages

A number in a message is kept as it is spelled, because what it means depends on who asks. As an
integer it must be spelled without a point and without an exponent, and minus zero is none. As a
number it is read in two steps: as many digits as fit into 64 bits make an integer, which one
multiplication or division then scales by a power of ten. Both steps round, so a long literal may
end up one place beside the nearest number.
-/

namespace SheetPost

structure Literal where
  negative : Bool
  whole : List Char
  fraction : Option (List Char)
  exponent : Option Int

namespace Literal

/-- A literal that takes up all the characters: no plus, no leading zero, and digits on both sides
of a point. -/
def ofChars? (characters : List Char) : Option Literal := do
  let (negative, body) := match characters with
    | '-' :: rest => (true, rest)
    | _ => (false, characters)
  let (whole, afterWhole) := spanDigits body
  guard (!whole.isEmpty && (whole.length == 1 || whole.head? != some '0'))
  let (fraction, afterFraction) ← match afterWhole with
    | '.' :: rest =>
        let (digits, rest) := spanDigits rest
        if digits.isEmpty then none else some (some digits, rest)
    | _ => some (none, afterWhole)
  match afterFraction with
  | [] => some ⟨negative, whole, fraction, none⟩
  | 'e' :: rest | 'E' :: rest =>
      (readInteger? rest).map fun exponent => ⟨negative, whole, fraction, some exponent⟩
  | _ => none

/-! ## As an integer -/

def integer? (literal : Literal) : Option Int :=
  match literal.fraction, literal.exponent with
  | none, none =>
      let value : Int := numeralValue literal.whole
      if !literal.negative then some value
      else if value = 0 then none
      else some (-value)
  | _, _ => none

def count? (literal : Literal) : Option Nat :=
  literal.integer?.bind fun value =>
    if 0 ≤ value ∧ value < 2 ^ 64 then some value.toNat else none

def signed? (literal : Literal) : Option Int :=
  literal.integer?.filter fun value => -2 ^ 63 ≤ value ∧ value < 2 ^ 63

/-! ## As a number -/

/-- Take digits into a significand while it fits into 64 bits. The number of digits that were left
over comes with it. -/
def gather (significand : Nat) : List Char → Nat × Nat
  | [] => (significand, 0)
  | digit :: digits =>
      let extended := significand * 10 + digitValue digit
      if extended < 2 ^ 64 then gather extended digits
      else (significand, digits.length + 1)

def greatestPower : Nat := 308

/-- `value * 10 ^ exponent`, scaled in steps; an exponent far below the least number leaves zero,
and one far above the greatest number leaves none. -/
def scale? : (steps : Nat) → (value : Number) → (exponent : Int) → Option Number
  | 0, _, _ => some .zero
  | steps + 1, value, exponent =>
      if exponent.natAbs ≤ greatestPower then
        let power := Number.ofDecimal false 1 exponent.natAbs
        if 0 ≤ exponent then
          let product := value.multiply power
          if product.isFinite then some product else none
        else some (value.divide power)
      else if value.isZero then some value
      else if 0 ≤ exponent then none
      else
        scale? steps (value.divide (Number.ofDecimal false 1 greatestPower))
          (exponent + greatestPower)

/-- The number that is spelled, unless scaling leads beyond the greatest one. Rounding the integer
first can lead there from a literal that is not beyond it itself. -/
def number? (literal : Literal) : Option Number :=
  let (whole, leftOver) := gather 0 literal.whole
  let value : Option Number :=
    match literal.fraction, literal.exponent, leftOver with
    | none, none, 0 => some (Number.ofNat whole)
    | _, _, _ =>
        let fraction := literal.fraction.getD []
        let (significand, ignored) := gather whole fraction
        let places : Int := (fraction.length : Int) - ignored
        scale? 4 (Number.ofNat significand) (literal.exponent.getD 0 + leftOver - places)
  if literal.negative then value.map Number.negate else value

end Literal

end SheetPost
