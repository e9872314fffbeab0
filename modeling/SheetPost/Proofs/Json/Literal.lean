import SheetPost.Json.Literal
import SheetPost.Proofs.Number.Range
import SheetPost.Proofs.Text.Numeral

namespace SheetPost.Literal

/-! ## Spelling -/

structure IsNumeral (digits : List Char) : Prop where
  filled : digits ≠ []
  digits : ∀ digit ∈ digits, isDigit digit = true

inductive SpellsFraction : List Char → Option (List Char) → Prop
  | none : SpellsFraction [] none
  | some {digits : List Char} (numeral : IsNumeral digits) :
      SpellsFraction ('.' :: digits) (some digits)

inductive SpellsPower : List Char → Int → Prop
  | unsigned {digits : List Char} (numeral : IsNumeral digits) :
      SpellsPower digits (numeralValue digits)
  | plus {digits : List Char} (numeral : IsNumeral digits) :
      SpellsPower ('+' :: digits) (numeralValue digits)
  | minus {digits : List Char} (numeral : IsNumeral digits) :
      SpellsPower ('-' :: digits) (-numeralValue digits)

inductive SpellsExponent : List Char → Option Int → Prop
  | none : SpellsExponent [] none
  | some {letter : Char} {characters : List Char} {power : Int}
      (isLetter : letter = 'e' ∨ letter = 'E') (spelled : SpellsPower characters power) :
      SpellsExponent (letter :: characters) (some power)

def minus (negative : Bool) : List Char :=
  if negative then ['-'] else []

/-- How a literal is spelled. -/
inductive Spells : List Char → Literal → Prop
  | intro {negative : Bool} {whole fractionPart exponentPart : List Char}
      {fraction : Option (List Char)} {exponent : Option Int} (numeral : IsNumeral whole)
      (noZeroAhead : whole.length = 1 ∨ whole.head? ≠ some '0')
      (fractionSpelled : SpellsFraction fractionPart fraction)
      (exponentSpelled : SpellsExponent exponentPart exponent) :
      Spells (minus negative ++ (whole ++ (fractionPart ++ exponentPart)))
        ⟨negative, whole, fraction, exponent⟩

/-! ## Reading what is spelled -/

theorem IsNumeral.append_ne_cons {digits : List Char} (numeral : IsNumeral digits)
    {sign : Char} (notDigit : isDigit sign = false) (rest tail : List Char) :
    digits ++ rest ≠ sign :: tail :=
  SheetPost.append_ne_cons numeral.filled numeral.digits notDigit

theorem IsNumeral.accepted {digits : List Char} (numeral : IsNumeral digits) :
    (digits.isEmpty || !digits.all isDigit) = false := by
  have all : digits.all isDigit = true := List.all_eq_true.mpr numeral.digits
  simp [all, numeral.filled]

theorem readInteger?_of_spells {characters : List Char} {power : Int}
    (spelled : SpellsPower characters power) : readInteger? characters = some power := by
  cases spelled with
  | unsigned numeral =>
      have noSign {sign : Char} (notDigit : isDigit sign = false) (tail : List Char) :
          characters ≠ sign :: tail := by
        simpa using numeral.append_ne_cons notDigit [] tail
      unfold readInteger?
      split
      next same =>
      split at same
      · next tail => exact absurd rfl (noSign (by decide) tail)
      · next tail => exact absurd rfl (noSign (by decide) tail)
      · cases same
        simp [numeral.accepted]
  | plus numeral => simp [readInteger?, numeral.accepted]
  | minus numeral => simp [readInteger?, numeral.accepted]

theorem SpellsExponent.noDigitAhead {characters : List Char} {exponent : Option Int}
    (spelled : SpellsExponent characters exponent) : NoDigitAhead characters := by
  cases spelled with
  | none => nofun
  | some isLetter _ =>
      rcases isLetter with rfl | rfl
      · simp [NoDigitAhead, isDigit]
      · simp [NoDigitAhead, isDigit]

theorem SpellsFraction.noDigitAhead {characters rest : List Char} {fraction : Option (List Char)}
    (spelled : SpellsFraction characters fraction) (ends : NoDigitAhead rest) :
    NoDigitAhead (characters ++ rest) := by
  cases spelled with
  | none => exact ends
  | some _ => simp [NoDigitAhead, isDigit]

theorem ofChars?_of_spells {characters : List Char} {literal : Literal}
    (spelled : Spells characters literal) : ofChars? characters = some literal := by
  cases spelled with
  | @intro minused whole fractionPart exponentPart fraction exponent numeral noZeroAhead
      fractionSpelled exponentSpelled =>
      have afterFraction := exponentSpelled.noDigitAhead
      have accepted :
          (!whole.isEmpty && (whole.length == 1 || whole.head? != some '0')) = true := by
        simpa [numeral.filled] using noZeroAhead
      unfold ofChars?
      split
      next negative body same =>
      have chosen : negative = minused ∧ body = whole ++ (fractionPart ++ exponentPart) := by
        cases minused with
        | true =>
            cases same
            exact ⟨rfl, rfl⟩
        | false =>
            split at same
            · next tail begins => exact absurd begins (numeral.append_ne_cons (by decide) _ _)
            · cases same
              exact ⟨rfl, rfl⟩
      rw [chosen.1, chosen.2,
        spanDigits_of_noDigitAhead numeral.digits (fractionSpelled.noDigitAhead afterFraction)]
      simp only [accepted, guard_true]
      cases fractionSpelled with
      | none =>
          cases exponentSpelled with
          | none => rfl
          | some isLetter spelled =>
              rcases isLetter with rfl | rfl
              · simp [readInteger?_of_spells spelled]
              · simp [readInteger?_of_spells spelled]
      | some digits =>
          simp only [List.cons_append, spanDigits_of_noDigitAhead digits.digits afterFraction]
          cases exponentSpelled with
          | none => simp [digits.filled]
          | some isLetter spelled =>
              rcases isLetter with rfl | rfl
              · simp [readInteger?_of_spells spelled, digits.filled]
              · simp [readInteger?_of_spells spelled, digits.filled]

/-! ## The number of a literal -/

theorem gather_lt {significand : Nat} (small : significand < 2 ^ 64) (digits : List Char) :
    (gather significand digits).1 < 2 ^ 64 := by
  induction digits generalizing significand with
  | nil => exact small
  | cons digit digits induction =>
      unfold gather
      dsimp only
      split
      · next fits => exact induction fits
      · exact small

theorem scale?_isFinite {steps : Nat} {value number : Number} {exponent : Int}
    (finite : value.isFinite = true) (scaled : scale? steps value exponent = some number) :
    number.isFinite = true := by
  induction steps generalizing value exponent with
  | zero =>
      cases scaled
      rfl
  | succ steps induction =>
      unfold scale? at scaled
      dsimp only at scaled
      split at scaled
      · next small =>
          have ⟨power, isPower, large⟩ := Number.ofDecimal_powerOfTen small
          split at scaled
          · split at scaled
            · next productFinite =>
                cases scaled
                exact productFinite
            · cases scaled
          · cases scaled
            rw [isPower]
            exact Number.divide_isFinite finite large
      split at scaled
      · cases scaled
        exact finite
      split at scaled
      · cases scaled
      · have ⟨power, isPower, large⟩ := Number.ofDecimal_powerOfTen (Nat.le_refl 308)
        refine induction ?_ scaled
        rw [greatestPower, isPower]
        exact Number.divide_isFinite finite large

theorem scale?_of_negative (steps : Nat) (value : Number) {exponent : Int}
    (negative : exponent < 0) : ∃ number, scale? steps value exponent = some number := by
  induction steps generalizing value exponent with
  | zero => exact ⟨_, rfl⟩
  | succ steps induction =>
      unfold scale?
      dsimp only
      split
      · rw [if_neg (Int.not_le.mpr negative)]
        exact ⟨_, rfl⟩
      · next far =>
          split
          · exact ⟨_, rfl⟩
          · rw [if_neg (Int.not_le.mpr negative)]
            exact induction _ (by rw [greatestPower] at far ⊢; omega)

/-- The integer that the digits make, one after the other, as long as it fits into 64 bits. -/
def significand (literal : Literal) : Nat :=
  (gather (gather 0 literal.whole).1 (literal.fraction.getD [])).1

/-- The power of ten that scales the integer. It counts the digits that were left over before the
point and those that were taken in from behind it. -/
def power (literal : Literal) : Int :=
  let (whole, leftOver) := gather 0 literal.whole
  let fraction := literal.fraction.getD []
  let ignored := (gather whole fraction).2
  literal.exponent.getD 0 + leftOver - ((fraction.length : Int) - ignored)

/-- Scaling stays within the range: there is nothing to scale, or it is scaled down, or one product
of two numbers scales it up and does not reach the end of the range. -/
def InRange (literal : Literal) : Prop :=
  literal.significand = 0 ∨ literal.power < 0 ∨
    literal.power ≤ greatestPower ∧
      ∃ value factor, (Number.ofNat literal.significand).value? = some value ∧
        (Number.ofDecimal false 1 literal.power).value? = some factor ∧
        value * factor < Number.limit

theorem significand_lt (literal : Literal) : literal.significand < 2 ^ 64 :=
  gather_lt (gather_lt (by decide) _) _

theorem scale?_near (steps : Nat) (value : Number) {exponent : Nat}
    (near : exponent ≤ greatestPower) :
    scale? (steps + 1) value exponent =
      if (value.multiply (.ofDecimal false 1 exponent)).isFinite then
        some (value.multiply (.ofDecimal false 1 exponent))
      else none := by
  unfold scale?
  dsimp only
  rw [Int.natAbs_natCast, if_pos near, if_pos (Int.natCast_nonneg exponent)]

theorem scale?_far (steps : Nat) (value : Number) {exponent : Nat}
    (far : greatestPower < exponent) :
    scale? (steps + 1) value exponent = if value.isZero then some value else none := by
  unfold scale?
  dsimp only
  rw [Int.natAbs_natCast, if_neg (Nat.not_le.mpr far), if_pos (Int.natCast_nonneg exponent)]

theorem exists_scale?_iff (literal : Literal) :
    (∃ number, scale? 4 (.ofNat literal.significand) literal.power = some number) ↔
      literal.InRange := by
  have ⟨value, isValue, zero⟩ := Number.exists_ofNat literal.significand_lt
  unfold InRange
  rw [isValue]
  rcases lt_or_ge literal.power 0 with down | up
  · exact iff_of_true (scale?_of_negative 4 _ down) (.inr (.inl down))
  have ⟨exponent, isExponent⟩ := Int.eq_ofNat_of_zero_le up
  rw [isExponent]
  by_cases near : exponent ≤ greatestPower
  · have ⟨factor, isFactor, _⟩ := Number.ofDecimal_powerOfTen near
    have product := Number.multiply_isFinite_iff false false value factor
    rw [scale?_near 3 _ near, isFactor]
    constructor
    · intro ⟨number, scaled⟩
      split at scaled
      · next finite =>
          exact .inr (.inr ⟨by omega, value.value, factor.value, rfl, rfl, product.mp finite⟩)
      · cases scaled
    · intro within
      refine ⟨_, if_pos (product.mpr ?_)⟩
      rcases within with nothing | down | ⟨_, _, _, isFirst, isSecond, small⟩
      · rw [Magnitude.value_of_isZero (zero.mpr nothing), zero_mul]
        exact Number.limit_pos
      · omega
      · cases isFirst
        cases isSecond
        exact small
  · rw [scale?_far 3 _ (Nat.lt_of_not_le near), ← zero]
    constructor
    · intro ⟨number, scaled⟩
      split at scaled
      · next isZero => exact .inl isZero
      · cases scaled
    · intro within
      rcases within with isZero | down | ⟨close, _⟩
      · exact ⟨_, if_pos isZero⟩
      · omega
      · omega

theorem isFinite_negate {number : Number} (finite : number.isFinite = true) :
    number.negate.isFinite = true := by
  cases number with
  | nan => cases finite
  | infinite => cases finite
  | finite => rfl

theorem number?_negative (whole : List Char) (fraction : Option (List Char))
    (exponent : Option Int) :
    number? ⟨true, whole, fraction, exponent⟩ =
      (number? ⟨false, whole, fraction, exponent⟩).map Number.negate :=
  rfl

theorem number?_unsigned (whole : List Char) (fraction : Option (List Char))
    (exponent : Option Int) :
    let literal : Literal := ⟨false, whole, fraction, exponent⟩
    literal.number? = some (.ofNat literal.significand) ∧ literal.power = 0 ∨
      literal.number? = scale? 4 (.ofNat literal.significand) literal.power := by
  intro literal
  dsimp only [number?, significand, power, literal]
  rw [if_neg Bool.false_ne_true]
  split
  · next nothing => exact .inl ⟨rfl, by simp [nothing, gather]⟩
  · exact .inr rfl

theorem inRange_of_power {literal : Literal} (whole : literal.power = 0) : literal.InRange := by
  have ⟨value, isValue, _⟩ := Number.exists_ofNat literal.significand_lt
  have one : Number.ofDecimal false 1 0 = .ofNat 1 := by decide +kernel
  refine .inr (.inr ⟨by rw [whole]; decide, value.value, 1, ?_, ?_, ?_⟩)
  · rw [isValue]
    rfl
  · rw [whole, one, Number.value?_ofNat 1 (by decide), Nat.cast_one]
  · rw [mul_one]
    exact Number.value_lt_limit value

theorem exists_number?_iff (literal : Literal) :
    (∃ number, literal.number? = some number) ↔ literal.InRange := by
  have ⟨negative, whole, fraction, exponent⟩ := literal
  have unsigned : (∃ number, number? ⟨false, whole, fraction, exponent⟩ = some number) ↔
      InRange ⟨false, whole, fraction, exponent⟩ := by
    rcases number?_unsigned whole fraction exponent with ⟨same, still⟩ | same
    · exact iff_of_true ⟨_, same⟩ (inRange_of_power still)
    · rw [same, exists_scale?_iff]
  cases negative with
  | false => exact unsigned
  | true =>
      refine Iff.trans ?_ unsigned
      simp [number?_negative, Option.map_eq_some_iff]

/-- A literal below the greatest number whose integer is rounded up first. -/
example : number? ⟨false, "1797693134862315708".toList, none, some 290⟩ = none := by
  decide +kernel

theorem number?_isFinite {literal : Literal} {number : Number}
    (read : literal.number? = some number) : number.isFinite = true := by
  have ⟨negative, whole, fraction, exponent⟩ := literal
  have unsigned {value : Number}
      (isValue : number? ⟨false, whole, fraction, exponent⟩ = some value) :
      value.isFinite = true := by
    have ⟨integer, isInteger, _⟩ :=
      Number.exists_ofNat (significand_lt ⟨false, whole, fraction, exponent⟩)
    have finite : (Number.ofNat (significand ⟨false, whole, fraction, exponent⟩)).isFinite =
        true := by
      rw [isInteger]
      rfl
    rcases number?_unsigned whole fraction exponent with ⟨same, _⟩ | same
    · cases isValue.symm.trans same
      exact finite
    · exact scale?_isFinite finite (same.symm.trans isValue)
  cases negative with
  | false => exact unsigned read
  | true =>
      rw [number?_negative] at read
      have ⟨value, isValue, same⟩ := Option.map_eq_some_iff.mp read
      rw [← same]
      exact isFinite_negate (unsigned isValue)

end SheetPost.Literal
