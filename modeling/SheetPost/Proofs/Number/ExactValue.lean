import Mathlib.Data.Rat.Floor
import SheetPost.Proofs.Number.WholeNumber

namespace SheetPost

theorem two_zpow_eq_div (exponent : ℤ) :
    (2 : ℚ) ^ exponent = 2 ^ exponent.toNat / 2 ^ (-exponent).toNat := by
  have sum : exponent = (exponent.toNat : ℤ) - ((-exponent).toNat : ℤ) := by omega
  conv_lhs => rw [sum]
  rw [zpow_sub₀ two_ne_zero, zpow_natCast, zpow_natCast]

namespace Magnitude

def value (magnitude : Magnitude) : ℚ :=
  magnitude.significand * (2 : ℚ) ^ magnitude.exponent

theorem value_eq_div (magnitude : Magnitude) :
    magnitude.value = (magnitude.numerator : ℚ) / magnitude.denominator := by
  rw [value, two_zpow_eq_div, numerator, denominator]
  push_cast
  rw [mul_div_assoc]

theorem value_nonneg (magnitude : Magnitude) : 0 ≤ magnitude.value := by
  rw [value_eq_div]
  positivity

theorem value_of_isZero {magnitude : Magnitude} (zero : magnitude.isZero = true) :
    magnitude.value = 0 := by
  have nothing : magnitude.significand = 0 := by simpa [isZero] using zero
  rw [value, nothing, Nat.cast_zero, zero_mul]

theorem floor_value (magnitude : Magnitude) : ⌊magnitude.value⌋ = magnitude.whole := by
  rw [value_eq_div, Rat.floor_natCast_div_natCast, whole, Int.natCast_ediv]

end Magnitude

namespace Number

def value? : Number → Option ℚ
  | .finite false magnitude => some magnitude.value
  | .finite true magnitude => some (-magnitude.value)
  | .nan | .infinite _ => none

theorem value?_ofNat (value : Nat) (small : value < 2 ^ 53) :
    (ofNat value).value? = some (value : ℚ) := by
  have ⟨magnitude, same, fraction⟩ := ofNat_eq_fraction small
  have positive : (magnitude.denominator : ℚ) ≠ 0 := by
    exact_mod_cast magnitude.denominator_pos.ne'
  rw [same, value?, magnitude.value_eq_div, fraction]
  push_cast
  rw [mul_div_cancel_right₀ _ positive]

end Number

end SheetPost
