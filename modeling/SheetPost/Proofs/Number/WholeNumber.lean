import SheetPost.Number.Rounding

namespace SheetPost

theorem divideToEven_one (value : Nat) : divideToEven value 1 = value := by
  simp [divideToEven, Nat.mod_one]

namespace Number

/-- The shift by which a whole number gets 53 bits is the grid on which it lies. -/
theorem gridExponent_whole {value : Nat} (positive : 0 < value) (small : value < 2 ^ 53) :
    ∃ shift : Nat, shift ≤ 52 ∧ gridExponent value 1 = -(shift : Int) ∧
      2 ^ 52 ≤ value * 2 ^ shift ∧ value * 2 ^ shift < 2 ^ 53 := by
  have nonzero : value ≠ 0 := Nat.ne_of_gt positive
  have bits : value.log2 ≤ 52 := Nat.le_of_lt_succ ((Nat.log2_lt nonzero).mpr small)
  obtain ⟨shift, sum⟩ := Nat.exists_eq_add_of_le bits
  have low : 2 ^ 52 ≤ value * 2 ^ shift := by
    rw [sum, Nat.pow_add]
    exact Nat.mul_le_mul_right _ (Nat.log2_self_le nonzero)
  have high : value * 2 ^ shift < 2 ^ 53 := by
    have width : 53 = value.log2 + 1 + shift := by omega
    rw [width, Nat.pow_add]
    exact Nat.mul_lt_mul_of_pos_right Nat.lt_log2_self (Nat.two_pow_pos _)
  refine ⟨shift, by omega, ?_, low, high⟩
  have guess : (value.log2 : Int) - (Nat.log2 1 : Int) - 52 = -(shift : Int) := by
    have one : Nat.log2 1 = 0 := by decide
    omega
  unfold gridExponent
  rw [if_neg nonzero, guess]
  cases shift with
  | zero =>
      have unsigned : -((0 : Nat) : Int) = 0 := by omega
      have reaches : 1 * 2 ^ (Int.toNat 0 + 52) ≤ value := by
        rw [Nat.pow_zero, Nat.mul_one] at low
        rw [Nat.one_mul]
        exact low
      dsimp only
      rw [unsigned]
      simp only [Int.le_refl, reaches, if_true]
      omega
  | succ shift =>
      have below : ¬0 ≤ -((shift + 1 : Nat) : Int) := by omega
      have shifted : (- -((shift + 1 : Nat) : Int)).toNat = shift + 1 := by omega
      have reaches : 1 * 2 ^ 52 ≤ value * 2 ^ (shift + 1) := by rwa [Nat.one_mul]
      dsimp only
      rw [shifted]
      simp only [below, reaches, if_false, if_true]
      omega

theorem ofNat_eq_fraction {value : Nat} (small : value < 2 ^ 53) :
    ∃ magnitude, ofNat value = .finite false magnitude ∧
      magnitude.numerator = value * magnitude.denominator := by
  rcases Nat.eq_zero_or_pos value with rfl | positive
  · exact ⟨.zero, by decide +kernel, by decide +kernel⟩
  rcases gridExponent_whole positive small with ⟨shift, short, grid, low, high⟩
  have shifted : (- -(shift : Int)).toNat = shift := by omega
  have unshifted : (-(shift : Int)).toNat = 0 := by omega
  have canonical : Canonical (value * 2 ^ shift) (-(shift : Int)) :=
    ⟨high, by omega, by omega, .inl low⟩
  refine ⟨⟨value * 2 ^ shift, -(shift : Int), canonical⟩, ?_, ?_⟩
  · unfold ofNat ofFraction
    dsimp only
    rw [grid, shifted, unshifted, Nat.pow_zero, Nat.one_mul, divideToEven_one,
      if_neg (Nat.ne_of_lt high), dif_pos canonical]
  · unfold Magnitude.numerator Magnitude.denominator
    dsimp only
    rw [shifted, unshifted, Nat.pow_zero, Nat.mul_one]

theorem ofNat_eq_finite {value : Nat} (small : value < 2 ^ 53) :
    ∃ magnitude, ofNat value = .finite false magnitude ∧ magnitude.whole = value := by
  have ⟨magnitude, same, fraction⟩ := ofNat_eq_fraction small
  refine ⟨magnitude, same, ?_⟩
  rw [Magnitude.whole, fraction]
  exact Nat.mul_div_cancel _ magnitude.denominator_pos

end Number

end SheetPost
