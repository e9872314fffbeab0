import Mathlib.Data.Int.Log
import SheetPost.Proofs.Number.ExactValue

/-!
# The range of the numbers

Rounding a fraction leaves the finite numbers where the fraction lies halfway from the greatest one
to the next power of two or further up, and only there. The grid that it is rounded on lies 52
places below its leading bit, so the rounded significand is canonical, and a fraction of at least
one stays at least one.
-/

namespace SheetPost

/-! ## Whole quotients -/

section

variable {numerator denominator bound : Nat}

theorem divideToEven_le (small : 2 * numerator < (2 * bound + 1) * denominator) :
    divideToEven numerator denominator ≤ bound := by
  rw [Nat.add_mul, Nat.mul_assoc, Nat.one_mul] at small
  have quotient : numerator / denominator < bound + 1 := by
    refine Nat.div_lt_of_lt_mul ?_
    rw [Nat.mul_comm, Nat.add_mul, Nat.one_mul]
    omega
  unfold divideToEven
  dsimp only
  rcases Nat.lt_or_eq_of_le (Nat.le_of_lt_succ quotient) with less | whole
  · split_ifs <;> omega
  · have split := Nat.div_add_mod numerator denominator
    rw [whole, Nat.mul_comm] at split
    rw [if_pos (by omega)]
    exact whole.le

theorem le_divideToEven (large : bound * denominator ≤ numerator) (positive : 0 < denominator) :
    bound ≤ divideToEven numerator denominator := by
  have quotient : bound ≤ numerator / denominator := (Nat.le_div_iff_mul_le positive).mpr large
  unfold divideToEven
  dsimp only
  split_ifs <;> omega

theorem lt_divideToEven (odd : bound % 2 = 1)
    (large : (2 * bound + 1) * denominator ≤ 2 * numerator) (positive : 0 < denominator) :
    bound < divideToEven numerator denominator := by
  rw [Nat.add_mul, Nat.mul_assoc, Nat.one_mul] at large
  have quotient : bound ≤ numerator / denominator :=
    (Nat.le_div_iff_mul_le positive).mpr (by omega)
  unfold divideToEven
  dsimp only
  rcases Nat.lt_or_eq_of_le quotient with less | whole
  · split_ifs <;> omega
  · have split := Nat.div_add_mod numerator denominator
    rw [← whole, Nat.mul_comm] at split
    split_ifs <;> omega

end

namespace Number

variable {numerator denominator : Nat}

/-! ## The grid -/

theorem two_zpow_le_div_iff (up down : Nat) (positive : 0 < denominator) :
    (2 : ℚ) ^ ((up : ℤ) - down) ≤ (numerator : ℚ) / denominator ↔
      denominator * 2 ^ up ≤ numerator * 2 ^ down := by
  have divides : (0 : ℚ) < denominator := by exact_mod_cast positive
  rw [zpow_sub₀ two_ne_zero, zpow_natCast, zpow_natCast, div_le_div_iff₀ (by positivity) divides]
  rw [mul_comm ((2 : ℚ) ^ up)]
  exact_mod_cast Iff.rfl

theorem div_lt_two_zpow_iff (up down : Nat) (positive : 0 < denominator) :
    (numerator : ℚ) / denominator < (2 : ℚ) ^ ((up : ℤ) - down) ↔
      numerator * 2 ^ down < denominator * 2 ^ up := by
  rw [← not_le, two_zpow_le_div_iff up down positive, Nat.not_le]

/-- The grid lies 52 places below the leading bit, or as low as any does. -/
theorem gridExponent_eq_log (nonzero : 0 < numerator) (positive : 0 < denominator) :
    gridExponent numerator denominator =
      max (-1074) (Int.log 2 ((numerator : ℚ) / denominator) - 52) := by
  have fraction : 0 < (numerator : ℚ) / denominator := by positivity
  have below : Int.log 2 ((numerator : ℚ) / denominator) <
      ((numerator.log2 + 1 : Nat) : ℤ) - denominator.log2 := by
    rw [← Int.lt_zpow_iff_log_lt one_lt_two fraction]
    refine (div_lt_two_zpow_iff _ _ positive).mpr ?_
    calc numerator * 2 ^ denominator.log2
        < 2 ^ (numerator.log2 + 1) * 2 ^ denominator.log2 :=
          Nat.mul_lt_mul_of_pos_right Nat.lt_log2_self (Nat.two_pow_pos _)
      _ ≤ denominator * 2 ^ (numerator.log2 + 1) := by
          rw [Nat.mul_comm]
          exact Nat.mul_le_mul_right _ (Nat.log2_self_le positive.ne')
  have above : (numerator.log2 : ℤ) - ((denominator.log2 + 1 : Nat) : ℤ) ≤
      Int.log 2 ((numerator : ℚ) / denominator) := by
    rw [← Int.zpow_le_iff_le_log one_lt_two fraction]
    refine (two_zpow_le_div_iff _ _ positive).mpr ?_
    calc denominator * 2 ^ numerator.log2
        ≤ 2 ^ (denominator.log2 + 1) * 2 ^ numerator.log2 :=
          Nat.mul_le_mul_right _ Nat.lt_log2_self.le
      _ ≤ numerator * 2 ^ (denominator.log2 + 1) := by
          rw [Nat.mul_comm]
          exact Nat.mul_le_mul_right _ (Nat.log2_self_le nonzero.ne')
  unfold gridExponent
  rw [if_neg nonzero.ne']
  dsimp only
  generalize chosen : (numerator.log2 : ℤ) - denominator.log2 - 52 = guess
  have reaches : (if 0 ≤ guess then denominator * 2 ^ (guess.toNat + 52) ≤ numerator
      else denominator * 2 ^ 52 ≤ numerator * 2 ^ (-guess).toNat) ↔
        guess + 52 ≤ Int.log 2 ((numerator : ℚ) / denominator) := by
    rw [← Int.zpow_le_iff_le_log one_lt_two fraction]
    split
    · have sum : guess + 52 = ((guess.toNat + 52 : Nat) : ℤ) - ((0 : Nat) : ℤ) := by omega
      rw [sum]
      refine Iff.trans ?_ (two_zpow_le_div_iff _ _ positive).symm
      rw [Nat.pow_zero, Nat.mul_one]
    · have sum : guess + 52 = ((52 : Nat) : ℤ) - ((-guess).toNat : ℤ) := by omega
      rw [sum]
      exact (two_zpow_le_div_iff _ _ positive).symm
  simp only [reaches]
  split <;> omega

/-! ## Rounding on a grid -/

def significandOn (grid : ℤ) (numerator denominator : Nat) : Nat :=
  divideToEven (numerator * 2 ^ (-grid).toNat) (denominator * 2 ^ grid.toNat)

/-- Units of the grid compared with a fraction, without dividing. -/
theorem units_le_div_iff (units : Nat) (grid : ℤ) (positive : 0 < denominator) :
    (units : ℚ) * 2 ^ grid ≤ (numerator : ℚ) / denominator ↔
      units * (denominator * 2 ^ grid.toNat) ≤ numerator * 2 ^ (-grid).toNat := by
  have divides : (0 : ℚ) < denominator := by exact_mod_cast positive
  rw [two_zpow_eq_div, ← mul_div_assoc, div_le_div_iff₀ (by positivity) divides, mul_assoc,
    mul_comm ((2 : ℚ) ^ grid.toNat)]
  exact_mod_cast Iff.rfl

/-- Half units of the grid compared with a fraction. -/
theorem half_units_le_div_iff (bound : Nat) (grid : ℤ) (positive : 0 < denominator) :
    (2 * bound + 1) * 2 ^ grid ≤ 2 * ((numerator : ℚ) / denominator) ↔
      (2 * bound + 1) * (denominator * 2 ^ grid.toNat) ≤ 2 * (numerator * 2 ^ (-grid).toNat) := by
  have doubled := @units_le_div_iff (2 * numerator) denominator (2 * bound + 1) grid positive
  rw [Nat.mul_assoc] at doubled
  rw [← doubled, ← mul_div_assoc]
  push_cast
  exact Iff.rfl

theorem significandOn_le {grid : ℤ} {bound : Nat} (positive : 0 < denominator)
    (small : 2 * ((numerator : ℚ) / denominator) < (2 * bound + 1) * 2 ^ grid) :
    significandOn grid numerator denominator ≤ bound := by
  rw [← not_le, half_units_le_div_iff bound grid positive, Nat.not_le] at small
  exact divideToEven_le small

theorem le_significandOn {grid : ℤ} {bound : Nat} (positive : 0 < denominator)
    (large : bound * 2 ^ grid ≤ (numerator : ℚ) / denominator) :
    bound ≤ significandOn grid numerator denominator :=
  le_divideToEven ((units_le_div_iff bound grid positive).mp large)
    (Nat.mul_pos positive (Nat.two_pow_pos _))

theorem lt_significandOn {grid : ℤ} {bound : Nat} (odd : bound % 2 = 1) (positive : 0 < denominator)
    (large : (2 * bound + 1) * 2 ^ grid ≤ 2 * ((numerator : ℚ) / denominator)) :
    bound < significandOn grid numerator denominator :=
  lt_divideToEven odd ((half_units_le_div_iff bound grid positive).mp large)
    (Nat.mul_pos positive (Nat.two_pow_pos _))

/-- A significand of at most 53 bits is kept, or carried into the next exponent. -/
theorem ofFraction_of_significandOn {grid : ℤ} {significand : Nat} (negative : Bool)
    (isGrid : gridExponent numerator denominator = grid)
    (rounds : significandOn grid numerator denominator = significand)
    (width : significand ≤ 2 ^ 53) (leading : 2 ^ 52 ≤ significand ∨ grid = -1074)
    (lowest : -1074 ≤ grid) (highest : grid ≤ 971) (carries : significand = 2 ^ 53 → grid < 971) :
    ∃ magnitude, ofFraction negative numerator denominator = .finite negative magnitude ∧
      magnitude.value = significand * 2 ^ grid := by
  subst isGrid
  unfold significandOn at rounds
  unfold ofFraction
  dsimp only
  rw [rounds]
  by_cases carried : significand = 2 ^ 53
  · have room := carries carried
    have canonical : Canonical (2 ^ 52) (gridExponent numerator denominator + 1) :=
      ⟨by decide, by omega, by omega, .inl (Nat.le_refl _)⟩
    rw [if_pos carried, dif_pos canonical]
    refine ⟨_, rfl, ?_⟩
    rw [Magnitude.value, carried, zpow_add_one₀ two_ne_zero]
    push_cast
    ring
  · have canonical : Canonical significand (gridExponent numerator denominator) :=
      ⟨Nat.lt_of_le_of_ne width carried, lowest, highest, leading⟩
    rw [if_neg carried, dif_pos canonical]
    exact ⟨_, rfl, rfl⟩

/-! ## Rounding within the range -/

/-- The end of the range: halfway from the greatest finite number to the next power of two. -/
def limit : ℚ :=
  (2 ^ 54 - 1) * 2 ^ (970 : ℤ)

theorem limit_lt : limit < 2 ^ (1024 : ℤ) :=
  calc limit < 2 ^ (54 : ℤ) * 2 ^ (970 : ℤ) :=
        mul_lt_mul_of_pos_right (by norm_num) (zpow_pos two_pos _)
    _ = 2 ^ (1024 : ℤ) := (zpow_add₀ two_ne_zero 54 970).symm

theorem le_limit : 2 ^ (1023 : ℤ) ≤ limit :=
  calc (2 : ℚ) ^ (1023 : ℤ) = 2 ^ (53 : ℤ) * 2 ^ (970 : ℤ) := zpow_add₀ two_ne_zero 53 970
    _ ≤ limit := mul_le_mul_of_nonneg_right (by norm_num) (zpow_pos two_pos _).le

theorem limit_pos : 0 < limit :=
  (zpow_pos two_pos _).trans_le le_limit

theorem two_mul_limit : 2 * limit = (2 * ((2 ^ 53 - 1 : Nat) : ℚ) + 1) * 2 ^ (971 : ℤ) := by
  rw [limit, show (971 : ℤ) = 970 + 1 from rfl, zpow_add_one₀ two_ne_zero]
  generalize (2 : ℚ) ^ (970 : ℤ) = unit
  norm_num
  ring

theorem ofFraction_eq_finite (negative : Bool) (nonzero : 0 < numerator)
    (positive : 0 < denominator) (range : (numerator : ℚ) / denominator < limit) :
    ∃ magnitude, ofFraction negative numerator denominator = .finite negative magnitude ∧
      (1 ≤ (numerator : ℚ) / denominator → 1 ≤ magnitude.value) := by
  have fraction : 0 < (numerator : ℚ) / denominator := by positivity
  have isGrid := gridExponent_eq_log nonzero positive
  have low := Int.zpow_log_le_self one_lt_two fraction
  have high := Int.lt_zpow_succ_log_self one_lt_two ((numerator : ℚ) / denominator)
  rw [Nat.cast_ofNat] at low high
  generalize place : Int.log 2 ((numerator : ℚ) / denominator) = log at isGrid low high
  generalize chosen : max (-1074) (log - 52) = grid at isGrid
  have logSmall : log < 1024 := by
    rw [← place, ← Int.lt_zpow_iff_log_lt one_lt_two fraction]
    exact range.trans limit_lt
  have width : significandOn grid numerator denominator ≤ 2 ^ 53 := by
    refine significandOn_le positive ?_
    have unit : (0 : ℚ) < 2 ^ grid := zpow_pos two_pos _
    have reach : (2 : ℚ) ^ (log + 1) ≤ 2 ^ (53 : ℤ) * 2 ^ grid := by
      rw [← zpow_add₀ two_ne_zero]
      exact zpow_le_zpow_right₀ one_le_two (by omega)
    norm_num at reach ⊢
    linarith
  -- Only on the lowest grid the significand may be short.
  have leads (normal : grid = log - 52) :
      2 ^ 52 ≤ significandOn grid numerator denominator := by
    refine le_significandOn positive (le_trans ?_ low)
    rw [Nat.cast_pow, Nat.cast_ofNat, ← zpow_natCast, ← zpow_add₀ two_ne_zero]
    exact zpow_le_zpow_right₀ one_le_two (by omega)
  have carries (carried : significandOn grid numerator denominator = 2 ^ 53) : grid < 971 := by
    by_contra highest
    have last : grid = 971 := by omega
    have small : significandOn grid numerator denominator ≤ 2 ^ 53 - 1 := by
      refine significandOn_le positive ?_
      rw [last, ← two_mul_limit]
      linarith
    omega
  have ⟨magnitude, same, value⟩ := ofFraction_of_significandOn negative isGrid rfl width
    (by omega) (by omega) (by omega) carries
  refine ⟨magnitude, same, fun large => ?_⟩
  have atLeastOne : 0 ≤ log := by
    rw [← place, ← Int.zpow_le_iff_le_log one_lt_two fraction]
    exact large
  have leading : (2 ^ 52 : ℚ) ≤ significandOn grid numerator denominator := by
    exact_mod_cast leads (by omega)
  calc (1 : ℚ) = 2 ^ 52 * 2 ^ (-52 : ℤ) := by norm_num
    _ ≤ significandOn grid numerator denominator * 2 ^ grid :=
        mul_le_mul leading (zpow_le_zpow_right₀ one_le_two (by omega)) (by positivity)
          (by positivity)
    _ = magnitude.value := value.symm

/-- What reaches the end of the range has a significand that is too long for the highest grid, or a
grid that is higher still. -/
theorem ofFraction_eq_infinite (negative : Bool) (positive : 0 < denominator)
    (beyond : limit ≤ (numerator : ℚ) / denominator) :
    ofFraction negative numerator denominator = .infinite negative := by
  have reach : (2 : ℚ) ^ (1023 : ℤ) ≤ (numerator : ℚ) / denominator := le_limit.trans beyond
  have fraction : 0 < (numerator : ℚ) / denominator := (zpow_pos two_pos _).trans_le reach
  have nonzero : 0 < numerator := by
    rcases Nat.eq_zero_or_pos numerator with rfl | nonzero
    · simp at fraction
    · exact nonzero
  have leading : 1023 ≤ Int.log 2 ((numerator : ℚ) / denominator) := by
    rw [← Int.zpow_le_iff_le_log one_lt_two fraction]
    exact reach
  have isGrid := gridExponent_eq_log nonzero positive
  have long (highest : gridExponent numerator denominator = 971) :
      2 ^ 53 - 1 < significandOn (gridExponent numerator denominator) numerator denominator := by
    refine lt_significandOn (by decide) positive ?_
    rw [highest, ← two_mul_limit]
    linarith
  unfold significandOn at long
  unfold ofFraction
  dsimp only
  refine dif_neg fun canonical => ?_
  split at canonical
  · next carried =>
      have highest : gridExponent numerator denominator + 1 ≤ 971 := canonical.highest
      omega
  · next whole =>
      have width := canonical.width
      have highest := canonical.highest
      dsimp only at width highest
      have tooLong := long (by omega)
      omega

theorem ofFraction_isFinite (negative : Bool) (positive : 0 < denominator)
    (range : (numerator : ℚ) / denominator < limit) :
    (ofFraction negative numerator denominator).isFinite = true := by
  rcases Nat.eq_zero_or_pos numerator with rfl | nonzero
  · have grid : gridExponent 0 denominator = -1074 := rfl
    have units : significandOn (-1074) 0 denominator ≤ 0 := significandOn_le positive (by simp)
    have ⟨_, same, _⟩ := ofFraction_of_significandOn negative grid rfl
      (units.trans (Nat.zero_le _)) (.inr rfl) (by decide) (by decide) (fun _ => by decide)
    rw [same]
    rfl
  · have ⟨_, same, _⟩ := ofFraction_eq_finite negative nonzero positive range
    rw [same]
    rfl

theorem ofFraction_isFinite_iff (negative : Bool) (positive : 0 < denominator) :
    (ofFraction negative numerator denominator).isFinite = true ↔
      (numerator : ℚ) / denominator < limit := by
  constructor
  · intro finite
    by_contra beyond
    rw [ofFraction_eq_infinite negative positive (not_lt.mp beyond)] at finite
    cases finite
  · exact ofFraction_isFinite negative positive

/-! ## Whole numbers, powers of ten, products and quotients -/

/-- The exponents are variables here because nothing should compute these powers but the kernel. -/
theorem ten_pow_lt {exponent place : Nat} (whole : 10 ^ exponent < (2 ^ 54 - 1) * 2 ^ place) :
    (10 : ℚ) ^ exponent < (2 ^ 54 - 1) * 2 ^ (place : ℤ) := by
  have cast : ((10 ^ exponent : Nat) : ℚ) < (((2 ^ 54 - 1) * 2 ^ place : Nat) : ℚ) :=
    Nat.cast_lt.mpr whole
  rw [zpow_natCast]
  norm_num at cast ⊢
  exact cast

theorem ten_pow_lt_limit {exponent : Nat} (small : exponent ≤ 308) :
    (10 : ℚ) ^ exponent < limit :=
  (pow_le_pow_right₀ (by norm_num) small).trans_lt (ten_pow_lt (by decide +kernel))

theorem isZero_of_one_le {magnitude : Magnitude} (large : 1 ≤ magnitude.value) :
    magnitude.isZero = false := by
  have nonzero : magnitude.significand ≠ 0 := by
    intro zero
    norm_num [Magnitude.value, zero] at large
  simpa [Magnitude.isZero] using nonzero

theorem exists_ofNat {value : Nat} (small : value < 2 ^ 64) :
    ∃ magnitude, ofNat value = .finite false magnitude ∧
      (magnitude.isZero = true ↔ value = 0) := by
  rcases Nat.eq_zero_or_pos value with rfl | nonzero
  · exact ⟨.zero, by decide +kernel, by decide⟩
  · have bound : (value : ℚ) ≤ 10 ^ 20 := by exact_mod_cast small.le.trans (by norm_num)
    have fraction : (value : ℚ) / (1 : Nat) = value := by rw [Nat.cast_one, div_one]
    have ⟨magnitude, same, stays⟩ := ofFraction_eq_finite false nonzero Nat.one_pos
      (fraction.trans_lt (bound.trans_lt (ten_pow_lt_limit (by decide))))
    have large : (1 : ℚ) ≤ value := by exact_mod_cast nonzero
    refine ⟨magnitude, same, ?_⟩
    simp [isZero_of_one_le (stays (large.trans_eq fraction.symm)), nonzero.ne']

theorem ofDecimal_powerOfTen {exponent : Nat} (small : exponent ≤ 308) :
    ∃ magnitude, ofDecimal false 1 exponent = .finite false magnitude ∧ 1 ≤ magnitude.value := by
  have one : (Nat.toDigits 10 1).length = 1 := rfl
  have unsigned : (-(exponent : ℤ)).toNat = 0 := by omega
  have large : (1 : ℚ) ≤ 10 ^ exponent := one_le_pow₀ (by norm_num)
  have fraction : ((1 * 10 ^ exponent : Nat) : ℚ) / ((10 ^ 0 : Nat) : ℚ) = 10 ^ exponent := by
    simp
  unfold ofDecimal
  dsimp only
  rw [one, if_neg Nat.one_ne_zero, if_neg (by omega), if_neg (by omega), Int.toNat_natCast,
    unsigned]
  have ⟨magnitude, same, stays⟩ := ofFraction_eq_finite false
    (Nat.mul_pos Nat.one_pos (Nat.pow_pos (by decide))) (Nat.pow_pos (by decide))
    (fraction.trans_lt (ten_pow_lt_limit small))
  exact ⟨magnitude, same, stays (large.trans_eq fraction.symm)⟩

theorem value_lt_limit (magnitude : Magnitude) : magnitude.value < limit := by
  have significand : (magnitude.significand : ℚ) ≤ 2 ^ 53 - 1 := by
    have width := magnitude.canonical.width
    have below : ((magnitude.significand + 1 : Nat) : ℚ) ≤ ((2 ^ 53 : Nat) : ℚ) :=
      Nat.cast_le.mpr width
    push_cast at below
    linarith
  have exponent : (2 : ℚ) ^ magnitude.exponent ≤ 2 ^ (970 : ℤ) * 2 := by
    rw [← zpow_add_one₀ two_ne_zero]
    exact zpow_le_zpow_right₀ one_le_two magnitude.canonical.highest
  have unit : (0 : ℚ) < 2 ^ (970 : ℤ) := zpow_pos two_pos _
  calc magnitude.value ≤ (2 ^ 53 - 1) * (2 ^ (970 : ℤ) * 2) :=
        mul_le_mul significand exponent (zpow_pos two_pos _).le (by norm_num)
    _ = (2 ^ 54 - 2) * 2 ^ (970 : ℤ) := by ring
    _ < limit := mul_lt_mul_of_pos_right (by norm_num) unit

theorem multiply_isFinite_iff (left right : Bool) (a b : Magnitude) :
    ((Number.finite left a).multiply (.finite right b)).isFinite = true ↔
      a.value * b.value < limit := by
  have product : ((a.numerator * b.numerator : Nat) : ℚ) /
      ((a.denominator * b.denominator : Nat) : ℚ) = a.value * b.value := by
    rw [a.value_eq_div, b.value_eq_div, div_mul_div_comm]
    push_cast
    rfl
  have positive := Nat.mul_pos a.denominator_pos b.denominator_pos
  rw [multiply, ofFraction_isFinite_iff _ positive, product]

theorem divide_isFinite {value : Number} {power : Magnitude} (finite : value.isFinite = true)
    (large : 1 ≤ power.value) : (value.divide (.finite false power)).isFinite = true := by
  cases value with
  | nan => cases finite
  | infinite => cases finite
  | finite negative magnitude =>
      have nonzero := isZero_of_one_le large
      have divides : power.significand ≠ 0 := by simpa [Magnitude.isZero] using nonzero
      have numerator : 0 < power.numerator :=
        Nat.mul_pos (Nat.pos_of_ne_zero divides) (Nat.two_pow_pos _)
      rw [divide, nonzero]
      refine ofFraction_isFinite _ (Nat.mul_pos magnitude.denominator_pos numerator) ?_
      calc ((magnitude.numerator * power.denominator : Nat) : ℚ) /
              ((magnitude.denominator * power.numerator : Nat) : ℚ)
          = magnitude.value / power.value := by
            rw [magnitude.value_eq_div, power.value_eq_div, div_div_div_eq]
            push_cast
            rfl
        _ ≤ magnitude.value := div_le_self magnitude.value_nonneg large
        _ < limit := value_lt_limit magnitude

end Number

end SheetPost
