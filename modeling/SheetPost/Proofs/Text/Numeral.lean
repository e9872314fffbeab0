import SheetPost.Text.Blank
import SheetPost.Text.Digit

namespace SheetPost

/-! ## Digits -/

theorem isBlank_of_isDigit {character : Char} (digit : isDigit character = true) :
    isBlank character = false := by
  simp only [isDigit, Bool.and_eq_true, decide_eq_true_eq, Char.le_def, UInt32.le_iff_toNat_le]
    at digit
  have low : 48 ≤ character.toNat := digit.1
  have high : character.toNat ≤ 57 := digit.2
  simp only [isBlank, blankRanges, List.any_cons, List.any_nil, Bool.or_false,
    Bool.or_eq_false_iff, Bool.and_eq_false_iff, decide_eq_false_iff_not]
  omega

/-! ## Numerals -/

theorem isDigit_of_mem_numeral {value : Nat} {character : Char}
    (member : character ∈ numeral value) : isDigit character = true :=
  Nat.isDigit_of_mem_toDigits (by decide) (by decide) member

theorem numeral_ne_nil (value : Nat) : numeral value ≠ [] :=
  Nat.toDigits_ne_nil

theorem length_numeral_le_iff {value width : Nat} (positive : 0 < width) :
    (numeral value).length ≤ width ↔ value < 10 ^ width :=
  Nat.length_toDigits_le_iff (by decide) positive

theorem numeralValue_eq_ofDigitChars {digits : List Char}
    (all : ∀ digit ∈ digits, isDigit digit = true) :
    numeralValue digits = Nat.ofDigitChars 10 digits 0 := by
  rw [Nat.ofDigitChars_eq_foldl, numeralValue]
  generalize 0 = start
  induction digits generalizing start with
  | nil => rfl
  | cons digit digits induction =>
      rw [List.forall_mem_cons] at all
      have value : digitValue digit = digit.toNat - '0'.toNat := by simp [digitValue, all.1]
      rw [List.foldl_cons, List.foldl_cons, value, Nat.mul_comm start]
      exact induction all.2 _

theorem numeralValue_numeral (value : Nat) : numeralValue (numeral value) = value := by
  rw [numeralValue_eq_ofDigitChars fun _ => isDigit_of_mem_numeral]
  exact Nat.ofDigitChars_ten_toDigits

/-! ## Padding -/

theorem numeralValue_zeros (count : Nat) (digits : List Char) :
    numeralValue (List.replicate count '0' ++ digits) = numeralValue digits := by
  have zeros : numeralValue (List.replicate count '0') = 0 := by
    induction count with
    | zero => rfl
    | succ count induction => exact induction
  rw [numeralValue, List.foldl_append]
  exact congrArg (fun start => List.foldl _ start digits) zeros

theorem isDigit_of_mem_paddedNumeral {width value : Nat} {character : Char}
    (member : character ∈ paddedNumeral width value) : isDigit character = true := by
  rcases List.mem_append.mp member with zero | digit
  · rw [List.eq_of_mem_replicate zero]
    rfl
  · exact isDigit_of_mem_numeral digit

theorem paddedNumeral_ne_nil (width value : Nat) : paddedNumeral width value ≠ [] := by
  simp [paddedNumeral, numeral_ne_nil]

theorem numeralValue_paddedNumeral (width value : Nat) :
    numeralValue (paddedNumeral width value) = value := by
  rw [paddedNumeral, numeralValue_zeros, numeralValue_numeral]

theorem length_paddedNumeral (width value : Nat) :
    (paddedNumeral width value).length = max width (numeral value).length := by
  simp only [paddedNumeral, List.length_append, List.length_replicate]
  omega

theorem length_paddedNumeral_of_lt {width value : Nat} (positive : 0 < width)
    (fits : value < 10 ^ width) : (paddedNumeral width value).length = width := by
  have short := (length_numeral_le_iff positive).mpr fits
  rw [length_paddedNumeral]
  omega

/-! ## Numerals at the front of a text -/

def NoDigitAhead (characters : List Char) : Prop :=
  ∀ character ∈ characters.head?, isDigit character = false

theorem append_ne_cons {digits rest tail : List Char} {sign : Char} (filled : digits ≠ [])
    (all : ∀ digit ∈ digits, isDigit digit = true) (notDigit : isDigit sign = false) :
    digits ++ rest ≠ sign :: tail := by
  intro same
  have ⟨digit, digits, isCons⟩ := List.exists_cons_of_ne_nil filled
  subst isCons
  rw [List.cons_append, List.cons.injEq] at same
  have isDigit := all digit List.mem_cons_self
  rw [same.1, notDigit] at isDigit
  cases isDigit

theorem spanDigits_of_noDigitAhead {digits rest : List Char}
    (all : ∀ digit ∈ digits, isDigit digit = true) (ends : NoDigitAhead rest) :
    spanDigits (digits ++ rest) = (digits, rest) := by
  have none : rest.takeWhile isDigit = [] ∧ rest.dropWhile isDigit = rest := by
    cases rest with
    | nil => exact ⟨rfl, rfl⟩
    | cons head tail => simp [ends head rfl]
  simp [spanDigits, List.takeWhile_append_of_pos all, List.dropWhile_append_of_pos all, none]

end SheetPost
