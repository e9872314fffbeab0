import SheetPost.Json.Value
import SheetPost.Proofs.Text.Numeral
import SheetPost.Proofs.Text.Trimming

namespace SheetPost

theorem exists_digit_of_numeral (value : Nat) :
    ∃ character ∈ numeral value, isBlank character = false := by
  have ⟨digit, member⟩ := List.exists_mem_of_ne_nil _ (numeral_ne_nil value)
  exact ⟨digit, member, isBlank_of_isDigit (isDigit_of_mem_numeral member)⟩

/-! ## Numbers in cells -/

theorem visible_positional (value : Nat) (exponent : Int) :
    ∃ character ∈ positional (numeral value) exponent, isBlank character = false := by
  unfold positional
  split
  · have ⟨digit, member, visible⟩ := exists_digit_of_numeral value
    exact ⟨digit, List.mem_append_left _ member, visible⟩
  · exact ⟨'.', by simp, by decide⟩

theorem blank_integerText (value : Int) : blank (integerText value) = false := by
  have ⟨digit, member, visible⟩ := exists_digit_of_numeral value.natAbs
  refine blank_eq_false_iff.mpr ⟨digit, ?_, visible⟩
  unfold integerText
  split <;> simp [member]

namespace Number

theorem toList_plainText (negative : Bool) (magnitude : Magnitude) :
    (finite negative magnitude).plainText.toList = (if negative then ['-'] else []) ++
      positional (numeral (magnitude.shortest .up).1) (magnitude.shortest .up).2 := by
  rw [plainText, String.toList_ofList]
  cases negative <;> rfl

theorem blank_plainText (number : Number) : blank number.plainText = false := by
  cases number with
  | nan => decide
  | infinite negative => cases negative <;> decide
  | finite negative magnitude =>
      have ⟨character, member, visible⟩ :=
        visible_positional (magnitude.shortest .up).1 (magnitude.shortest .up).2
      refine blank_eq_false_iff.mpr ⟨character, ?_, visible⟩
      rw [toList_plainText]
      exact List.mem_append_right _ member

theorem blank_cellText (number : Number) : blank number.cellText = false := by
  unfold cellText
  split
  · split
    · exact blank_integerText _
    · exact blank_plainText _
  · exact blank_plainText _

end Number

/-! ## Numbers in messages -/

theorem n_notMem_numeral (value : Nat) : 'n' ∉ numeral value := by
  intro member
  cases isDigit_of_mem_numeral member

theorem n_notMem_positional {digits : List Char} (plain : 'n' ∉ digits) (exponent : Int) :
    'n' ∉ positional digits exponent := by
  unfold positional
  split
  · simp [plain]
  · have padded : 'n' ∉ List.replicate ((-exponent).toNat + 1 - digits.length) '0' ++ digits := by
      simp [plain]
    intro member
    simp only [List.mem_append, List.mem_cons] at member
    rcases member with whole | point | fraction
    · exact padded (List.mem_of_mem_take whole)
    · cases point
    · exact padded (List.mem_of_mem_drop fraction)

theorem n_notMem_scientific {digits : List Char} (plain : 'n' ∉ digits) (exponent : Int) :
    'n' ∉ scientific digits exponent := by
  have first : 'n' ∉ digits.take 1 := fun member => plain (List.mem_of_mem_take member)
  have later : 'n' ∉ digits.drop 1 := fun member => plain (List.mem_of_mem_drop member)
  have power := n_notMem_numeral (exponent + digits.length - 1).natAbs
  unfold scientific
  simp only [List.mem_append, List.mem_cons, first, power, false_or, or_false, not_or]
  refine ⟨?_, by decide, ?_⟩
  · split
    · exact List.not_mem_nil
    · exact List.not_mem_cons_of_ne_of_not_mem (by decide) later
  · split <;> decide

theorem n_notMem_messageText (negative : Bool) (magnitude : Magnitude) :
    'n' ∉ (Number.messageText negative magnitude).toList := by
  have plain := n_notMem_numeral (magnitude.shortest .toEven).1
  have written := n_notMem_positional plain (magnitude.shortest .toEven).2
  have signed : ∀ laidOut : List Char, 'n' ∉ laidOut →
      'n' ∉ if negative then '-' :: laidOut else laidOut := by
    intro laidOut none
    split
    · exact List.not_mem_cons_of_ne_of_not_mem (by decide) none
    · exact none
  unfold Number.messageText
  simp only [String.toList_ofList]
  split
  · exact signed _ (by decide)
  · split
    · apply signed
      split <;> simp [written]
    · exact signed _ (n_notMem_scientific plain _)

theorem Json.numberText_ne_null {number : Number} (finite : number.isFinite = true) :
    Json.numberText number ≠ "null" := by
  cases number with
  | finite negative magnitude =>
      intro null
      apply n_notMem_messageText negative magnitude
      rw [show Number.messageText negative magnitude = "null" from null]
      decide
  | _ => cases finite

end SheetPost
