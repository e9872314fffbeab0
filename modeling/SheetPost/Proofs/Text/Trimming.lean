import Mathlib.Data.List.DropRight
import SheetPost.Text.Blank

namespace SheetPost

theorem trimmed_trimmed (characters : List Char) :
    trimmed (trimmed characters) = trimmed characters := by
  have both (list : List Char) :
      trimmed list = (list.dropWhile isBlank).rdropWhile isBlank := rfl
  rw [both, both]
  generalize rest : characters.dropWhile isBlank = visible
  have front : (visible.rdropWhile isBlank).dropWhile isBlank = visible.rdropWhile isBlank := by
    rw [List.dropWhile_eq_self_iff]
    intro some
    have initial : visible.rdropWhile isBlank <+: visible :=
      List.rdropWhile_prefix isBlank visible
    rw [initial.getElem some]
    have stops := List.dropWhile_get_zero_not isBlank characters
    subst rest
    exact stops _
  rw [front, List.rdropWhile_idempotent]

theorem trim_trim (text : String) : trim (trim text) = trim text := by
  rw [trim, trim_toList, trimmed_trimmed, trim]

/-! ## Texts that can be seen -/

theorem blank_eq_false_iff {text : String} :
    blank text = false ↔ ∃ character ∈ text.toList, isBlank character = false := by
  simp [blank]

theorem blank_eq_false_iff_trim {text : String} : blank text = false ↔ trim text ≠ "" := by
  rw [← Bool.not_eq_true, blank_iff_trim]

theorem dropWhile_blank {characters : List Char}
    (visible : ∀ character ∈ characters, isBlank character = false) :
    characters.dropWhile isBlank = characters := by
  cases characters with
  | nil => rfl
  | cons head tail => simp [visible head]

theorem trimmed_of_visible {characters : List Char}
    (visible : ∀ character ∈ characters, isBlank character = false) :
    trimmed characters = characters := by
  have reversed : ∀ character ∈ characters.reverse, isBlank character = false := by
    simpa using visible
  rw [trimmed, dropWhile_blank visible, dropWhile_blank reversed, List.reverse_reverse]

end SheetPost
