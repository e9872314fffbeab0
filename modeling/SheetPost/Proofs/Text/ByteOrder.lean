import Mathlib.Data.List.Lex
import Mathlib.Data.String.Basic
import Mathlib.Order.Monotone.Basic
import SheetPost.Number.Basic

namespace SheetPost

def bytes (text : String) : List UInt8 :=
  text.toUTF8.data.toList

theorem bytes_eq (text : String) : bytes text = text.toList.flatMap String.utf8EncodeChar := by
  conv => lhs; rw [← text.ofList_toList]
  rw [bytes, String.toUTF8_eq_toByteArray, String.toByteArray_ofList, List.utf8Encode]
  simp

/-! ## Where two lists of bytes part -/

/-- Both lists have bytes where they part, the first one the smaller. -/
inductive PartsBelow : List UInt8 → List UInt8 → Prop
  | here {low high : UInt8} (less : low < high) (lowRest highRest : List UInt8) :
      PartsBelow (low :: lowRest) (high :: highRest)
  | later (byte : UInt8) {low high : List UInt8} (parts : PartsBelow low high) :
      PartsBelow (byte :: low) (byte :: high)

namespace PartsBelow

theorem lt {low high : List UInt8} (parts : PartsBelow low high) : low < high := by
  induction parts with
  | here less lowRest highRest => exact List.Lex.rel less
  | later byte _ induction => exact List.Lex.cons induction

theorem append {low high : List UInt8} (parts : PartsBelow low high)
    (lowRest highRest : List UInt8) : PartsBelow (low ++ lowRest) (high ++ highRest) := by
  induction parts with
  | here less _ _ => exact .here less _ _
  | later byte _ induction => exact .later byte induction

theorem prepend (front : List UInt8) {low high : List UInt8} (parts : PartsBelow low high) :
    PartsBelow (front ++ low) (front ++ high) := by
  induction front with
  | nil => exact parts
  | cons byte _ induction => exact .later byte induction

end PartsBelow

theorem ofNat_lt_ofNat {low high : Nat} (less : low < high) (small : high < 256) :
    UInt8.ofNat low < UInt8.ofNat high := by
  rw [UInt8.lt_iff_toNat_lt, UInt8.toNat_ofNat_of_lt' (less.trans small),
    UInt8.toNat_ofNat_of_lt' small]
  exact less

/-! ## Characters -/

theorem toNat_valid (character : Char) :
    character.toNat < 0xD800 ∨ 0xDFFF < character.toNat ∧ character.toNat < 0x110000 :=
  character.valid

def spread (tag : Nat) : (count : Nat) → (value : Nat) → List UInt8
  | 0, value => [UInt8.ofNat (tag + value)]
  | count + 1, value => spread tag count (value / 64) ++ [UInt8.ofNat (value % 64 + 128)]

theorem spread_eq_cons (tag count value : Nat) :
    ∃ rest, spread tag count value = UInt8.ofNat (tag + value / 64 ^ count) :: rest := by
  induction count generalizing value with
  | zero => exact ⟨[], by simp [spread]⟩
  | succ count induction =>
      have ⟨rest, same⟩ := induction (value / 64)
      refine ⟨rest ++ [UInt8.ofNat (value % 64 + 128)], ?_⟩
      rw [spread, same, Nat.div_div_eq_div_mul, ← Nat.pow_succ', List.cons_append]

theorem spread_partsBelow {tag count low high : Nat} (less : low < high)
    (small : tag + high / 64 ^ count < 256) :
    PartsBelow (spread tag count low) (spread tag count high) := by
  induction count generalizing low high with
  | zero =>
      have leads : tag + high < 256 := by simpa using small
      exact .here (ofNat_lt_ofNat (by omega) leads) _ _
  | succ count induction =>
      rw [Nat.pow_succ', ← Nat.div_div_eq_div_mul] at small
      by_cases groups : low / 64 < high / 64
      · exact (induction groups small).append _ _
      · have same : low / 64 = high / 64 := by omega
        rw [spread, spread, same]
        exact .prepend _ (.here (ofNat_lt_ofNat (by omega) (by omega)) _ _)

def furtherBytes (value : Nat) : Nat :=
  if value ≤ 127 then 0 else if value ≤ 2047 then 1 else if value ≤ 65535 then 2 else 3

def tagOf : (further : Nat) → Nat
  | 0 => 0
  | 1 => 192
  | 2 => 224
  | 3 => 240
  | _ => 256

theorem tagOf_monotone : Monotone tagOf := by
  refine monotone_nat_of_le_succ fun further => ?_
  match further with
  | 0 | 1 | 2 | 3 => decide
  | further + 4 => exact Nat.le_refl _

theorem furtherBytes_mono {low high : Nat} (less : low < high) :
    furtherBytes low ≤ furtherBytes high := by
  unfold furtherBytes
  grind

theorem utf8EncodeChar_eq_spread (character : Char) :
    String.utf8EncodeChar character =
      spread (tagOf (furtherBytes character.toNat)) (furtherBytes character.toNat)
        character.toNat := by
  have valid := toNat_valid character
  have same : character.val.toNat = character.toNat := rfl
  unfold String.utf8EncodeChar furtherBytes
  rw [same]
  dsimp only
  split
  · simp [spread, tagOf]
  split
  · have lead : character.toNat / 64 % 32 + 192 = 192 + character.toNat / 64 := by omega
    simp [spread, tagOf, lead]
  split
  · have lead : character.toNat / 4096 % 16 + 224 = 224 + character.toNat / 64 / 64 := by omega
    simp [spread, tagOf, lead]
  · have lead : character.toNat / 262144 % 8 + 240 = 240 + character.toNat / 64 / 64 / 64 := by
      omega
    have second : character.toNat / 4096 = character.toNat / 64 / 64 := by omega
    simp [spread, tagOf, lead, second]

def leadOf (value : Nat) : Nat :=
  tagOf (furtherBytes value) + value / 64 ^ furtherBytes value

theorem leadOf_bounds (character : Char) :
    tagOf (furtherBytes character.toNat) ≤ leadOf character.toNat ∧
      leadOf character.toNat < tagOf (furtherBytes character.toNat + 1) ∧
      leadOf character.toNat < 256 := by
  have valid := toNat_valid character
  unfold leadOf furtherBytes
  split
  · simp only [tagOf]
    omega
  split
  · simp only [tagOf]
    omega
  split
  · simp only [tagOf]
    omega
  · simp only [tagOf]
    omega

theorem utf8EncodeChar_partsBelow {low high : Char} (less : low < high) :
    PartsBelow (String.utf8EncodeChar low) (String.utf8EncodeChar high) := by
  have codes : low.toNat < high.toNat := less
  have ⟨_, lowLead, _⟩ := leadOf_bounds low
  have ⟨highLead, _, isByte⟩ := leadOf_bounds high
  rw [utf8EncodeChar_eq_spread, utf8EncodeChar_eq_spread]
  rcases Nat.lt_or_eq_of_le (furtherBytes_mono codes) with shorter | same
  · have leads : leadOf low.toNat < leadOf high.toNat :=
      lowLead.trans_le ((tagOf_monotone shorter).trans highLead)
    have ⟨lowRest, lowSame⟩ := spread_eq_cons (tagOf (furtherBytes low.toNat))
      (furtherBytes low.toNat) low.toNat
    have ⟨highRest, highSame⟩ := spread_eq_cons (tagOf (furtherBytes high.toNat))
      (furtherBytes high.toNat) high.toNat
    rw [lowSame, highSame]
    exact .here (ofNat_lt_ofNat leads isByte) _ _
  · rw [same]
    exact spread_partsBelow codes isByte

/-! ## Texts -/

theorem flatMap_utf8EncodeChar_lt {low high : List Char} (less : low < high) :
    low.flatMap String.utf8EncodeChar < high.flatMap String.utf8EncodeChar := by
  induction less with
  | @nil character characters =>
      have ⟨rest, same⟩ := spread_eq_cons (tagOf (furtherBytes character.toNat))
        (furtherBytes character.toNat) character.toNat
      rw [List.flatMap_nil, List.flatMap_cons, utf8EncodeChar_eq_spread, same, List.cons_append]
      exact List.nil_lt_cons _ _
  | rel less =>
      rw [List.flatMap_cons, List.flatMap_cons]
      exact ((utf8EncodeChar_partsBelow less).append _ _).lt
  | cons _ induction =>
      rw [List.flatMap_cons, List.flatMap_cons]
      exact List.Lex.append_left _ induction _

/-- One text comes before another exactly if its bytes do. -/
theorem bytes_lt_iff {first second : String} : bytes first < bytes second ↔ first < second := by
  have forward {first second : String} (less : first < second) : bytes first < bytes second := by
    rw [bytes_eq, bytes_eq]
    exact flatMap_utf8EncodeChar_lt (String.lt_iff_toList_lt.mp less)
  refine ⟨fun less => ?_, forward⟩
  rcases lt_trichotomy first second with before | rfl | behind
  · exact before
  · exact absurd less (List.lt_irrefl _)
  · exact absurd less (List.lt_asymm (forward behind))

end SheetPost
