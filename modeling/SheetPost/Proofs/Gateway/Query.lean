import SheetPost.Gateway.Operation
import SheetPost.Proofs.Text.ByteOrder

namespace SheetPost

namespace Query

def hexValue? (digit : Char) : Option Nat :=
  if '0' ≤ digit && digit ≤ '9' then some (digit.toNat - 48)
  else if 'A' ≤ digit && digit ≤ 'F' then some (digit.toNat - 55)
  else if 'a' ≤ digit && digit ≤ 'f' then some (digit.toNat - 87)
  else none

/-- The bytes that a value stands for. A percent sign without two digits behind it stands for
itself. -/
def valueBytes : List Char → List UInt8
  | [] => []
  | '%' :: high :: low :: rest =>
      match hexValue? high, hexValue? low with
      | some upper, some lower => UInt8.ofNat (16 * upper + lower) :: valueBytes rest
      | _, _ => String.utf8EncodeChar '%' ++ valueBytes (high :: low :: rest)
  | '+' :: rest => String.utf8EncodeChar ' ' ++ valueBytes rest
  | character :: rest => String.utf8EncodeChar character ++ valueBytes rest

def valueText? (value : List Char) : Option String :=
  String.fromUTF8? ⟨(valueBytes value).toArray⟩

def parameter (part : List Char) : String × Option String :=
  (String.ofList (part.takeWhile (· != '=')), valueText? ((part.dropWhile (· != '=')).drop 1))

def parameters (address : String) : List (String × Option String) :=
  (((address.toList.dropWhile (· != '?')).drop 1).splitOn '&').map parameter

example : parameters "/p?a=%2B1&b=x+y&c=%4" =
    [("a", some "+1"), ("b", some "x y"), ("c", some "%4")] := by decide +kernel

/-! ## Bytes -/

theorem hexValue?_hexDigit : ∀ value < 16, hexValue? (hexDigit value) = some value := by
  decide

theorem standsForItself_hexDigit : ∀ value < 16, standsForItself (hexDigit value) = true := by
  decide

theorem ne_of_standsForItself {character mark : Char} (stands : standsForItself character = true)
    (marks : standsForItself mark = false) : character ≠ mark := by
  rintro rfl
  rw [stands] at marks
  cases marks

theorem toNat_lt_of_standsForItself {character : Char} (stands : standsForItself character = true) :
    character.toNat < 128 := by
  simp only [standsForItself, Bool.or_eq_true, Bool.and_eq_true, decide_eq_true_eq, Char.le_def,
    UInt32.le_iff_toNat_le, List.contains_eq_mem, List.mem_cons, List.not_mem_nil, or_false]
    at stands
  have same : character.val.toNat = character.toNat := rfl
  rcases stands with ((upper | lower) | digit) | rfl | rfl | rfl | rfl
  · have : character.val.toNat ≤ 90 := upper.2
    omega
  · have : character.val.toNat ≤ 122 := lower.2
    omega
  · have : character.val.toNat ≤ 57 := digit.2
    omega
  all_goals decide

theorem utf8EncodeChar_of_lt {character : Char} (small : character.toNat < 128) :
    String.utf8EncodeChar character = [UInt8.ofNat character.toNat] := by
  have single : character.val.toNat ≤ 127 := Nat.le_of_lt_succ small
  unfold String.utf8EncodeChar
  dsimp only
  rw [if_pos single]
  rfl

theorem valueBytes_plain {character : Char} (noEscape : character ≠ '%') (noBlank : character ≠ '+')
    (rest : List Char) :
    valueBytes (character :: rest) = String.utf8EncodeChar character ++ valueBytes rest := by
  rw [valueBytes]
  · rintro high low tail rfl
    exact absurd rfl noEscape
  · exact noBlank

theorem valueBytes_queryByte (byte : UInt8) (rest : List Char) :
    valueBytes (queryByte byte ++ rest) = byte :: valueBytes rest := by
  have small : byte.toNat < 256 := byte.toNat_lt
  unfold queryByte
  dsimp only
  split
  · next stands =>
      have same : (Char.ofNat byte.toNat).toNat = byte.toNat := by
        rw [Char.ofNat, dif_pos (.inl (by omega))]
        rfl
      rw [List.singleton_append, valueBytes_plain (ne_of_standsForItself stands (by decide))
        (ne_of_standsForItself stands (by decide)),
        utf8EncodeChar_of_lt (toNat_lt_of_standsForItself stands), same, UInt8.ofNat_toNat]
      rfl
  · rw [List.cons_append, List.cons_append, List.cons_append, List.nil_append, valueBytes,
      hexValue?_hexDigit _ (by omega), hexValue?_hexDigit _ (by omega)]
    dsimp only
    rw [Nat.div_add_mod, UInt8.ofNat_toNat]

theorem valueBytes_flatMap (values : List UInt8) :
    valueBytes (values.flatMap queryByte) = values := by
  induction values with
  | nil => rfl
  | cons byte values induction => rw [List.flatMap_cons, valueBytes_queryByte, induction]

/-! ## Values -/

theorem toList_queryValue (text : String) :
    (queryValue text).toList = (bytes text).flatMap queryByte := by
  rw [queryValue, String.toList_ofList, bytes_eq]

theorem valueText?_queryValue (text : String) : valueText? (queryValue text).toList = some text := by
  rw [valueText?, toList_queryValue, valueBytes_flatMap, bytes, Array.toArray_toList]
  exact dif_pos text.isValidUTF8

theorem of_mem_queryByte {byte : UInt8} {character : Char} (member : character ∈ queryByte byte) :
    standsForItself character = true ∨ character = '%' := by
  have small : byte.toNat < 256 := byte.toNat_lt
  unfold queryByte at member
  dsimp only at member
  split at member
  · next stands => exact .inl (List.mem_singleton.mp member ▸ stands)
  · simp only [List.mem_cons, List.not_mem_nil, or_false] at member
    rcases member with rfl | rfl | rfl
    · exact .inr rfl
    · exact .inl (standsForItself_hexDigit _ (by omega))
    · exact .inl (standsForItself_hexDigit _ (by omega))

theorem notMem_queryValue {mark : Char} (marks : standsForItself mark = false)
    (different : mark ≠ '%') (text : String) : mark ∉ (queryValue text).toList := by
  rw [toList_queryValue]
  intro member
  rcases List.mem_flatMap.mp member with ⟨byte, _, written⟩
  rcases of_mem_queryByte written with stands | escape
  · exact ne_of_standsForItself stands marks rfl
  · exact different escape

/-! ## Parts -/

theorem span_mark {front : List Char} {mark : Char} (plain : mark ∉ front) (rest : List Char) :
    (front ++ mark :: rest).takeWhile (· != mark) = front ∧
      (front ++ mark :: rest).dropWhile (· != mark) = mark :: rest := by
  have passes : ∀ character ∈ front, (character != mark) = true := by
    intro character member
    exact bne_iff_ne.mpr fun same => plain (same ▸ member)
  rw [List.takeWhile_append_of_pos passes, List.dropWhile_append_of_pos passes]
  simp

theorem parameter_queryValue {name : List Char} (plain : '=' ∉ name) (text : String) :
    parameter (name ++ '=' :: (queryValue text).toList) = (String.ofList name, some text) := by
  have ⟨before, behind⟩ := span_mark plain (queryValue text).toList
  rw [parameter, before, behind, List.drop_one, List.tail_cons, valueText?_queryValue]

theorem parameters_of_split {address : String} {front query : List Char}
    (split : address.toList = front ++ '?' :: query) (plain : '?' ∉ front) :
    parameters address = (query.splitOn '&').map parameter := by
  rw [parameters, split, (span_mark plain query).2, List.drop_one, List.tail_cons]

end Query

theorem Operation.parameters_reportSummary (first last : Date) :
    Query.parameters (reportSummary first last).path =
      [("from", some first.text), ("to", some last.text)] := by
  have split : (reportSummary first last).path.toList = "/api/reports/summary".toList ++ '?' ::
      (("from".toList ++ '=' :: (queryValue first.text).toList) ++ '&' ::
        ("to".toList ++ '=' :: (queryValue last.text).toList)) := by
    have front : "/api/reports/summary?from=".toList =
        "/api/reports/summary".toList ++ '?' :: ("from".toList ++ ['=']) := by decide +kernel
    have between : "&to=".toList = '&' :: ("to".toList ++ ['=']) := by decide +kernel
    change ("/api/reports/summary?from=" ++ queryValue first.text ++ "&to=" ++
      queryValue last.text).toList = _
    rw [String.toList_append, String.toList_append, String.toList_append, front, between]
    simp only [List.append_assoc, List.cons_append, List.nil_append]
  have plain : ∀ name : List Char, '&' ∉ name → ∀ text,
      '&' ∉ name ++ '=' :: (queryValue text).toList := by
    intro name notMember text member
    rcases List.mem_append.mp member with inName | inValue
    · exact notMember inName
    · rcases List.mem_cons.mp inValue with same | inText
      · cases same
      · exact Query.notMem_queryValue (by decide) (by decide) text inText
  rw [Query.parameters_of_split split (by decide),
    List.splitOn_append_cons_self_of_not_mem (plain _ (by decide) _),
    List.splitOn_eq_singleton (plain _ (by decide) _), List.map_cons, List.map_singleton,
    Query.parameter_queryValue (by decide), Query.parameter_queryValue (by decide),
    String.ofList_toList, String.ofList_toList]

end SheetPost
