namespace SheetPost

/-- The code points with the property White_Space, as closed ranges in ascending order. -/
def blankRanges : List (Nat × Nat) :=
  [(0x09, 0x0D), (0x20, 0x20), (0x85, 0x85), (0xA0, 0xA0), (0x1680, 0x1680), (0x2000, 0x200A),
    (0x2028, 0x2029), (0x202F, 0x202F), (0x205F, 0x205F), (0x3000, 0x3000)]

def isBlank (character : Char) : Bool :=
  blankRanges.any fun range => range.1 ≤ character.toNat && character.toNat ≤ range.2

example : isBlank '\u3000' = true ∧ isBlank '\u0085' = true := by decide
example : isBlank '\u200B' = false ∧ isBlank '\u001C' = false := by decide
example : (blankRanges.map fun range => range.2 + 1 - range.1).sum = 25 := by decide

/-! Trimming works on characters; the version on strings only packs and unpacks. -/

def trimmed (characters : List Char) : List Char :=
  ((characters.dropWhile isBlank).reverse.dropWhile isBlank).reverse

def trim (text : String) : String :=
  String.ofList (trimmed text.toList)

def blank (text : String) : Bool :=
  text.toList.all isBlank

theorem trim_toList (text : String) : (trim text).toList = trimmed text.toList := by
  simp [trim]

private theorem dropWhile_eq_nil_iff_all {α : Type} (accepts : α → Bool) (values : List α) :
    values.dropWhile accepts = [] ↔ values.all accepts = true := by
  induction values with
  | nil => simp
  | cons head tail induction =>
      cases equal : accepts head <;> simp [equal, induction]

theorem trimmed_eq_nil_iff (characters : List Char) :
    trimmed characters = [] ↔ characters.all isBlank = true := by
  rw [trimmed, List.reverse_eq_nil_iff, dropWhile_eq_nil_iff_all, List.all_reverse]
  constructor
  · intro rest
    rw [← dropWhile_eq_nil_iff_all]
    cases remaining : characters.dropWhile isBlank with
    | nil => rfl
    | cons head tail =>
        have stops := List.head?_dropWhile_not isBlank characters
        rw [remaining] at stops rest
        simp_all
  · intro whole
    rw [(dropWhile_eq_nil_iff_all isBlank characters).2 whole]
    rfl

theorem blank_iff_trim (text : String) : blank text = true ↔ trim text = "" := by
  rw [blank, ← trimmed_eq_nil_iff, ← trim_toList, String.toList_eq_nil_iff]

end SheetPost
