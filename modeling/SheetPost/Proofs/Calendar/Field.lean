import SheetPost.Calendar.Pattern
import SheetPost.Proofs.Text.Numeral
import SheetPost.Proofs.Text.Trimming

namespace SheetPost

/-! ## Numbers at the front of a text -/

theorem NoDigitAhead.take {characters : List Char} (ends : NoDigitAhead characters) (count : Nat) :
    NoDigitAhead (characters.take count) := by
  cases characters with
  | nil => simpa using ends
  | cons head tail =>
      cases count with
      | zero => nofun
      | succ count => simpa [NoDigitAhead] using ends

theorem takeWhile_isDigit_take {digits rest : List Char} {limit : Nat}
    (all : ∀ digit ∈ digits, isDigit digit = true) (short : digits.length ≤ limit)
    (ends : digits.length = limit ∨ NoDigitAhead rest) :
    ((digits ++ rest).take limit).takeWhile isDigit = digits := by
  have cut : NoDigitAhead (rest.take (limit - digits.length)) := by
    rcases ends with full | ends
    · simp [full, NoDigitAhead]
    · exact ends.take _
  rw [List.take_append, List.take_of_length_le short]
  exact congrArg Prod.fst (spanDigits_of_noDigitAhead all cut)

theorem noDigitAhead_drop {characters digits : List Char} {limit : Nat}
    (front : (characters.take limit).takeWhile isDigit = digits) (room : digits.length < limit) :
    NoDigitAhead (characters.drop digits.length) := by
  intro character isHead
  have split : digits ++ (characters.take limit).dropWhile isDigit = characters.take limit := by
    rw [← front, List.takeWhile_append_dropWhile]
  have place : (characters.take limit)[digits.length]? = some character := by
    rw [List.getElem?_take_of_lt room, ← List.head?_drop]
    exact isHead
  have next : ((characters.take limit).dropWhile isDigit).head? = some character := by
    rw [← split, List.getElem?_append_right (Nat.le_refl _), Nat.sub_self] at place
    rwa [List.head?_eq_getElem?]
  have stops := List.head?_dropWhile_not isDigit (characters.take limit)
  rw [next] at stops
  simpa using stops

theorem takeNumber?_eq_some_iff {limit : Nat} {characters rest : List Char} {value : Nat} :
    takeNumber? limit characters = some (value, rest) ↔
      ∃ digits, characters = digits ++ rest ∧ digits ≠ [] ∧
        (∀ digit ∈ digits, isDigit digit = true) ∧ digits.length ≤ limit ∧
        (digits.length = limit ∨ NoDigitAhead rest) ∧ numeralValue digits = value := by
  constructor
  · intro taken
    generalize front : (characters.take limit).takeWhile isDigit = digits
    simp only [takeNumber?, front, Option.ite_none_left_eq_some, Option.some.injEq,
      Prod.mk.injEq, List.isEmpty_iff] at taken
    have ⟨filled, isValue, isRest⟩ := taken
    have initial : digits <+: characters.take limit := front ▸ List.takeWhile_prefix isDigit
    have split : digits ++ characters.drop digits.length = characters :=
      List.prefix_iff_eq_append.mp (initial.trans (List.take_prefix _ _))
    have short : digits.length ≤ limit := initial.length_le.trans (List.length_take_le _ _)
    refine ⟨digits, isRest ▸ split.symm, filled, ?_, short, ?_, isValue⟩
    · intro digit member
      rw [← front] at member
      exact List.mem_takeWhile_imp member
    · rcases Nat.eq_or_lt_of_le short with full | room
      · exact .inl full
      · exact .inr (isRest ▸ noDigitAhead_drop front room)
  · intro ⟨digits, split, filled, all, short, ends, isValue⟩
    have front := takeWhile_isDigit_take all short ends
    simp [takeNumber?, split, front, filled, isValue]

theorem spanDigits_of_takeNumber? {limit value : Nat} {characters rest : List Char}
    (taken : takeNumber? limit characters = some (value, rest)) (ends : NoDigitAhead rest) :
    numeralValue (spanDigits characters).1 = value ∧ (spanDigits characters).2 = rest := by
  have ⟨digits, split, _, all, _, _, isValue⟩ := takeNumber?_eq_some_iff.mp taken
  rw [split, spanDigits_of_noDigitAhead all ends]
  exact ⟨isValue, rfl⟩

/-! ## Fields -/

inductive DateField where
  | year
  | month
  | day
deriving DecidableEq

namespace DateField

def piece : DateField → DatePiece
  | year => .year
  | month => .month
  | day => .day

def take? (field : DateField) (characters : List Char) : Option (Int × List Char) :=
  match field with
  | year => takeYear? (characters.dropWhile isBlank)
  | month | day =>
      (takeNumber? 2 (characters.dropWhile isBlank)).map fun taken => (taken.1, taken.2)

def put (field : DateField) (value : Int) (fields : DateFields) : DateFields :=
  match field with
  | year => { fields with year := value }
  | month => { fields with month := value.toNat }
  | day => { fields with day := value.toNat }

def get (field : DateField) (fields : DateFields) : Int :=
  match field with
  | year => fields.year
  | month => fields.month
  | day => fields.day

def value (field : DateField) (date : Date) : Int :=
  field.get ⟨date.year, date.month, date.day⟩

def written (field : DateField) (date : Date) : List Char :=
  match field with
  | year => yearText date.year
  | month => paddedNumeral 2 date.month
  | day => paddedNumeral 2 date.day

theorem get_put_same {field : DateField} {characters rest : List Char} {value : Int}
    (taken : field.take? characters = some (value, rest)) (fields : DateFields) :
    field.get (field.put value fields) = value := by
  cases field with
  | year => rfl
  | month | day =>
      simp only [take?, Option.map_eq_some_iff, Prod.mk.injEq] at taken
      have ⟨number, _, isValue, _⟩ := taken
      simp only [get, put, ← isValue, Int.toNat_natCast]

theorem get_put_other {field other : DateField} (different : other ≠ field) (value : Int)
    (fields : DateFields) : other.get (field.put value fields) = other.get fields := by
  cases field <;> cases other <;> first | rfl | exact absurd rfl different

theorem eq_of_get {fields others : DateFields}
    (same : ∀ field : DateField, field.get fields = field.get others) : fields = others := by
  have sameYear := same year
  have sameMonth := same month
  have sameDay := same day
  cases fields
  cases others
  simp only [get, Int.natCast_inj] at sameYear sameMonth sameDay
  rw [sameYear, sameMonth, sameDay]

end DateField

theorem DatePattern.readFields?_field (field : DateField) (fields : DateFields)
    (pieces : DatePattern) (characters : List Char) :
    readFields? fields (field.piece :: pieces) characters =
      (field.take? characters).bind fun taken =>
        readFields? (field.put taken.1 fields) pieces taken.2 := by
  cases field with
  | year => rfl
  | month | day =>
      simp only [DateField.take?, Option.bind_map]
      rfl

theorem DatePattern.write_field (field : DateField) (date : Date) (pieces : DatePattern) :
    write date (field.piece :: pieces) = field.written date ++ write date pieces := by
  cases field <;> rfl

/-! ## Fields followed by something else than a digit -/

def wholeNumber (characters : List Char) : Int × List Char :=
  match characters with
  | '-' :: rest => (-(numeralValue (spanDigits rest).1 : Int), (spanDigits rest).2)
  | '+' :: rest => (numeralValue (spanDigits rest).1, (spanDigits rest).2)
  | _ => (numeralValue (spanDigits characters).1, (spanDigits characters).2)

theorem wholeNumber_of_takeNumber? {limit value : Nat} {characters rest : List Char}
    (taken : takeNumber? limit characters = some (value, rest)) (ends : NoDigitAhead rest) :
    wholeNumber characters = ((value : Int), rest) := by
  have ⟨isValue, isRest⟩ := spanDigits_of_takeNumber? taken ends
  have ⟨digits, split, filled, all, _⟩ := takeNumber?_eq_some_iff.mp taken
  unfold wholeNumber
  split
  · exact absurd split.symm (append_ne_cons filled all (by decide))
  · exact absurd split.symm (append_ne_cons filled all (by decide))
  · rw [isValue, isRest]

theorem wholeNumber_of_takeYear? {characters rest : List Char} {value : Int}
    (taken : takeYear? characters = some (value, rest)) (ends : NoDigitAhead rest) :
    wholeNumber characters = (value, rest) := by
  unfold takeYear? at taken
  split at taken <;>
    simp only [Option.map_eq_some_iff, Prod.mk.injEq, Prod.exists] at taken <;>
    have ⟨number, left, read, isValue, isRest⟩ := taken <;>
    subst isRest isValue
  · have ⟨isValue, isRest⟩ := spanDigits_of_takeNumber? read ends
    simp [wholeNumber, isValue, isRest]
  · have ⟨isValue, isRest⟩ := spanDigits_of_takeNumber? read ends
    simp [wholeNumber, isValue, isRest]
  · exact wholeNumber_of_takeNumber? read ends

theorem DateField.wholeNumber_of_take? {field : DateField} {characters rest : List Char}
    {value : Int} (taken : field.take? characters = some (value, rest))
    (ends : NoDigitAhead rest) :
    wholeNumber (characters.dropWhile isBlank) = (value, rest) := by
  cases field with
  | year => exact wholeNumber_of_takeYear? taken ends
  | month | day =>
      simp only [take?, Option.map_eq_some_iff, Prod.mk.injEq, Prod.exists] at taken
      have ⟨number, left, read, isValue, isRest⟩ := taken
      subst isRest isValue
      exact wholeNumber_of_takeNumber? read ends

/-- Two fields that take something from the same text take the same, if no digit follows either. -/
theorem DateField.take?_unique {field other : DateField} {characters rest restToo : List Char}
    {value valueToo : Int} (taken : field.take? characters = some (value, rest))
    (ends : NoDigitAhead rest) (takenToo : other.take? characters = some (valueToo, restToo))
    (endsToo : NoDigitAhead restToo) : value = valueToo ∧ rest = restToo := by
  have whole := wholeNumber_of_take? taken ends
  rw [wholeNumber_of_take? takenToo endsToo, Prod.mk.injEq] at whole
  exact ⟨whole.1.symm, whole.2.symm⟩

theorem DateField.length_of_take? {field : DateField} (short : field ≠ .year)
    {characters rest : List Char} {value : Int}
    (taken : field.take? characters = some (value, rest)) :
    (characters.dropWhile isBlank).length ≤ rest.length + 2 := by
  cases field with
  | year => exact absurd rfl short
  | month | day =>
      simp only [take?, Option.map_eq_some_iff, Prod.mk.injEq, Prod.exists] at taken
      have ⟨number, left, read, isValue, isRest⟩ := taken
      have ⟨digits, split, _, _, two, _⟩ := takeNumber?_eq_some_iff.mp read
      rw [split, ← isRest, List.length_append]
      omega

/-! ## Written fields -/

theorem takeNumber?_append {limit : Nat} {digits rest : List Char} (filled : digits ≠ [])
    (all : ∀ digit ∈ digits, isDigit digit = true) (short : digits.length ≤ limit)
    (ends : NoDigitAhead rest) :
    takeNumber? limit (digits ++ rest) = some (numeralValue digits, rest) :=
  takeNumber?_eq_some_iff.mpr ⟨digits, rfl, filled, all, short, .inr ends, rfl⟩

theorem takeYear?_of_digits {digits rest : List Char} (filled : digits ≠ [])
    (all : ∀ digit ∈ digits, isDigit digit = true) (short : digits.length ≤ 4)
    (ends : NoDigitAhead rest) :
    takeYear? (digits ++ rest) = some ((numeralValue digits : Int), rest) := by
  unfold takeYear?
  split
  · next same => exact absurd same (append_ne_cons filled all (by decide))
  · next same => exact absurd same (append_ne_cons filled all (by decide))
  · rw [takeNumber?_append filled all short ends, Option.map_some]

theorem takeYear?_yearText (year : Int) {rest : List Char} (ends : NoDigitAhead rest) :
    takeYear? (yearText year ++ rest) = some (year, rest) := by
  have filled := paddedNumeral_ne_nil 4 year.natAbs
  have all : ∀ digit ∈ paddedNumeral 4 year.natAbs, isDigit digit = true :=
    fun _ => isDigit_of_mem_paddedNumeral
  have signed : takeNumber? (paddedNumeral 4 year.natAbs ++ rest).length
      (paddedNumeral 4 year.natAbs ++ rest) = some (year.natAbs, rest) := by
    have fits : (paddedNumeral 4 year.natAbs).length ≤
        (paddedNumeral 4 year.natAbs ++ rest).length := by simp
    rw [takeNumber?_append filled all fits ends, numeralValue_paddedNumeral]
  unfold yearText
  split
  · next before =>
      have negated : -(year.natAbs : Int) = year := by omega
      simp only [List.cons_append, takeYear?, signed, Option.map_some, negated]
  · next after =>
      have kept : (year.natAbs : Int) = year := by omega
      split
      · have width := length_paddedNumeral_of_lt (Nat.succ_pos 3)
          (by omega : year.natAbs < 10 ^ 4)
        rw [takeYear?_of_digits filled all (Nat.le_of_eq width) ends, numeralValue_paddedNumeral,
          kept]
      · simp only [List.cons_append, takeYear?, signed, Option.map_some, kept]

theorem four_le_length_yearText (year : Int) : 4 ≤ (yearText year).length := by
  have wide := length_paddedNumeral 4 year.natAbs
  unfold yearText
  split
  · rw [List.length_cons]
    omega
  · split
    · omega
    · rw [List.length_cons]
      omega

theorem takeNumber?_paddedNumeral {value : Nat} (fits : value < 10 ^ 2) {rest : List Char}
    (ends : NoDigitAhead rest) :
    takeNumber? 2 (paddedNumeral 2 value ++ rest) = some (value, rest) := by
  have width := length_paddedNumeral_of_lt (Nat.succ_pos 1) fits
  rw [takeNumber?_append (paddedNumeral_ne_nil 2 value) (fun _ => isDigit_of_mem_paddedNumeral)
    (Nat.le_of_eq width) ends, numeralValue_paddedNumeral]

namespace DateField

theorem of_mem_written {field : DateField} {date : Date} {character : Char}
    (member : character ∈ field.written date) :
    isDigit character = true ∨ character = '-' ∨ character = '+' := by
  cases field with
  | year =>
      simp only [written, yearText] at member
      split at member
      · rcases List.mem_cons.mp member with sign | digit
        · exact .inr (.inl sign)
        · exact .inl (isDigit_of_mem_paddedNumeral digit)
      · split at member
        · exact .inl (isDigit_of_mem_paddedNumeral member)
        · rcases List.mem_cons.mp member with sign | digit
          · exact .inr (.inr sign)
          · exact .inl (isDigit_of_mem_paddedNumeral digit)
  | month | day => exact .inl (isDigit_of_mem_paddedNumeral member)

theorem isBlank_of_mem_written {field : DateField} {date : Date} {character : Char}
    (member : character ∈ field.written date) : isBlank character = false := by
  rcases of_mem_written member with digit | minus | plus
  · exact isBlank_of_isDigit digit
  · rw [minus]
    decide
  · rw [plus]
    decide

theorem written_ne_nil (field : DateField) (date : Date) : field.written date ≠ [] := by
  cases field with
  | year =>
      intro empty
      have four : 4 ≤ (year.written date).length := four_le_length_yearText date.year
      rw [empty] at four
      cases four
  | month | day => exact paddedNumeral_ne_nil 2 _

theorem dropWhile_written (field : DateField) (date : Date) (rest : List Char) :
    (field.written date ++ rest).dropWhile isBlank = field.written date ++ rest := by
  have ⟨head, tail, isCons⟩ := List.exists_cons_of_ne_nil (field.written_ne_nil date)
  have visible : isBlank head = false :=
    isBlank_of_mem_written (isCons ▸ List.mem_cons_self : head ∈ field.written date)
  simp [isCons, visible]

theorem daysInMonth_le (year : Int) (month : Nat) : daysInMonth year month ≤ 31 := by
  unfold daysInMonth
  split <;> try omega
  split <;> omega

theorem take?_written (field : DateField) (date : Date) {rest : List Char}
    (ends : NoDigitAhead rest) :
    field.take? (field.written date ++ rest) = some (field.value date, rest) := by
  have front := field.dropWhile_written date rest
  cases field with
  | year =>
      simp only [take?, front]
      exact takeYear?_yearText date.year ends
  | month =>
      have fits : date.month < 10 ^ 2 := by
        have := date.isDate.monthInYear
        omega
      simp only [take?, front]
      simp only [written, takeNumber?_paddedNumeral fits ends, Option.map_some, value, get]
  | day =>
      have fits : date.day < 10 ^ 2 := by
        have := date.isDate.dayInMonth
        have := daysInMonth_le date.year date.month
        omega
      simp only [take?, front]
      simp only [written, takeNumber?_paddedNumeral fits ends, Option.map_some, value, get]

theorem eq_year_of_take? {field : DateField} {date : Date} {characters rest : List Char}
    {value : Int} (isWritten : characters = year.written date ++ rest)
    (taken : field.take? characters = some (value, rest)) : field = year := by
  by_contra short
  have few := length_of_take? short taken
  have four : 4 ≤ (year.written date).length := four_le_length_yearText date.year
  rw [isWritten, dropWhile_written, List.length_append] at few
  omega

end DateField

end SheetPost
