import Mathlib.Data.List.Nodup
import SheetPost.Proofs.Calendar.Field

namespace SheetPost

structure DateFormat where
  mark : Char
  first : DateField
  second : DateField
  third : DateField
  isMark : mark ∈ ['-', '/', '.'] := by decide
  distinct : [first, second, third].Nodup := by decide
deriving DecidableEq

/-- How a text is cut: three numbers, and what stands behind the first two and their marks. -/
structure DateCut where
  first : Int
  afterFirst : List Char
  second : Int
  afterSecond : List Char
  third : Int

namespace DateFormat

def pattern (format : DateFormat) : DatePattern :=
  [format.first.piece, .mark format.mark, format.second.piece, .mark format.mark,
    format.third.piece]

def hyphened : DateFormat where
  mark := '-'
  first := .year
  second := .month
  third := .day

def slashed : DateFormat where
  mark := '/'
  first := .year
  second := .month
  third := .day

def dotted : DateFormat where
  mark := '.'
  first := .day
  second := .month
  third := .year

def monthFirst : DateFormat where
  mark := '/'
  first := .month
  second := .day
  third := .year

def all : List DateFormat := [hyphened, slashed, dotted, monthFirst]

theorem pattern_slashed : slashed.pattern = DatePattern.slashed := rfl

theorem pattern_monthFirst : monthFirst.pattern = DatePattern.monthFirst := rfl

theorem mem_inSheets_iff {pattern : DatePattern} :
    pattern ∈ DatePattern.inSheets ↔ ∃ format ∈ all, format.pattern = pattern := by
  have listed : DatePattern.inSheets = all.map DateFormat.pattern := rfl
  rw [listed, List.mem_map]

theorem fields_apart (format : DateFormat) :
    format.first ≠ format.second ∧ format.first ≠ format.third ∧
      format.second ≠ format.third := by
  have distinct := format.distinct
  simp only [List.nodup_cons, List.mem_cons, List.not_mem_nil] at distinct
  tauto

theorem eq_first_or_second_or_third (format : DateFormat) (field : DateField) :
    field = format.first ∨ field = format.second ∨ field = format.third := by
  have apart := format.fields_apart
  revert apart
  cases format.first <;> cases format.second <;> cases format.third <;> cases field <;> decide

theorem noDigitAhead_mark (format : DateFormat) (rest : List Char) :
    NoDigitAhead (format.mark :: rest) := by
  have notDigit : ∀ mark ∈ ['-', '/', '.'], isDigit mark = false := by simp [isDigit]
  intro character isHead
  cases isHead
  exact notDigit format.mark format.isMark

/-! ## Cutting a text into numbers -/

/-- The fields of the format take the numbers of the cut, and nothing but the marks is left. -/
structure Cuts (format : DateFormat) (characters : List Char) (cut : DateCut) : Prop where
  first : format.first.take? characters = some (cut.first, format.mark :: cut.afterFirst)
  second : format.second.take? cut.afterFirst = some (cut.second, format.mark :: cut.afterSecond)
  third : format.third.take? cut.afterSecond = some (cut.third, [])

variable {format other : DateFormat} {characters : List Char} {cut cutToo : DateCut}

theorem Cuts.unique (cuts : format.Cuts characters cut) (also : other.Cuts characters cutToo) :
    format.mark = other.mark ∧ cut = cutToo := by
  -- A mark or the end follows each field, so no field is cut short by its own width.
  have ⟨first, afterFirst, second, afterSecond, third⟩ := cut
  have ⟨firstToo, afterFirstToo, secondToo, afterSecondToo, thirdToo⟩ := cutToo
  have ⟨sameFirst, rest⟩ := DateField.take?_unique cuts.first (format.noDigitAhead_mark _)
    also.first (other.noDigitAhead_mark _)
  have ⟨sameMark, sameAfterFirst⟩ := List.cons.inj rest
  dsimp only at sameFirst sameAfterFirst
  subst sameFirst sameAfterFirst
  have ⟨sameSecond, rest⟩ := DateField.take?_unique cuts.second (format.noDigitAhead_mark _)
    also.second (other.noDigitAhead_mark _)
  have sameAfterSecond := (List.cons.inj rest).2
  dsimp only at sameSecond sameAfterSecond
  subst sameSecond sameAfterSecond
  have ⟨sameThird, _⟩ := DateField.take?_unique cuts.third nofun also.third nofun
  dsimp only at sameThird
  subst sameThird
  exact ⟨sameMark, rfl⟩

theorem readFields?_mark {fields result : DateFields} {mark : Char} {pieces : DatePattern} :
    DatePattern.readFields? fields (.mark mark :: pieces) characters = some result ↔
      ∃ rest, characters = mark :: rest ∧
        DatePattern.readFields? fields pieces rest = some result := by
  cases characters with
  | nil => simp [DatePattern.readFields?]
  | cons head tail => simp [DatePattern.readFields?, Option.ite_none_right_eq_some]

theorem readFields?_nil {fields result : DateFields} :
    DatePattern.readFields? fields [] characters = some result ↔
      characters = [] ∧ fields = result := by
  cases characters <;> simp [DatePattern.readFields?]

def fieldsOf (format : DateFormat) (cut : DateCut) : DateFields :=
  format.third.put cut.third (format.second.put cut.second (format.first.put cut.first ⟨0, 0, 0⟩))

theorem readFields?_pattern {result : DateFields} :
    DatePattern.readFields? ⟨0, 0, 0⟩ format.pattern characters = some result ↔
      ∃ cut, format.Cuts characters cut ∧ format.fieldsOf cut = result := by
  simp only [pattern, DatePattern.readFields?_field, Option.bind_eq_some_iff, readFields?_mark,
    readFields?_nil, Prod.exists]
  constructor
  · intro ⟨first, _, isFirst, afterFirst, mark, second, _, isSecond, afterSecond, markToo, third,
      _, isThird, nothingLeft, isResult⟩
    subst mark markToo nothingLeft
    exact ⟨⟨first, afterFirst, second, afterSecond, third⟩, ⟨isFirst, isSecond, isThird⟩, isResult⟩
  · intro ⟨cut, cuts, isResult⟩
    exact ⟨_, _, cuts.first, _, rfl, _, _, cuts.second, _, rfl, _, _, cuts.third, rfl, isResult⟩

theorem get_fieldsOf (cuts : format.Cuts characters cut) :
    format.first.get (format.fieldsOf cut) = cut.first ∧
    format.second.get (format.fieldsOf cut) = cut.second ∧
    format.third.get (format.fieldsOf cut) = cut.third := by
  have ⟨firstSecond, firstThird, secondThird⟩ := format.fields_apart
  refine ⟨?_, ?_, DateField.get_put_same cuts.third _⟩
  · rw [fieldsOf, DateField.get_put_other firstThird, DateField.get_put_other firstSecond,
      DateField.get_put_same cuts.first]
  · rw [fieldsOf, DateField.get_put_other secondThird, DateField.get_put_same cuts.second]

structure Shows (format : DateFormat) (cut : DateCut) (date : Date) : Prop where
  first : format.first.value date = cut.first
  second : format.second.value date = cut.second
  third : format.third.value date = cut.third

theorem read?_pattern {date : Date} :
    format.pattern.read? characters = some date ↔
      ∃ cut, format.Cuts characters cut ∧ format.Shows cut date := by
  simp only [DatePattern.read?, Option.bind_eq_bind, Option.bind_eq_some_iff, readFields?_pattern,
    Date.of?_eq_some_iff]
  constructor
  · intro read
    rcases read with ⟨_, ⟨cut, cuts, same⟩, isYear, isMonth, isDay⟩
    subst same
    rcases get_fieldsOf cuts with ⟨isFirst, isSecond, isThird⟩
    refine ⟨cut, cuts, ?_, ?_, ?_⟩ <;> rw [DateField.value, isYear, isMonth, isDay] <;> assumption
  · intro read
    rcases read with ⟨cut, cuts, shows⟩
    rcases get_fieldsOf cuts with ⟨isFirst, isSecond, isThird⟩
    have same : format.fieldsOf cut = ⟨date.year, date.month, date.day⟩ := by
      refine DateField.eq_of_get fun field => ?_
      rcases format.eq_first_or_second_or_third field with isField | isField | isField
      · rw [isField, isFirst]
        exact shows.first.symm
      · rw [isField, isSecond]
        exact shows.second.symm
      · rw [isField, isThird]
        exact shows.third.symm
    exact ⟨_, ⟨cut, cuts, rfl⟩, by simp [same]⟩

end DateFormat

variable {characters : List Char}

/-! ## Texts that two formats read -/

def BothSlashed (pattern other : DatePattern) : Prop :=
  (pattern = .slashed ∧ other = .monthFirst) ∨ (pattern = .monthFirst ∧ other = .slashed)

instance (pattern other : DatePattern) : Decidable (BothSlashed pattern other) :=
  inferInstanceAs (Decidable (_ ∨ _))

theorem bothSlashed_of_read {pattern other : DatePattern} {date dateToo : Date}
    (member : pattern ∈ DatePattern.inSheets) (memberToo : other ∈ DatePattern.inSheets)
    (different : pattern ≠ other) (read : pattern.read? characters = some date)
    (readToo : other.read? characters = some dateToo) : BothSlashed pattern other := by
  have ⟨format, isFormat, isPattern⟩ := DateFormat.mem_inSheets_iff.mp member
  have ⟨formatToo, isFormatToo, isPatternToo⟩ := DateFormat.mem_inSheets_iff.mp memberToo
  subst isPattern isPatternToo
  have ⟨_, cuts, _⟩ := DateFormat.read?_pattern.mp read
  have ⟨_, cutsToo, _⟩ := DateFormat.read?_pattern.mp readToo
  have marks : ∀ format ∈ DateFormat.all, ∀ other ∈ DateFormat.all, format.mark = other.mark →
      format.pattern ≠ other.pattern → BothSlashed format.pattern other.pattern := by decide
  exact marks format isFormat formatToo isFormatToo (cuts.unique cutsToo).1 different

/-- Two dates from the same three numbers, the one read with the year first and the other with the
month first. -/
structure Turned (yearFirst monthFirst : Date) : Prop where
  month : (monthFirst.month : Int) = yearFirst.year
  day : monthFirst.day = yearFirst.month
  year : monthFirst.year = yearFirst.day

theorem turned_of_read {yearFirst monthFirst : Date}
    (read : DatePattern.slashed.read? characters = some yearFirst)
    (readToo : DatePattern.monthFirst.read? characters = some monthFirst) :
    Turned yearFirst monthFirst := by
  rw [← DateFormat.pattern_slashed, DateFormat.read?_pattern] at read
  rw [← DateFormat.pattern_monthFirst, DateFormat.read?_pattern] at readToo
  have ⟨cut, cuts, shows⟩ := read
  have ⟨cutToo, cutsToo, showsToo⟩ := readToo
  have same := (cuts.unique cutsToo).2
  subst same
  exact ⟨showsToo.first.trans shows.first.symm,
    Int.natCast_inj.mp (showsToo.second.trans shows.second.symm),
    showsToo.third.trans shows.third.symm⟩

theorem Turned.eq_iff {yearFirst monthFirst : Date} (turned : Turned yearFirst monthFirst) :
    yearFirst = monthFirst ↔
      yearFirst.year = yearFirst.month ∧ yearFirst.month = yearFirst.day := by
  have ⟨month, day, year⟩ := turned
  cases yearFirst
  cases monthFirst
  simp only [Date.mk.injEq] at month day year ⊢
  omega

/-! ## The order of the formats -/

theorem findSome?_of_first {α β : Type} [BEq α] [LawfulBEq α] {read : α → Option β}
    {order : List α} {reader : α} {value : β} (member : reader ∈ order)
    (reads : read reader = some value)
    (before : ∀ other ∈ order, order.idxOf other < order.idxOf reader → read other = none) :
    order.findSome? read = some value := by
  induction order with
  | nil => cases member
  | cons head tail induction =>
      by_cases same : head = reader
      · rw [List.findSome?_cons, same, reads]
      · have silent : read head = none := by
          apply before head List.mem_cons_self
          rw [List.idxOf_cons_self, List.idxOf_cons_ne _ same]
          exact Nat.succ_pos _
        rw [List.findSome?_cons, silent]
        apply induction (List.mem_of_ne_of_mem (Ne.symm same) member)
        intro other isOther earlier
        by_cases isHead : other = head
        · rw [isHead, silent]
        · apply before other (List.mem_cons_of_mem head isOther)
          rw [List.idxOf_cons_ne _ (Ne.symm isHead), List.idxOf_cons_ne _ same]
          exact Nat.succ_lt_succ earlier

section Order

variable {order : List DatePattern}

/-- A format that reads a text decides, unless the other one with slashes comes before it and reads
the text as well. -/
theorem findSome?_of_read? (perm : order.Perm DatePattern.inSheets) {pattern : DatePattern}
    {date : Date} (member : pattern ∈ DatePattern.inSheets)
    (read : pattern.read? characters = some date)
    (silent : ∀ other, BothSlashed other pattern → order.idxOf other < order.idxOf pattern →
      other.read? characters = none) :
    order.findSome? (·.read? characters) = some date := by
  apply findSome?_of_first (perm.mem_iff.mpr member) read
  intro other isOther earlier
  -- An earlier format that read the text too would have to be the other one with slashes.
  cases readToo : other.read? characters with
  | none => rfl
  | some dateToo =>
      have different : other ≠ pattern := by
        intro same
        subst same
        omega
      have both := bothSlashed_of_read (perm.mem_iff.mp isOther) member different readToo read
      rw [silent other both earlier] at readToo
      cases readToo

theorem findSome?_of_slashed (perm : order.Perm DatePattern.inSheets) {date : Date}
    (read : DatePattern.slashed.read? characters = some date)
    (first : ¬order.idxOf DatePattern.monthFirst < order.idxOf DatePattern.slashed) :
    order.findSome? (·.read? characters) = some date := by
  apply findSome?_of_read? perm (by decide) read
  intro other both earlier
  rcases both with ⟨_, never⟩ | ⟨isMonthFirst, _⟩
  · cases never
  · subst isMonthFirst
    exact absurd earlier first

theorem findSome?_of_monthFirst (perm : order.Perm DatePattern.inSheets) {date : Date}
    (read : DatePattern.monthFirst.read? characters = some date)
    (silent : order.idxOf DatePattern.slashed < order.idxOf DatePattern.monthFirst →
      DatePattern.slashed.read? characters = none) :
    order.findSome? (·.read? characters) = some date := by
  apply findSome?_of_read? perm (by decide) read
  intro other both earlier
  rcases both with ⟨isSlashed, _⟩ | ⟨_, never⟩
  · subst isSlashed
    exact silent earlier
  · cases never

theorem findSome?_eq_some_iff_of_silent (perm : order.Perm DatePattern.inSheets) {date : Date}
    (silent : DatePattern.monthFirst.read? characters = none) :
    order.findSome? (·.read? characters) = some date ↔
      ∃ pattern ∈ DatePattern.inSheets, pattern.read? characters = some date := by
  constructor
  · intro found
    have ⟨pattern, member, read⟩ := List.exists_of_findSome?_eq_some found
    exact ⟨pattern, perm.mem_iff.mp member, read⟩
  · intro ⟨pattern, member, read⟩
    apply findSome?_of_read? perm member read
    intro other both _
    rcases both with ⟨_, isMonthFirst⟩ | ⟨isMonthFirst, _⟩
    · rw [isMonthFirst, silent] at read
      cases read
    · rw [isMonthFirst, silent]

theorem findSome?_read?_of_perm (perm : order.Perm DatePattern.inSheets)
    (characters : List Char) :
    order.findSome? (·.read? characters) =
      if order.idxOf DatePattern.monthFirst < order.idxOf DatePattern.slashed then
        (DatePattern.monthFirst.read? characters).or
          (DatePattern.inSheets.findSome? (·.read? characters))
      else DatePattern.inSheets.findSome? (·.read? characters) := by
  have listed : DatePattern.inSheets.Perm DatePattern.inSheets := .refl _
  cases readToo : DatePattern.monthFirst.read? characters with
  | none =>
      have same : order.findSome? (·.read? characters) =
          DatePattern.inSheets.findSome? (·.read? characters) := by
        apply Option.ext
        intro date
        rw [findSome?_eq_some_iff_of_silent perm readToo,
          findSome?_eq_some_iff_of_silent listed readToo]
      rw [Option.none_or, ite_self, same]
  | some monthFirst =>
      split
      · next monthEarlier =>
          rw [Option.some_or]
          exact findSome?_of_monthFirst perm readToo fun yearEarlier => by omega
      · next notEarlier =>
          cases read : DatePattern.slashed.read? characters with
          | none =>
              rw [findSome?_of_monthFirst perm readToo fun _ => read,
                findSome?_of_monthFirst listed readToo fun _ => read]
          | some yearFirst =>
              rw [findSome?_of_slashed perm read notEarlier,
                findSome?_of_slashed listed read (by decide)]

end Order

/-! ## Written dates -/

namespace DateFormat

variable {format other : DateFormat}

theorem write_pattern (format : DateFormat) (date : Date) :
    format.pattern.write date =
      format.first.written date ++ format.mark ::
        (format.second.written date ++ format.mark :: format.third.written date) := by
  simp [pattern, DatePattern.write_field, DatePattern.write]

def writtenCut (format : DateFormat) (date : Date) : DateCut where
  first := format.first.value date
  afterFirst := format.second.written date ++ format.mark :: format.third.written date
  second := format.second.value date
  afterSecond := format.third.written date
  third := format.third.value date

theorem cuts_write (format : DateFormat) (date : Date) :
    format.Cuts (format.pattern.write date) (format.writtenCut date) where
  first := by
    rw [write_pattern]
    exact format.first.take?_written date (format.noDigitAhead_mark _)
  second := format.second.take?_written date (format.noDigitAhead_mark _)
  third := by
    have ends : NoDigitAhead [] := nofun
    have taken := format.third.take?_written date ends
    rwa [List.append_nil] at taken

theorem read?_write (format : DateFormat) (date : Date) :
    format.pattern.read? (format.pattern.write date) = some date :=
  read?_pattern.mpr ⟨_, format.cuts_write date, rfl, rfl, rfl⟩

theorem eq_of_read?_write (member : format ∈ all) (memberToo : other ∈ all) {date dateToo : Date}
    (read : other.pattern.read? (format.pattern.write date) = some dateToo) : other = format := by
  -- The marks leave the two formats with slashes to be told apart, by where the year stands.
  have ⟨cut, cuts, _⟩ := read?_pattern.mp read
  have ⟨mark, same⟩ := cuts.unique (format.cuts_write date)
  subst same
  have first : format.first = .year → other.first = .year := by
    intro isYear
    have isWritten : format.pattern.write date =
        DateField.year.written date ++ other.mark :: (format.writtenCut date).afterFirst := by
      rw [write_pattern, isYear, mark]
      rfl
    exact DateField.eq_year_of_take? isWritten cuts.first
  have third : format.third = .year → other.third = .year := by
    intro isYear
    have isWritten : (format.writtenCut date).afterSecond = DateField.year.written date ++ [] := by
      rw [List.append_nil, ← isYear]
      rfl
    exact DateField.eq_year_of_take? isWritten cuts.third
  have known : ∀ format ∈ all, ∀ other ∈ all, other.mark = format.mark →
      (format.first = .year → other.first = .year) →
      (format.third = .year → other.third = .year) → other = format := by decide
  exact known format member other memberToo mark first third

theorem of_mem_write {date : Date} {character : Char}
    (member : character ∈ format.pattern.write date) :
    isDigit character = true ∨ character ∈ ['-', '+', '/', '.'] := by
  have ofField {field : DateField} (member : character ∈ field.written date) :
      isDigit character = true ∨ character ∈ ['-', '+', '/', '.'] := by
    rcases DateField.of_mem_written member with digit | minus | plus
    · exact .inl digit
    · simp [minus]
    · simp [plus]
  have ofMark (isMark : character = format.mark) :
      isDigit character = true ∨ character ∈ ['-', '+', '/', '.'] := by
    have known : ∀ mark ∈ ['-', '/', '.'], mark ∈ ['-', '+', '/', '.'] := by simp
    exact .inr (known character (isMark ▸ format.isMark))
  simp only [write_pattern, List.mem_append, List.mem_cons] at member
  rcases member with field | mark | field | mark | field
  · exact ofField field
  · exact ofMark mark
  · exact ofField field
  · exact ofMark mark
  · exact ofField field

theorem isBlank_of_mem_write {date : Date} {character : Char}
    (member : character ∈ format.pattern.write date) : isBlank character = false := by
  have known : ∀ character ∈ ['-', '+', '/', '.'], isBlank character = false := by
    simp
    decide
  rcases of_mem_write member with digit | mark
  · exact isBlank_of_isDigit digit
  · exact known character mark

theorem ne_t_of_mem_write {date : Date} {character : Char}
    (member : character ∈ format.pattern.write date) : character ≠ 'T' := by
  have known : ∀ character ∈ ['-', '+', '/', '.'], character ≠ 'T' := by simp
  rcases of_mem_write member with digit | mark
  · intro isT
    subst isT
    cases digit
  · exact known character mark

end DateFormat

end SheetPost
