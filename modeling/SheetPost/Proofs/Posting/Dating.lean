import SheetPost.Proofs.Calendar.Formats
import SheetPost.Proofs.Posting.Record
import SheetPost.Proofs.Store.SheetDirectory

namespace SheetPost

def DatePattern.readText? (pattern : DatePattern) (text : String) : Option Date :=
  pattern.read? (text.toList.takeWhile (· != 'T'))

theorem Date.read?_eq_findSome? (text : String) :
    read? text = DatePattern.inSheets.findSome? (·.readText? text) := rfl

def NewTransaction.PostedUnder (transaction : NewTransaction) (date : Date) : Prop :=
  ∃ fields, (SheetRecord.create transaction).body = some (.record fields) ∧
    fields.lookup "date" = some (.text date.text)

theorem NewTransaction.postedUnder_iff {transaction : NewTransaction} {date : Date} :
    transaction.PostedUnder date ↔ transaction.date = date.text := by
  constructor
  · intro ⟨fields, body, found⟩
    cases body
    have sent : some (Json.text transaction.date) = some (Json.text date.text) := found
    simpa using sent
  · intro same
    exact ⟨_, rfl, by rw [← same]; rfl⟩

theorem NewTransaction.postedUnder_of_date? {cells : List Cell} {transaction : NewTransaction}
    {date : Date} (made : SheetRecord.ofRow? cells = some transaction)
    (read : (cellAt cells 3).date? = some date) : transaction.PostedUnder date :=
  postedUnder_iff.mpr ((readFrom_of_ofRow? made).date.understood date read)

/-! ## Texts that denote a date -/

theorem Date.read?_of_readText? {text : String} {pattern : DatePattern} {date : Date}
    (member : pattern ∈ DatePattern.inSheets) (read : pattern.readText? text = some date) :
    Date.read? text = some
      (if pattern = .monthFirst then (DatePattern.slashed.readText? text).getD date else date) := by
  have listed : DatePattern.inSheets.Perm DatePattern.inSheets := .refl _
  rw [Date.read?_eq_findSome?]
  split
  · next isMonthFirst =>
      subst isMonthFirst
      cases yearFirst : DatePattern.slashed.readText? text with
      | none => exact findSome?_of_monthFirst listed read fun _ => yearFirst
      | some date => exact findSome?_of_slashed listed yearFirst (by decide)
  · next notMonthFirst =>
      apply findSome?_of_read? listed member read
      intro other both earlier
      rcases both with ⟨_, isMonthFirst⟩ | ⟨isMonthFirst, isSlashed⟩
      · exact absurd isMonthFirst notMonthFirst
      · subst isMonthFirst isSlashed
        exact absurd earlier (by decide)

/-- What the formats of a sheet make of a text. -/
structure Date.ReadApart (text : String) : Prop where
  apart : ∀ pattern ∈ DatePattern.inSheets, ∀ other ∈ DatePattern.inSheets, pattern ≠ other →
    (pattern.readText? text).isSome → (other.readText? text).isSome → BothSlashed pattern other
  turned : ∀ date dateToo, DatePattern.slashed.readText? text = some date →
    DatePattern.monthFirst.readText? text = some dateToo →
      Turned date dateToo ∧ (date = dateToo ↔ date.year = date.month ∧ date.month = date.day)
  ordered : ∀ order : List DatePattern, order.Perm DatePattern.inSheets →
    order.findSome? (·.readText? text) =
      if order.idxOf DatePattern.monthFirst < order.idxOf DatePattern.slashed then
        (DatePattern.monthFirst.readText? text).or (Date.read? text)
      else Date.read? text
  decided : ∀ pattern ∈ DatePattern.inSheets, ∀ date, pattern.readText? text = some date →
    Date.read? text = some
      (if pattern = .monthFirst then (DatePattern.slashed.readText? text).getD date else date)
  /-- A transaction is posted under what its text denotes in the format that it is typed in, with
  the same exception. -/
  posted : ∀ (cells : List Cell) (value : String) (transaction : NewTransaction),
    cellAt cells 3 = .text value → trim value = text →
    SheetRecord.ofRow? cells = some transaction →
    ∀ pattern ∈ DatePattern.inSheets, ∀ date, pattern.readText? text = some date →
      transaction.PostedUnder
        (if pattern = .monthFirst then (DatePattern.slashed.readText? text).getD date else date)

/-- Every text denotes one date at most, whatever the order of the formats, except that one with
slashes may be read with the year first or with the month first. -/
theorem Date.formats_read_apart (text : String) : Date.ReadApart text where
  apart := by
    intro pattern member other memberToo different reads readsToo
    have ⟨date, read⟩ := Option.isSome_iff_exists.mp reads
    have ⟨dateToo, readToo⟩ := Option.isSome_iff_exists.mp readsToo
    exact bothSlashed_of_read member memberToo different read readToo
  turned := by
    intro date dateToo read readToo
    have turned := turned_of_read read readToo
    exact ⟨turned, turned.eq_iff⟩
  ordered := fun order perm => findSome?_read?_of_perm perm _
  decided := fun pattern member date read => Date.read?_of_readText? member read
  posted := by
    intro cells value transaction isText trimmed made pattern member date read
    apply NewTransaction.postedUnder_of_date? made
    rw [isText, Cell.date?, trimmed]
    exact Date.read?_of_readText? member read

def typedRow (date : String) : List Cell :=
  [.number (.ofNat 5), .text "food", .empty, .text date]

theorem Date.formats_read_apart_thirteenth :
    DatePattern.inSheets.reverse.findSome? (·.readText? "2/13/2025T10:00") =
      Date.read? "2/13/2025T10:00" ∧
    ∃ transaction : NewTransaction,
      SheetRecord.ofRow? (typedRow " 2/13/2025T10:00") = some transaction ∧
      transaction.PostedUnder ⟨2025, 2, 13, by decide⟩ := by
  have rules := Date.formats_read_apart "2/13/2025T10:00"
  have made : SheetRecord.ofRow? (typedRow " 2/13/2025T10:00") =
      some (⟨.ofNat 5, "food", "", "2025-02-13"⟩ : NewTransaction) := by decide +kernel
  have read : DatePattern.monthFirst.readText? "2/13/2025T10:00" =
      some ⟨2025, 2, 13, by decide⟩ := by decide +kernel
  have yearFirst : DatePattern.slashed.readText? "2/13/2025T10:00" = none := by decide +kernel
  have posted := rules.posted (typedRow " 2/13/2025T10:00") " 2/13/2025T10:00" _ rfl
    (by decide +kernel) made .monthFirst (by decide) _ read
  rw [if_pos rfl, yearFirst, Option.getD_none] at posted
  refine ⟨?_, _, made, posted⟩
  rw [rules.ordered _ (List.reverse_perm _)]
  decide +kernel

/-- With a year of two digits the two formats with slashes read two dates. -/
theorem Date.slashes_read_two_dates :
    ∃ yearFirst monthFirst : Date,
      DatePattern.slashed.readText? "1/2/25" = some yearFirst ∧
      DatePattern.monthFirst.readText? "1/2/25" = some monthFirst ∧
      yearFirst ≠ monthFirst ∧
      Date.read? "1/2/25" = some yearFirst ∧
      DatePattern.inSheets.reverse.findSome? (·.readText? "1/2/25") = some monthFirst ∧
      ∃ transaction : NewTransaction,
        SheetRecord.ofRow? (typedRow "1/2/25") = some transaction ∧
        transaction.PostedUnder yearFirst ∧ ¬transaction.PostedUnder monthFirst := by
  refine ⟨⟨1, 2, 25, by decide⟩, ⟨25, 1, 2, by decide⟩, by decide +kernel, by decide +kernel,
    by decide, by decide +kernel, by decide +kernel,
    ⟨.ofNat 5, "food", "", "0001-02-25"⟩, by decide +kernel, ?_, ?_⟩
  · rw [NewTransaction.postedUnder_iff]
    decide +kernel
  · rw [NewTransaction.postedUnder_iff]
    decide +kernel

/-! ## Dates that have been written -/

section Written

variable {format other : DateFormat} {date : Date} {behind : List Char}

theorem DateFormat.takeWhile_write (timed : ∀ sign ∈ behind.head?, sign = 'T') :
    (String.ofList (format.pattern.write date ++ behind)).toList.takeWhile (· != 'T') =
      format.pattern.write date := by
  have none : behind.takeWhile (· != 'T') = [] := by
    cases behind with
    | nil => rfl
    | cons head tail => simp [timed head rfl]
  have all : ∀ character ∈ format.pattern.write date, (character != 'T') = true := by
    intro character member
    simpa using DateFormat.ne_t_of_mem_write member
  rw [String.toList_ofList, List.takeWhile_append_of_pos all, none, List.append_nil]

theorem DateFormat.readText?_write (timed : ∀ sign ∈ behind.head?, sign = 'T') :
    format.pattern.readText? (String.ofList (format.pattern.write date ++ behind)) = some date := by
  rw [DatePattern.readText?, takeWhile_write timed, read?_write]

theorem DateFormat.readText?_write_other (member : format ∈ all) (memberToo : other ∈ all)
    (different : other ≠ format) (timed : ∀ sign ∈ behind.head?, sign = 'T') :
    other.pattern.readText? (String.ofList (format.pattern.write date ++ behind)) = none := by
  rw [DatePattern.readText?, takeWhile_write timed]
  cases read : other.pattern.read? (format.pattern.write date) with
  | none => rfl
  | some dateToo => exact absurd (eq_of_read?_write member memberToo read) different

theorem Date.read?_write (member : format ∈ DateFormat.all)
    (timed : ∀ sign ∈ behind.head?, sign = 'T') :
    Date.read? (String.ofList (format.pattern.write date ++ behind)) = some date := by
  have listed : format.pattern ∈ DatePattern.inSheets :=
    DateFormat.mem_inSheets_iff.mpr ⟨format, member, rfl⟩
  rw [Date.read?_of_readText? listed (DateFormat.readText?_write timed)]
  split
  · next isMonthFirst =>
      have different : DateFormat.slashed ≠ format := by
        intro same
        subst same
        exact absurd isMonthFirst (by decide)
      rw [← DateFormat.pattern_slashed,
        DateFormat.readText?_write_other member (by decide) different timed, Option.getD_none]
  · rfl

end Written

/-! ## Dates in cells -/

variable {cells : List Cell} {column : Nat} {date : Date}

theorem requiredDate?_of_date? (truthy : (cellAt cells column).isTruthy = true)
    (read : (cellAt cells column).date? = some date) :
    requiredDate? cells column = some date.text := by
  rw [requiredDate?, if_pos truthy, read]

theorem Cell.reread_date (date : Date) : (Cell.date date).reread = .text date.text := by
  rw [reread, shown, ofText, if_neg date.text_ne_empty]

theorem Cell.isTruthy_text_of_date (date : Date) : (Cell.text date.text).isTruthy = true := by
  have truthy : (Cell.date date).isTruthy = true := rfl
  have visible : blank (Cell.date date).shown = false := blank_shown truthy
  rw [shown] at visible
  rw [isTruthy, visible, Bool.not_false]

theorem Cell.date?_text_of_date (date : Date) : (Cell.text date.text).date? = some date := by
  have isIso : DateFormat.hyphened.pattern = DatePattern.iso := rfl
  have visible : ∀ character ∈ DatePattern.iso.write date, isBlank character = false := by
    intro character member
    rw [← isIso] at member
    exact DateFormat.isBlank_of_mem_write member
  have read : Date.read? (String.ofList (DateFormat.hyphened.pattern.write date ++ [])) =
      some date := Date.read?_write (by decide) nofun
  rw [List.append_nil, isIso] at read
  rw [date?, trim, Date.text, String.toList_ofList, trimmed_of_visible visible, read]

theorem Date.head?_text (date : Date) : date.text.toList.head? ≠ some '\uFEFF' := by
  intro front
  have member : '\uFEFF' ∈ DateFormat.hyphened.pattern.write date := by
    have member := List.mem_of_mem_head? front
    rwa [Date.text, String.toList_ofList] at member
  rcases DateFormat.of_mem_write member with digit | sign
  · cases digit
  · exact absurd sign (by decide)

/-- What a date is read as where it has been written. -/
structure Date.ReadsBack (date : Date) : Prop where
  written : ∀ pattern ∈ DatePattern.inSheets, ∀ behind : List Char,
    (∀ sign ∈ behind.head?, sign = 'T') →
      Date.read? (String.ofList (pattern.write date ++ behind)) = some date
  apart : ∀ pattern ∈ DatePattern.inSheets, ∀ other ∈ DatePattern.inSheets, other ≠ pattern →
    ∀ behind : List Char, (∀ sign ∈ behind.head?, sign = 'T') →
      other.readText? (String.ofList (pattern.write date ++ behind)) = none
  cell : (Cell.ofText (Cell.date date).shown).date? = some date
  /-- A cell that is stored as a text in a file of records is read as the date, in the row that it
  was in unless the first row is lost. -/
  stored : ∀ (table : Table) (disk : Disk) (path : String) (row : RowPosition) (column : Nat),
    disk.find path = .ok (.file (SheetDirectory.contentOf table)) →
    table.get row column = .date date →
    ∃ loaded place, SheetDirectory.loadSheet disk path table.name = .ok loaded ∧
      (place = row ∨ table.HeadedByMark ∧ place.above + 1 = row.above) ∧
      (loaded.get place column).date? = some date ∧
      requiredDate? (table.rows[row.above]?.getD []) column = some date.text ∧
      requiredDate? (loaded.rows[place.above]?.getD []) column = some date.text
  posted : ∀ (cells : List Cell) (transaction : NewTransaction),
    (cellAt cells 3).date? = some date → SheetRecord.ofRow? cells = some transaction →
      transaction.PostedUnder date

/-- Every date of the calendar is read as itself wherever it has been written. -/
theorem Date.readsBack (date : Date) : date.ReadsBack where
  written := by
    intro pattern member behind timed
    rcases DateFormat.mem_inSheets_iff.mp member with ⟨format, isFormat, isPattern⟩
    subst isPattern
    exact Date.read?_write isFormat timed
  apart := by
    intro pattern member other memberToo different behind timed
    rcases DateFormat.mem_inSheets_iff.mp member with ⟨format, isFormat, isPattern⟩
    rcases DateFormat.mem_inSheets_iff.mp memberToo with ⟨formatToo, isFormatToo, isPatternToo⟩
    subst isPattern isPatternToo
    apply DateFormat.readText?_write_other isFormat isFormatToo _ timed
    intro same
    exact different (congrArg DateFormat.pattern same)
  cell := by
    rw [← Cell.reread, Cell.reread_date, Cell.date?_text_of_date]
  stored := by
    intro table disk path row column found isDate
    have filled : (table.get row column).shown ≠ "" := isDate ▸ date.text_ne_empty
    have plain : (table.get row column).shown.toList.head? ≠ some '\uFEFF' :=
      isDate ▸ date.head?_text
    rcases Table.exists_get_reread filled plain with ⟨place, isPlace, back⟩
    rw [isDate, Cell.reread_date] at back
    have read : (table.reread.get place column).date? = some date := by
      rw [back, Cell.date?_text_of_date]
    refine ⟨table.reread, place, SheetDirectory.loadSheet_contentOf found, isPlace, read, ?_, ?_⟩
    · apply requiredDate?_of_date?
      · exact congrArg Cell.isTruthy isDate
      · exact congrArg Cell.date? isDate
    · apply requiredDate?_of_date?
      · exact (congrArg Cell.isTruthy back).trans (Cell.isTruthy_text_of_date date)
      · exact read
  posted := fun _ _ read made => NewTransaction.postedUnder_of_date? made read

/-- A leap day of a year with a sign, written with the month first, and in a file of records. -/
theorem Date.readsBack_leapDay :
    let leapDay : Date := ⟨12000, 2, 29, by decide⟩
    let table : Table := ⟨"Trips", [[.text "start"], [.date leapDay]]⟩
    Date.read? "02/29/+12000T08:30" = some leapDay ∧
    DatePattern.slashed.readText? "02/29/+12000T08:30" = none ∧
    ∃ loaded place,
      SheetDirectory.loadSheet ⟨[], [(["Trips.csv"], .file (SheetDirectory.contentOf table))]⟩
        "/Trips.csv" "Trips" = .ok loaded ∧
      (loaded.get place 0).date? = some leapDay := by
  intro leapDay table
  have rules := leapDay.readsBack
  have same : String.ofList (DatePattern.monthFirst.write leapDay ++
      ['T', '0', '8', ':', '3', '0']) = "02/29/+12000T08:30" := by decide +kernel
  have timed : ∀ sign ∈ ['T', '0', '8', ':', '3', '0'].head?, sign = 'T' := by simp
  have read := rules.written .monthFirst (by decide) _ timed
  have apart := rules.apart .monthFirst (by decide) .slashed (by decide) (by decide) _ timed
  rw [same] at read apart
  have ⟨loaded, place, loads, _, back, _⟩ := rules.stored table
    ⟨[], [(["Trips.csv"], .file (SheetDirectory.contentOf table))]⟩ "/Trips.csv" ⟨1⟩ 0
    (by decide +kernel) rfl
  exact ⟨read, apart, loaded, place, loads, back⟩

end SheetPost
