import SheetPost.Csv.Record
import SheetPost.Proofs.Results

/-!
# Reading back what was written

The reader and the writer are machines of their own. A written field takes the reader from the start
of a field to a place behind it, where a comma or a line end closes the field; a written line takes
it from between two records to between two records, with one record read. Two things do not come
back as they were: a record without fields comes back with one field of nothing, and a mark of byte
order at the front of the file is no part of the first field.
-/

namespace SheetPost.Csv

variable {place : Place} {field : List Char} {fields : List (List Char)} {rest : List Char}

/-! ## The marks -/

def isMark (character : Char) : Bool :=
  [',', '"', '\n', '\r'].contains character

theorem needsQuotes_cons (character : Char) (field : List Char) :
    needsQuotes (character :: field) = (isMark character || needsQuotes field) := rfl

theorem isMark_eq_false {character : Char} (plain : isMark character = false) :
    character ≠ characterMarks.comma ∧ character ≠ characterMarks.quote ∧
      characterMarks.isLineEnd character = false := by
  simp only [isMark, List.contains_cons, List.contains_nil, Bool.or_eq_false_iff,
    beq_eq_false_iff_ne] at plain
  rcases plain with ⟨comma, quote, newline, carriageReturn, _⟩
  refine ⟨comma, quote, ?_⟩
  simp [Marks.isLineEnd, characterMarks, newline, carriageReturn]

theorem bareStep_plain (progress : Progress Char) {character : Char}
    (plain : isMark character = false) :
    bareStep characterMarks progress character = (none, progress.push .bare character) := by
  rcases isMark_eq_false plain with ⟨comma, _, lineEnd⟩
  rw [bareStep, if_neg comma, lineEnd]
  rfl

/-! ## Within a record -/

/-- The reader passes units that end no record and no line. -/
inductive Passes {α : Type} [DecidableEq α] (marks : Marks α) :
    Progress α → List α → Progress α → Prop
  | nil {progress : Progress α} : Passes marks progress [] progress
  | cons {progress next reached : Progress α} {unit : α} {units : List α}
      (inLine : ¬(progress.place = .betweenRecords ∧ marks.isLineEnd unit = true))
      (stepped : step marks progress unit = (none, next)) (rest : Passes marks next units reached) :
      Passes marks progress (unit :: units) reached

namespace Passes

variable {α : Type} [DecidableEq α] {marks : Marks α} {progress next reached : Progress α}
variable {unit : α} {units more : List α}

theorem append (passes : Passes marks progress units next)
    (later : Passes marks next more reached) : Passes marks progress (units ++ more) reached := by
  induction passes with
  | nil => exact later
  | cons inLine stepped _ induction => exact .cons inLine stepped (induction later)

theorem recordsFrom (passes : Passes marks progress units next) (rest : List α) :
    recordsFrom marks progress (units ++ rest) = Csv.recordsFrom marks next rest := by
  induction passes with
  | nil => rfl
  | cons _ stepped _ induction =>
      rw [List.cons_append, Csv.recordsFrom, stepped]
      exact induction

end Passes

/-! ## Behind a field -/

def Place.closes : Place → Bool
  | .fieldStart | .bare | .afterQuote => true
  | .betweenRecords | .quoted => false

theorem step_newline (closes : place.closes = true) :
    step characterMarks ⟨place, field, fields⟩ '\n' =
      (some (Progress.mk place field fields).record, .start) := by
  cases place <;> first | rfl | cases closes

theorem recordsFrom_newline (closes : place.closes = true) :
    recordsFrom characterMarks ⟨place, field, fields⟩ ('\n' :: rest) =
      (Progress.mk place field fields).record :: recordsFrom characterMarks .start rest := by
  rw [recordsFrom, step_newline closes]

theorem passes_comma (open' : place ≠ .quoted) (field : List Char) (fields : List (List Char)) :
    Passes characterMarks ⟨place, field.reverse, fields⟩ [',']
      ⟨.fieldStart, [], field :: fields⟩ := by
  have closed : step characterMarks ⟨place, field.reverse, fields⟩ ',' =
      (none, ⟨.fieldStart, [], field.reverse.reverse :: fields⟩) := by
    cases place <;> first | rfl | exact absurd rfl open'
  rw [List.reverse_reverse] at closed
  exact .cons (fun both => absurd both.2 (by decide)) closed .nil

/-! ## Every record has a field -/

theorem Progress.record_ne_nil {α : Type} (progress : Progress α) : progress.record ≠ [] := by
  simp [Progress.record]

section Nonempty

variable {α : Type} [DecidableEq α] {marks : Marks α}

theorem ne_nil_of_step {progress next : Progress α} {unit : α} {record : List (List α)}
    (stepped : step marks progress unit = (some record, next)) : record ≠ [] := by
  have bare : ∀ progress, bareStep marks progress unit = (some record, next) → record ≠ [] := by
    intro progress stepped
    unfold bareStep at stepped
    split at stepped
    · cases stepped
    · split at stepped
      · cases stepped
        exact progress.record_ne_nil
      · cases stepped
  unfold step at stepped
  split at stepped
  · split at stepped
    · cases stepped
    · split at stepped
      · cases stepped
      · exact bare _ stepped
  · split at stepped
    · cases stepped
    · exact bare _ stepped
  · exact bare _ stepped
  · split at stepped <;> cases stepped
  · split at stepped
    · cases stepped
    · exact bare _ stepped

theorem ne_nil_of_mem_recordsFrom {progress : Progress α} {units : List α}
    {record : List (List α)} (member : record ∈ recordsFrom marks progress units) :
    record ≠ [] := by
  induction units generalizing progress with
  | nil =>
      unfold recordsFrom at member
      split at member
      · cases member
      · exact List.mem_singleton.mp member ▸ progress.record_ne_nil
  | cons unit units induction =>
      unfold recordsFrom at member
      split at member
      · next stepped =>
          rcases List.mem_cons.mp member with rfl | later
          · exact ne_nil_of_step stepped
          · exact induction later
      · exact induction member

end Nonempty

theorem ne_nil_of_mem_recordsOfText {text : String} {record : List String}
    (member : record ∈ recordsOfText text) : record ≠ [] := by
  rcases List.mem_map.mp member with ⟨fields, isRecord, rfl⟩
  intro none
  exact ne_nil_of_mem_recordsFrom isRecord (List.map_eq_nil_iff.mp none)

theorem ne_nil_of_mem_recordsOfBytes? {bytes : List UInt8} {found : List (List String)}
    (read : recordsOfBytes? bytes = some found) {record : List String} (member : record ∈ found) :
    record ≠ [] := by
  rcases exists_of_mem_mapM read member with ⟨fields, isRecord, readFields⟩
  rintro rfl
  cases fields with
  | nil => exact ne_nil_of_mem_recordsFrom isRecord rfl
  | cons field fields =>
      rw [List.mapM_cons] at readFields
      rcases Option.bind_eq_some_iff.mp readFields with ⟨first, _, later⟩
      rcases Option.bind_eq_some_iff.mp later with ⟨rest, _, same⟩
      cases same

/-! ## Fields -/

theorem passes_quoted (field read : List Char) (fields : List (List Char)) :
    Passes characterMarks ⟨.quoted, read, fields⟩
      ((field.flatMap fun character => if character = '"' then ['"', '"'] else [character]) ++
        ['"'])
      ⟨.afterQuote, field.reverse ++ read, fields⟩ := by
  induction field generalizing read with
  | nil => exact .cons (by simp) rfl .nil
  | cons character field induction =>
      rw [List.flatMap_cons, List.append_assoc, List.reverse_cons, List.append_assoc]
      by_cases quote : character = '"'
      · subst quote
        exact .cons (by simp) rfl (.cons (by simp) rfl (induction _))
      · rw [if_neg quote]
        exact .cons (by simp) (if_neg quote) (induction _)

theorem passes_bare (field : List Char) (plain : needsQuotes field = false) (read : List Char)
    (fields : List (List Char)) :
    Passes characterMarks ⟨.bare, read, fields⟩ field
      ⟨.bare, field.reverse ++ read, fields⟩ := by
  induction field generalizing read with
  | nil => exact .nil
  | cons character field induction =>
      rw [needsQuotes_cons, Bool.or_eq_false_iff] at plain
      rw [List.reverse_cons, List.append_assoc]
      exact .cons (by simp) (bareStep_plain _ plain.1) (induction plain.2 _)

theorem step_plain {character : Char} (begins : place = .betweenRecords ∨ place = .fieldStart)
    (plain : isMark character = false) :
    step characterMarks ⟨place, [], fields⟩ character =
      (none, ⟨.bare, [character], fields⟩) := by
  rcases isMark_eq_false plain with ⟨_, quote, lineEnd⟩
  have bare := bareStep_plain ⟨place, [], fields⟩ plain
  rcases begins with rfl | rfl
  · simp only [step, lineEnd, if_neg quote, bare]
    rfl
  · simp only [step, if_neg quote, bare]
    rfl

/-- A written field is read as the field. The reader stands behind it then, unless nothing was
written and there is no record yet. -/
theorem passes_writtenField (begins : place = .betweenRecords ∨ place = .fieldStart)
    (field : List Char) (fields : List (List Char)) :
    ∃ reached : Place,
      (reached.closes = true ∨ reached = .betweenRecords ∧ place = .betweenRecords ∧
        writtenField field = []) ∧
      Passes characterMarks ⟨place, [], fields⟩ (writtenField field)
        ⟨reached, field.reverse, fields⟩ := by
  cases quotes : needsQuotes field with
  | true =>
      refine ⟨.afterQuote, .inl rfl, ?_⟩
      rw [writtenField, if_pos quotes, List.cons_append]
      have inside := passes_quoted field [] fields
      rw [List.append_nil] at inside
      rcases begins with rfl | rfl
      · exact .cons (fun both => absurd both.2 (by decide)) rfl inside
      · exact .cons (by simp) rfl inside
  | false =>
      have bare : writtenField field = field := by
        rw [writtenField, quotes]
        rfl
      rw [bare]
      cases field with
      | nil =>
          refine ⟨place, ?_, .nil⟩
          rcases begins with rfl | rfl
          · exact .inr ⟨rfl, rfl, rfl⟩
          · exact .inl rfl
      | cons character field =>
          rw [needsQuotes_cons, Bool.or_eq_false_iff] at quotes
          refine ⟨.bare, .inl rfl, .cons ?_ (step_plain begins quotes.1) ?_⟩
          · rw [(isMark_eq_false quotes.1).2.2]
            simp
          · rw [List.reverse_cons]
            exact passes_bare field quotes.2 [character] fields

/-! ## Records -/

def line (fields : List (List Char)) : List Char :=
  [','].intercalate (fields.map writtenField)

theorem line_cons (field : List Char) (more : List (List Char)) :
    line (field :: more) =
      writtenField field ++ more.flatMap fun next => ',' :: writtenField next := by
  induction more generalizing field with
  | nil => rfl
  | cons next more induction =>
      have joined : line (field :: next :: more) =
          writtenField field ++ ',' :: line (next :: more) := by
        rw [line, List.map_cons, List.map_cons, List.intercalate_cons_cons, List.append_assoc]
        rfl
      rw [joined, induction, List.flatMap_cons]
      rfl

theorem line_cons_cons (field next : List Char) (more : List (List Char)) :
    line (field :: next :: more) = writtenField field ++ ',' :: line (next :: more) := by
  rw [line_cons, line_cons, List.flatMap_cons]
  rfl

theorem passes_line (field : List Char) (more fields : List (List Char))
    (begins : place = .betweenRecords ∧ line (field :: more) ≠ [] ∨ place = .fieldStart) :
    ∃ reached : Progress Char, reached.place.closes = true ∧
      reached.record = fields.reverse ++ field :: more ∧
      Passes characterMarks ⟨place, [], fields⟩ (line (field :: more)) reached := by
  rcases passes_writtenField (begins.imp_left And.left) field fields with
    ⟨reached, stands, passes⟩
  induction more generalizing place field fields reached with
  | nil =>
      have one : line [field] = writtenField field := List.append_nil _
      rw [one] at begins ⊢
      refine ⟨_, ?_, by simp [Progress.record], passes⟩
      rcases stands with closes | ⟨_, between, nothing⟩
      · exact closes
      · rcases begins with ⟨_, something⟩ | start
        · exact absurd nothing something
        · cases between.symm.trans start
  | cons next more induction =>
      have outside : reached ≠ .quoted := by
        rintro rfl
        rcases stands with closes | ⟨between, _⟩
        · cases closes
        · cases between
      rcases passes_writtenField (.inr rfl) next (field :: fields) with
        ⟨later, standsLater, passesLater⟩
      rcases induction next _ (.inr rfl) later standsLater passesLater with
        ⟨last, closes, record, passesRest⟩
      refine ⟨last, closes, ?_, ?_⟩
      · rw [record, List.reverse_cons, List.append_assoc]
        rfl
      · rw [line_cons_cons]
        exact passes.append ((passes_comma outside field fields).append passesRest)

theorem recordsFrom_line (field : List Char) (more fields : List (List Char))
    (begins : place = .betweenRecords ∧ line (field :: more) ≠ [] ∨ place = .fieldStart) :
    recordsFrom characterMarks ⟨place, [], fields⟩ (line (field :: more) ++ '\n' :: rest) =
      (fields.reverse ++ field :: more) :: recordsFrom characterMarks .start rest := by
  rcases passes_line field more fields begins with ⟨reached, closes, record, passes⟩
  rw [passes.recordsFrom, recordsFrom_newline closes]
  exact congrArg (· :: _) record

/-- What is read back of a record: one without fields comes back with a field of nothing. -/
def readBack (fields : List (List Char)) : List (List Char) :=
  if fields = [] then [[]] else fields

theorem line_eq_nil {fields : List (List Char)} (empty : line fields = []) :
    fields = [] ∨ fields = [[]] := by
  rcases fields with _ | ⟨field, _ | ⟨next, more⟩⟩
  · exact .inl rfl
  · have nothing : writtenField field = [] := (List.append_nil _).symm.trans empty
    rw [writtenField] at nothing
    split at nothing
    · cases nothing
    · exact .inr (congrArg (fun field => [field]) nothing)
  · rw [line_cons_cons] at empty
    exact absurd (List.append_eq_nil_iff.mp empty).2 (List.cons_ne_nil _ _)

theorem writtenRecord_of_line {fields : List (List Char)} (something : line fields ≠ []) :
    writtenRecord fields = line fields ++ ['\n'] := by
  change (if (line fields).isEmpty then _ else line fields) ++ _ = _
  rw [if_neg (by rw [List.isEmpty_iff]; exact something)]

theorem recordsFrom_writtenRecord (fields : List (List Char)) (rest : List Char) :
    recordsFrom characterMarks .start (writtenRecord fields ++ rest) =
      readBack fields :: recordsFrom characterMarks .start rest := by
  by_cases empty : line fields = []
  · rcases line_eq_nil empty with rfl | rfl <;> rfl
  · rw [writtenRecord_of_line empty, List.append_assoc]
    cases fields with
    | nil => exact absurd rfl empty
    | cons field more => exact recordsFrom_line field more [] (.inl ⟨rfl, empty⟩)

theorem records_flatMap_writtenRecord (records' : List (List (List Char))) :
    records characterMarks (records'.flatMap writtenRecord) = records'.map readBack := by
  induction records' with
  | nil => rfl
  | cons fields records' induction =>
      rw [List.flatMap_cons, records, recordsFrom_writtenRecord, List.map_cons, ← induction]
      rfl

/-! ## The mark of byte order -/

/-- The records without a mark of byte order at the front. A field that stands in quotes keeps it,
since the quote comes first; a record of the mark alone leaves an empty line, which is no record. -/
def withoutMark : List (List (List Char)) → List (List (List Char))
  | (('\uFEFF' :: field) :: fields) :: records =>
      if needsQuotes field then (('\uFEFF' :: field) :: fields) :: records
      else if field = [] ∧ fields = [] then records
      else (field :: fields) :: records
  | records => records

/-- The records begin with a field that loses its mark. -/
def Marked (written : List (List (List Char))) : Prop :=
  ∃ field fields rest,
    written = (('\uFEFF' :: field) :: fields) :: rest ∧ needsQuotes field = false

theorem withoutMark_of_not_marked {written : List (List (List Char))} (unmarked : ¬Marked written) :
    withoutMark written = written := by
  unfold withoutMark
  split
  · next field fields rest =>
      cases quotes : needsQuotes field with
      | true => rfl
      | false => exact absurd ⟨field, fields, rest, rfl, quotes⟩ unmarked
  · rfl

theorem writtenField_mark {field : List Char} (plain : needsQuotes field = false) :
    writtenField ('\uFEFF' :: field) = '\uFEFF' :: writtenField field := by
  have plainMark : needsQuotes ('\uFEFF' :: field) = false := plain
  rw [writtenField, writtenField, plain, plainMark]
  rfl

/-- A written record begins with a mark of byte order only where its first field does and stands
there without quotes. -/
theorem mark_of_writtenRecord {fields : List (List Char)} {rest tail : List Char}
    (begins : writtenRecord fields ++ rest = '\uFEFF' :: tail) :
    ∃ field more, fields = ('\uFEFF' :: field) :: more ∧ needsQuotes field = false := by
  have written : writtenRecord fields =
      (if (line fields).isEmpty then ['"', '"'] else line fields) ++ ['\n'] := rfl
  rw [written] at begins
  rcases fields with _ | ⟨field, more⟩
  · cases begins
  · rw [line_cons] at begins
    cases quotes : needsQuotes field with
    | true =>
        rw [writtenField, if_pos quotes] at begins
        cases begins
    | false =>
        rw [writtenField, quotes] at begins
        rcases field with _ | ⟨character, field⟩
        · cases more <;> cases begins
        · cases begins
          exact ⟨field, more, rfl, quotes⟩

theorem writtenRecord_mark {field : List Char} (plain : needsQuotes field = false)
    (more : List (List Char)) :
    writtenRecord (('\uFEFF' :: field) :: more) = '\uFEFF' :: (line (field :: more) ++ ['\n']) := by
  have marked : line (('\uFEFF' :: field) :: more) = '\uFEFF' :: line (field :: more) := by
    rw [line_cons, line_cons, writtenField_mark plain]
    rfl
  have something : line (('\uFEFF' :: field) :: more) ≠ [] := by
    rw [marked]
    exact List.cons_ne_nil _ _
  rw [writtenRecord_of_line something, marked]
  rfl

theorem dropByteOrderMark_of_not_marked {written : List (List (List Char))}
    (unmarked : ¬Marked written) :
    dropByteOrderMark (written.flatMap writtenRecord) = written.flatMap writtenRecord := by
  unfold dropByteOrderMark
  split
  · next rest text =>
      rcases written with _ | ⟨fields, written⟩
      · cases text
      · rcases mark_of_writtenRecord text with ⟨field, more, rfl, plain⟩
        exact absurd ⟨field, more, written, rfl, plain⟩ unmarked
  · rfl

theorem dropByteOrderMark_marked {field : List Char} (plain : needsQuotes field = false)
    (fields : List (List Char)) (written : List (List (List Char))) :
    dropByteOrderMark (((('\uFEFF' :: field) :: fields) :: written).flatMap writtenRecord) =
      line (field :: fields) ++ '\n' :: written.flatMap writtenRecord := by
  rw [List.flatMap_cons, writtenRecord_mark plain, List.cons_append, List.append_assoc]
  rfl

theorem records_dropByteOrderMark (written : List (List (List Char))) :
    records characterMarks (dropByteOrderMark (written.flatMap writtenRecord)) =
      (withoutMark written).map readBack := by
  by_cases marked : Marked written
  · rcases marked with ⟨field, fields, rest, rfl, plain⟩
    rw [dropByteOrderMark_marked plain, withoutMark, plain]
    by_cases alone : field = [] ∧ fields = []
    · rcases alone with ⟨rfl, rfl⟩
      exact records_flatMap_writtenRecord rest
    · have something : line (field :: fields) ≠ [] := by
        intro empty
        rcases line_eq_nil empty with none | one
        · cases none
        · exact alone (List.cons_eq_cons.mp one)
      have whole := records_flatMap_writtenRecord ((field :: fields) :: rest)
      rw [List.flatMap_cons, writtenRecord_of_line something, List.append_assoc] at whole
      rw [if_neg Bool.false_ne_true, if_neg alone]
      exact whole
  · rw [dropByteOrderMark_of_not_marked marked, withoutMark_of_not_marked marked,
      records_flatMap_writtenRecord]

def reread (written : List (List String)) : List (List String) :=
  ((withoutMark (written.map (·.map (·.toList)))).map readBack).map (·.map String.ofList)

theorem recordsOfText_textOfRecords (written : List (List String)) :
    recordsOfText (textOfRecords written) = reread written := by
  rw [recordsOfText, textOfRecords, String.toList_ofList, reread, ← records_dropByteOrderMark,
    List.flatMap_map]

end SheetPost.Csv
