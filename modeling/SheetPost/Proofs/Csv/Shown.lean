import SheetPost.Proofs.Csv.RoundTrip

namespace SheetPost.Csv

section Shown

variable {α : Type} [DecidableEq α] (marks : Marks α)

/-- The rows from here on: the records, and an empty row for every empty line. A carriage return and
the newline behind it end one line, so it is told whether a carriage return came last. -/
def shownFrom (progress : Progress α) (returned : Bool) : List α → List (List (List α))
  | [] => if progress.place = .betweenRecords then [] else [progress.record]
  | unit :: rest =>
      if progress.place = .betweenRecords ∧ marks.isLineEnd unit = true then
        if unit = marks.newline ∧ returned = true then shownFrom progress false rest
        else [] :: shownFrom progress (unit = marks.carriageReturn) rest
      else match step marks progress unit with
        | (some record, next) => record :: shownFrom next (unit = marks.carriageReturn) rest
        | (none, next) => shownFrom next false rest

end Shown

def shownRows (text : String) : List (List String) :=
  (shownFrom characterMarks .start false (dropByteOrderMark text.toList)).map (·.map String.ofList)

example : shownRows "a\r\n\r\n\"b\n\nc\",d\n\n" = [["a"], [], ["b\n\nc", "d"], []] := by
  decide +kernel

/-! ## What is read of them -/

section Read

variable {α : Type} [DecidableEq α] {marks : Marks α} {progress reached : Progress α}
variable {returned : Bool} {unit : α} {units : List α}

theorem step_lineEnd (between : progress.place = .betweenRecords)
    (ends : marks.isLineEnd unit = true) : step marks progress unit = (none, progress) := by
  simp [step, between, ends]

theorem filter_shownFrom (progress : Progress α) (returned : Bool) (units : List α) :
    (shownFrom marks progress returned units).filter (!·.isEmpty) =
      recordsFrom marks progress units := by
  induction units generalizing progress returned with
  | nil =>
      unfold shownFrom recordsFrom
      split
      · rfl
      · simp [progress.record_ne_nil]
  | cons unit units induction =>
      unfold shownFrom recordsFrom
      split
      · next empty =>
          rw [step_lineEnd empty.1 empty.2]
          split
          · exact induction progress _
          · exact induction progress _
      · cases stepped : step marks progress unit with
        | mk ended next =>
            cases ended with
            | none => exact induction next _
            | some record =>
                rw [List.filter_cons_of_pos (by simp [ne_nil_of_step stepped])]
                exact congrArg (record :: ·) (induction next _)

theorem Passes.shownFrom (passes : Passes marks progress units reached) (returned : Bool)
    (rest : List α) :
    ∃ returnedNow, shownFrom marks progress returned (units ++ rest) =
      Csv.shownFrom marks reached returnedNow rest := by
  induction passes generalizing returned with
  | nil => exact ⟨returned, rfl⟩
  | cons inLine stepped _ induction =>
      rcases induction false with ⟨returnedNow, same⟩
      refine ⟨returnedNow, ?_⟩
      rw [List.cons_append, Csv.shownFrom, if_neg inLine, stepped]
      exact same

end Read

/-- The rows that hold something, each with the number of rows above it. -/
def placed (rows : List (List String)) : List (List String × Nat) :=
  rows.zipIdx.filter fun row => !row.1.isEmpty

theorem map_fst_placed (rows : List (List String)) :
    (placed rows).map (·.1) = rows.filter (!·.isEmpty) := by
  have same : (fun row : List String × Nat => !row.1.isEmpty) = (!·.isEmpty) ∘ (·.1) := rfl
  rw [placed, same, ← List.filter_map, List.zipIdx_map_fst]

theorem mem_placed {rows : List (List String)} {record : List String} {row : Nat} :
    (record, row) ∈ placed rows ↔ rows[row]? = some record ∧ record ≠ [] := by
  simp [placed, List.mem_zipIdx_iff_getElem?]

/-- So many empty rows stand above a record as it is read higher. -/
theorem place_of_placed {rows : List (List String)} {record : List String} {index row : Nat}
    (there : (placed rows)[index]? = some (record, row)) :
    row = index + (rows.take row).count [] := by
  have from_ : ∀ start row, ((rows.zipIdx start).filter fun row => !row.1.isEmpty)[index]? =
      some (record, row) → ∃ below, row = start + below ∧
        below = index + (rows.take below).count [] := by
    clear there row
    induction rows generalizing index with
    | nil => simp
    | cons head rows induction =>
        intro start row there
        rw [List.zipIdx_cons] at there
        cases empty : head.isEmpty with
        | true =>
            rw [List.filter_cons_of_neg (by simp [empty])] at there
            rcases induction (start + 1) row there with ⟨below, same, counted⟩
            refine ⟨below + 1, by omega, ?_⟩
            rw [List.take_succ_cons, List.isEmpty_iff.mp empty, List.count_cons_self]
            omega
        | false =>
            rw [List.filter_cons_of_pos (by simp [empty])] at there
            have different : head ≠ [] := by simpa using empty
            cases index with
            | zero =>
                cases there
                exact ⟨0, by simp, by simp⟩
            | succ index =>
                rcases induction (start + 1) row there with ⟨below, same, counted⟩
                refine ⟨below + 1, by omega, ?_⟩
                rw [List.take_succ_cons, List.count_cons_of_ne different]
                omega
  rcases from_ 0 row there with ⟨below, same, counted⟩
  rw [Nat.zero_add] at same
  exact same ▸ counted

theorem records_placed (text : String) :
    (placed (shownRows text)).map (·.1) = recordsOfText text := by
  rw [map_fst_placed, shownRows, recordsOfText, records, ← filter_shownFrom .start false,
    List.filter_map]
  congr 2
  funext row
  simp

/-! ## What is written -/

section Written

variable {rest : List Char}

theorem shownFrom_line (field : List Char) (more : List (List Char)) :
    ∃ row, shownFrom characterMarks .start false (line (field :: more) ++ '\n' :: rest) =
        row :: shownFrom characterMarks .start false rest ∧
      (line (field :: more) ≠ [] → row = field :: more) := by
  by_cases empty : line (field :: more) = []
  · rw [empty]
    exact ⟨[], rfl, fun something => absurd rfl something⟩
  · rcases passes_line field more [] (.inl ⟨rfl, empty⟩) with ⟨reached, closes, record, passes⟩
    rcases passes.shownFrom false ('\n' :: rest) with ⟨returned, same⟩
    have inLine : ¬(reached.place = .betweenRecords ∧ characterMarks.isLineEnd '\n' = true) := by
      rintro ⟨between, _⟩
      rw [between] at closes
      cases closes
    refine ⟨field :: more, same.trans ?_, fun _ => rfl⟩
    rw [shownFrom, if_neg inLine, step_newline closes]
    exact congrArg (· :: _) record

theorem shownFrom_writtenRecord (fields : List (List Char)) (rest : List Char) :
    shownFrom characterMarks .start false (writtenRecord fields ++ rest) =
      readBack fields :: shownFrom characterMarks .start false rest := by
  by_cases empty : line fields = []
  · rcases line_eq_nil empty with rfl | rfl <;> rfl
  · rw [writtenRecord_of_line empty, List.append_assoc]
    cases fields with
    | nil => exact absurd rfl empty
    | cons field more =>
        rcases shownFrom_line field more with ⟨row, same, isRecord⟩
        exact same.trans (congrArg (· :: _) (isRecord empty))

theorem shownFrom_written (written : List (List (List Char))) :
    shownFrom characterMarks .start false (written.flatMap writtenRecord) =
      written.map readBack := by
  induction written with
  | nil => rfl
  | cons fields written induction =>
      rw [List.flatMap_cons, shownFrom_writtenRecord, induction, List.map_cons]

/-- Every record is shown in the row in which it was written; only the first one may lose a mark of
byte order. -/
theorem getElem?_shownFrom (written : List (List (List Char))) {index : Nat}
    (unmarked : index = 0 → ¬Marked written) :
    (shownFrom characterMarks .start false
      (dropByteOrderMark (written.flatMap writtenRecord)))[index]? =
        (written.map readBack)[index]? := by
  by_cases marked : Marked written
  · rcases marked with ⟨field, fields, rest, rfl, plain⟩
    rcases shownFrom_line field fields with ⟨row, same, _⟩
    rw [dropByteOrderMark_marked plain, same, shownFrom_written, List.map_cons]
    cases index with
    | zero => exact absurd ⟨field, fields, rest, rfl, plain⟩ (unmarked rfl)
    | succ index => rfl
  · rw [dropByteOrderMark_of_not_marked marked, shownFrom_written]

end Written

theorem shownRows_textOfRecords {written : List (List String)} {index : Nat}
    (filled : ∀ record ∈ written, record ≠ [])
    (front : index = 0 →
      ((written[0]?.getD [])[0]?.getD "").toList.head? ≠ some '\uFEFF') :
    (shownRows (textOfRecords written))[index]? = written[index]? := by
  have unmarked : index = 0 → ¬Marked (written.map (·.map (·.toList))) := by
    rintro first ⟨field, fields, rest, same, _⟩
    rcases written with _ | ⟨_ | ⟨text, texts⟩, written⟩
    · cases same
    · cases same
    · have isText : text.toList = '\uFEFF' :: field :=
        (List.cons_eq_cons.mp (List.cons_eq_cons.mp same).1).1
      exact front first (congrArg List.head? isText)
  have kept : ∀ record ∈ written,
      (readBack (record.map (·.toList))).map String.ofList = record := by
    intro record member
    have some : record.map (·.toList) ≠ [] := by simpa using filled record member
    simp [readBack, some, Function.comp_def]
  rw [shownRows, textOfRecords, String.toList_ofList, ← List.flatMap_map, List.getElem?_map,
    getElem?_shownFrom _ unmarked, ← List.getElem?_map, List.map_map, List.map_map]
  exact congrArg (·[index]?) ((List.map_congr_left kept).trans (List.map_id _))

end SheetPost.Csv
