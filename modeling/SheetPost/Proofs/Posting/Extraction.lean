import SheetPost.Posting.Extraction
import SheetPost.Proofs.Workbook.Marking

namespace SheetPost

/-! ## Rows of data -/

namespace Table

theorem dataRows_eq (table : Table) :
    table.dataRows = (table.rows.tail.zipIdx 1).map fun row => (⟨row.2⟩, row.1) := by
  rw [dataRows, List.drop_one, ← List.map_tail, List.tail_zipIdx]

theorem mem_dataRows {table : Table} {row : RowPosition} {cells : List Cell} :
    (row, cells) ∈ table.dataRows ↔ 0 < row.above ∧ table.rows[row.above]? = some cells := by
  rw [dataRows_eq, List.mem_map]
  constructor
  · rintro ⟨⟨found, position⟩, member, same⟩
    cases same
    rcases List.mk_mem_zipIdx_iff_le_and_getElem?_sub.mp member with ⟨below, there⟩
    rw [List.getElem?_tail, Nat.sub_add_cancel below] at there
    exact ⟨below, there⟩
  · rintro ⟨below, there⟩
    refine ⟨(cells, row.above), List.mk_mem_zipIdx_iff_le_and_getElem?_sub.mpr ⟨below, ?_⟩, rfl⟩
    rw [List.getElem?_tail, Nat.sub_add_cancel below]
    exact there

theorem dataRows_ascend (table : Table) :
    table.dataRows.Pairwise fun first second => first.1.above < second.1.above := by
  have positions : table.dataRows.map (·.1.above) = List.range' 1 table.rows.tail.length := by
    rw [dataRows_eq, List.map_map, ← List.zipIdx_map_snd 1 table.rows.tail]
    rfl
  have ascend := List.pairwise_lt_range' (s := 1) (n := table.rows.tail.length)
  rw [← positions, List.pairwise_map] at ascend
  exact ascend

end Table

/-! ## Eligible rows -/

variable {α : Type} [SheetRecord α]

theorem mem_eligible {sheet : Table} {row : RowPosition} {record : α} :
    (row, record) ∈ eligible α sheet ↔
      0 < row.above ∧ ∃ cells, sheet.rows[row.above]? = some cells ∧
        SheetRecord.ofRow? cells = some record := by
  rw [eligible, List.mem_filterMap]
  constructor
  · rintro ⟨⟨position, cells⟩, member, makes⟩
    rcases Option.map_eq_some_iff.mp makes with ⟨found, made, same⟩
    cases same
    rcases Table.mem_dataRows.mp member with ⟨below, there⟩
    exact ⟨below, cells, there, made⟩
  · rintro ⟨below, cells, there, made⟩
    exact ⟨(row, cells), Table.mem_dataRows.mpr ⟨below, there⟩, by rw [made]; rfl⟩

theorem eligible_ascend (sheet : Table) :
    (eligible α sheet).Pairwise fun first second => first.1.above < second.1.above := by
  apply List.Pairwise.filterMap _ _ sheet.dataRows_ascend
  intro first second less entry made other madeOther
  rcases Option.map_eq_some_iff.mp made with ⟨_, _, rfl⟩
  rcases Option.map_eq_some_iff.mp madeOther with ⟨_, _, rfl⟩
  exact less

theorem eligible_congr {sheet other : Table}
    (same : sheet.rows.map (SheetRecord.ofRow? (α := α)) =
      other.rows.map (SheetRecord.ofRow? (α := α))) :
    eligible α sheet = eligible α other := by
  have through : ∀ table : Table, eligible α table =
      ((table.rows.map (SheetRecord.ofRow? (α := α))).tail.zipIdx 1).filterMap
        fun row => row.1.map fun record => (⟨row.2⟩, record) := by
    intro table
    rw [eligible, table.dataRows_eq, ← List.map_tail, List.zipIdx_map, List.filterMap_map,
      List.filterMap_map]
    rfl
  rw [through sheet, through other, same]

theorem eligible_set {sheet : Table} {row : RowPosition} (cell : Cell)
    (inside : row.above < sheet.rows.length) :
    eligible α (sheet.set row (SheetRecord.statusColumn α) cell) = eligible α sheet := by
  apply eligible_congr
  rw [Table.rows_set _ _ inside]
  apply List.ext_getElem?
  intro position
  rw [List.getElem?_map, List.getElem?_map, List.getElem?_modify]
  split
  · cases sheet.rows[position]? with
    | none => rfl
    | some cells =>
        refine congrArg some (SheetRecord.ofRow?_congr fun column apart => ?_)
        exact getElem?_modifyFilled_other _ _ apart cells
  · simp

theorem eligible_marked {sheet : Table} {statuses : List (RowPosition × String)}
    (inside : ∀ entry ∈ statuses, entry.1.above < sheet.rows.length) :
    eligible α (sheet.marked (SheetRecord.statusColumn α) statuses) = eligible α sheet := by
  induction statuses generalizing sheet with
  | nil => rfl
  | cons entry statuses induction =>
      have insideNow := inside entry List.mem_cons_self
      rw [Table.marked_cons, induction, eligible_set _ insideNow]
      intro other member
      rw [Table.rows_set _ _ insideNow, List.length_modify]
      exact inside other (List.mem_cons_of_mem _ member)

/-! ## The rows that are sent -/

theorem isProcessed_iff {sheet : Table} {row : RowPosition} :
    isProcessed α sheet row = true ↔
      trim (sheet.get row (SheetRecord.statusColumn α)).shown = Outcome.okText :=
  beq_iff_eq

namespace Extraction

theorem mem_entries {sheet : Table} {skipProcessed : Bool} {entry : RowPosition × α} :
    entry ∈ (extract α sheet skipProcessed).entries ↔
      entry ∈ eligible α sheet ∧ ¬(skipProcessed = true ∧ isProcessed α sheet entry.1 = true) := by
  simp only [extract, List.mem_filter, Bool.not_eq_true', Bool.and_eq_false_iff, not_and,
    Bool.not_eq_true, and_congr_right_iff]
  intro _
  cases skipProcessed <;> simp

theorem mem_alreadyProcessed {sheet : Table} {skipProcessed : Bool} {row : RowPosition} :
    row ∈ (extract α sheet skipProcessed).alreadyProcessed ↔
      (∃ record, (row, record) ∈ eligible α sheet) ∧ skipProcessed = true ∧
        isProcessed α sheet row = true := by
  simp only [extract, List.mem_map, List.mem_filter, Bool.and_eq_true]
  constructor
  · rintro ⟨⟨_, record⟩, ⟨member, skipped⟩, rfl⟩
    exact ⟨⟨record, member⟩, skipped⟩
  · rintro ⟨⟨record, member⟩, skipped⟩
    exact ⟨(row, record), ⟨member, skipped⟩, rfl⟩

omit [SheetRecord α] in
theorem rows_ne_nil {extraction : Extraction α} (filled : extraction.isEmpty = false) :
    extraction.rows ≠ [] := by
  intro noRows
  rw [isEmpty, List.map_eq_nil_iff.mp noRows] at filled
  cases filled

theorem rows_ascend (sheet : Table) (skipProcessed : Bool) :
    (extract α sheet skipProcessed).rows.Pairwise fun first second =>
      first.above < second.above := by
  rw [rows, List.pairwise_map]
  exact (eligible_ascend sheet).sublist List.filter_sublist

theorem rows_nodup (sheet : Table) (skipProcessed : Bool) :
    (extract α sheet skipProcessed).rows.Nodup := by
  apply List.Pairwise.imp _ (rows_ascend sheet skipProcessed)
  rintro first second less rfl
  exact Nat.lt_irrefl _ less

theorem rows_perm (sheet : Table) (skipProcessed : Bool) :
    ((extract α sheet skipProcessed).rows ++ (extract α sheet skipProcessed).alreadyProcessed).Perm
      ((eligible α sheet).map (·.1)) := by
  let skipped (entry : RowPosition × α) : Bool := skipProcessed && isProcessed α sheet entry.1
  have parted : (((eligible α sheet).filter skipped).map (·.1) ++
      ((eligible α sheet).filter fun entry => !skipped entry).map (·.1)).Perm
      ((eligible α sheet).map (·.1)) := by
    rw [← List.map_append]
    exact (List.filter_append_perm skipped _).map _
  exact List.perm_append_comm.trans parted

theorem not_mem_alreadyProcessed {sheet : Table} {skipProcessed : Bool} {row : RowPosition}
    (sent : row ∈ (extract α sheet skipProcessed).rows) :
    row ∉ (extract α sheet skipProcessed).alreadyProcessed := by
  rcases List.mem_map.mp sent with ⟨entry, member, rfl⟩
  intro leftOut
  exact (mem_entries.mp member).2 (mem_alreadyProcessed.mp leftOut).2

theorem row_of_mem {sheet : Table} {skipProcessed : Bool} {entry : RowPosition × α}
    (member : entry ∈ (extract α sheet skipProcessed).entries) :
    0 < entry.1.above ∧ ∃ cells, sheet.rows[entry.1.above]? = some cells ∧
      SheetRecord.ofRow? cells = some entry.2 :=
  mem_eligible.mp (mem_entries.mp member).1

theorem inside_of_mem_rows {sheet : Table} {skipProcessed : Bool} {row : RowPosition}
    (member : row ∈ (extract α sheet skipProcessed).rows) :
    row.above < sheet.rows.length := by
  rcases List.mem_map.mp member with ⟨entry, found, rfl⟩
  rcases row_of_mem found with ⟨_, cells, there, _⟩
  exact (List.getElem?_eq_some_iff.mp there).1

end Extraction

end SheetPost
