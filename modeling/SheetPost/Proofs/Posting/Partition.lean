import Mathlib.Logic.ExistsUnique
import SheetPost.Proofs.Posting.Extraction

namespace SheetPost

variable {α : Type} [SheetRecord α]

/-- What an extraction does with a row of data. -/
inductive RowPlace where
  | passedOver
  | leftOut
  | sent
deriving DecidableEq

namespace Extraction

def Places (extraction : Extraction α) (entry : RowPosition × List Cell) : RowPlace → Prop
  | .passedOver => (SheetRecord.ofRow? entry.2 : Option α) = none
  | .leftOut => entry.1 ∈ extraction.alreadyProcessed
  | .sent => entry.1 ∈ extraction.rows

structure Skips (α : Type) [SheetRecord α] (sheet : Table) (skipProcessed : Bool)
    (entry : RowPosition × List Cell) : Prop where
  makes : (SheetRecord.ofRow? entry.2 : Option α).isSome = true
  asked : skipProcessed = true
  accepted : trim (sheet.get entry.1 (SheetRecord.statusColumn α)).shown = Outcome.okText

/-- The extraction divides the rows of data of a sheet. -/
structure Divides (extraction : Extraction α) (sheet : Table) (skipProcessed : Bool) : Prop where
  ascend : extraction.rows.Pairwise fun first second => first.above < second.above
  belowHeader : ⟨0⟩ ∉ extraction.rows
  paired : extraction.rows.length = extraction.records.length
  made : ∀ (index : Nat) (row : RowPosition), extraction.rows[index]? = some row →
    ∃ cells record, (row, cells) ∈ sheet.dataRows ∧ extraction.records[index]? = some record ∧
      SheetRecord.ofRow? cells = some record
  onePlace : ∀ entry ∈ sheet.dataRows, ∃! place, extraction.Places entry place
  leftOut : ∀ row, row ∈ extraction.alreadyProcessed ↔
    ∃ cells, (row, cells) ∈ sheet.dataRows ∧ Skips α sheet skipProcessed (row, cells)
  leftOutAscend : extraction.alreadyProcessed.Pairwise fun first second =>
    first.above < second.above
  empty : extraction.isEmpty = true ↔ extraction.rows = []

/-! ## One run -/

theorem alreadyProcessed_ascend (sheet : Table) (skipProcessed : Bool) :
    (extract α sheet skipProcessed).alreadyProcessed.Pairwise fun first second =>
      first.above < second.above := by
  simp only [extract, List.pairwise_map]
  exact (eligible_ascend sheet).sublist List.filter_sublist

theorem mem_rows_or_alreadyProcessed {sheet : Table} (skipProcessed : Bool)
    {entry : RowPosition × List Cell} (data : entry ∈ sheet.dataRows)
    (makes : (SheetRecord.ofRow? entry.2 : Option α) ≠ none) :
    entry.1 ∈ (extract α sheet skipProcessed).rows ∨
      entry.1 ∈ (extract α sheet skipProcessed).alreadyProcessed := by
  have ⟨record, made⟩ := Option.ne_none_iff_exists'.mp makes
  have ⟨below, there⟩ := Table.mem_dataRows.mp data
  have found : (entry.1, record) ∈ eligible α sheet :=
    mem_eligible.mpr ⟨below, entry.2, there, made⟩
  rw [← List.mem_append, (rows_perm sheet skipProcessed).mem_iff]
  exact List.mem_map_of_mem found

theorem ofRow?_ne_none {sheet : Table} {skipProcessed : Bool} {entry : RowPosition × List Cell}
    (data : entry ∈ sheet.dataRows)
    (listed : entry.1 ∈ (extract α sheet skipProcessed).rows ∨
      entry.1 ∈ (extract α sheet skipProcessed).alreadyProcessed) :
    (SheetRecord.ofRow? entry.2 : Option α) ≠ none := by
  rw [← List.mem_append, (rows_perm sheet skipProcessed).mem_iff] at listed
  have ⟨⟨row, record⟩, found, same⟩ := List.mem_map.mp listed
  have ⟨_, cells, there, made⟩ := mem_eligible.mp found
  have ⟨_, here⟩ := Table.mem_dataRows.mp data
  simp_all

theorem existsUnique_place {sheet : Table} (skipProcessed : Bool)
    {entry : RowPosition × List Cell} (data : entry ∈ sheet.dataRows) :
    ∃! place, (extract α sheet skipProcessed).Places entry place := by
  have apart : entry.1 ∈ (extract α sheet skipProcessed).rows →
      entry.1 ∉ (extract α sheet skipProcessed).alreadyProcessed := not_mem_alreadyProcessed
  have listed : entry.1 ∈ (extract α sheet skipProcessed).rows ∨
      entry.1 ∈ (extract α sheet skipProcessed).alreadyProcessed →
      (SheetRecord.ofRow? entry.2 : Option α) ≠ none := ofRow?_ne_none data
  have covered := mem_rows_or_alreadyProcessed (α := α) skipProcessed data
  by_cases none : (SheetRecord.ofRow? entry.2 : Option α) = none
  · refine ⟨.passedOver, none, fun other holds => ?_⟩
    cases other <;> simp_all [Places]
  rcases covered none with sent | left
  · refine ⟨.sent, sent, fun other holds => ?_⟩
    cases other <;> simp_all [Places]
  · refine ⟨.leftOut, left, fun other holds => ?_⟩
    cases other <;> simp_all [Places]

theorem divides (sheet : Table) (skipProcessed : Bool) :
    (extract α sheet skipProcessed).Divides sheet skipProcessed where
  ascend := rows_ascend sheet skipProcessed
  belowHeader := by
    intro listed
    rcases List.mem_map.mp listed with ⟨entry, member, header⟩
    rcases row_of_mem member with ⟨below, _⟩
    simp [header] at below
  paired := by simp [rows, records]
  made := by
    intro index row found
    simp only [rows, List.getElem?_map, Option.map_eq_some_iff] at found
    rcases found with ⟨entry, there, same⟩
    rcases row_of_mem (List.mem_of_getElem? there) with ⟨below, cells, inSheet, made⟩
    subst same
    exact ⟨cells, entry.2, Table.mem_dataRows.mpr ⟨below, inSheet⟩, by simp [records, there], made⟩
  onePlace := fun _ data => existsUnique_place skipProcessed data
  leftOut := by
    intro row
    rw [mem_alreadyProcessed]
    constructor
    · intro listed
      rcases listed with ⟨⟨record, member⟩, asked, accepted⟩
      rcases mem_eligible.mp member with ⟨below, cells, there, made⟩
      exact ⟨cells, Table.mem_dataRows.mpr ⟨below, there⟩, by simp [made], asked,
        isProcessed_iff.mp accepted⟩
    · intro skipped
      rcases skipped with ⟨cells, data, skips⟩
      rcases Table.mem_dataRows.mp data with ⟨below, there⟩
      rcases Option.isSome_iff_exists.mp skips.makes with ⟨record, made⟩
      exact ⟨⟨record, mem_eligible.mpr ⟨below, cells, there, made⟩⟩, skips.asked,
        isProcessed_iff.mpr skips.accepted⟩
  leftOutAscend := alreadyProcessed_ascend sheet skipProcessed
  empty := by simp [isEmpty, rows]

/-! ## Two runs over one sheet -/

def mergeRows (first second : List RowPosition) : List RowPosition :=
  List.merge first second fun row other => row.above ≤ other.above

theorem mergeRows_filter (passes : RowPosition → Bool) {positions : List RowPosition}
    (ascend : positions.Pairwise fun row other => row.above < other.above) :
    mergeRows (positions.filter fun row => !passes row) (positions.filter passes) = positions := by
  have inOrder : positions.Pairwise fun row other => decide (row.above ≤ other.above) := by
    apply ascend.imp
    simp only [decide_eq_true_eq]
    omega
  have merged : (mergeRows (positions.filter fun row => !passes row)
      (positions.filter passes)).Pairwise fun row other => decide (row.above ≤ other.above) := by
    apply List.pairwise_merge _ _ _ _ (inOrder.filter fun row => !passes row)
      (inOrder.filter passes)
    · simp only [decide_eq_true_eq]
      omega
    · simp only [Bool.or_eq_true, decide_eq_true_eq]
      omega
  have elements : (mergeRows (positions.filter fun row => !passes row)
      (positions.filter passes)).Perm positions :=
    (List.merge_perm_append _).trans
      (List.perm_append_comm.trans (List.filter_append_perm passes positions))
  apply List.Perm.eq_of_pairwise _ merged inOrder elements
  intro row other _ _ forth back
  simp only [decide_eq_true_eq] at forth back
  have same : row.above = other.above := by omega
  cases row
  cases other
  exact congrArg RowPosition.mk same

theorem entries_whole (sheet : Table) : (extract α sheet false).entries = eligible α sheet :=
  List.filter_eq_self.mpr fun _ _ => rfl

theorem rows_skipping (sheet : Table) :
    (extract α sheet true).rows =
      (extract α sheet false).rows.filter fun row => !isProcessed α sheet row := by
  simp only [rows, entries_whole, List.filter_map]
  simp [extract, Function.comp_def]

theorem alreadyProcessed_skipping (sheet : Table) :
    (extract α sheet true).alreadyProcessed =
      (extract α sheet false).rows.filter (isProcessed α sheet) := by
  simp only [rows, entries_whole, List.filter_map]
  simp [extract, Function.comp_def]

/-- An extraction divides the rows of data of a sheet, whatever they hold and whether or not rows
are skipped. The rows of one that skips none are those sent and those left out by one that skips,
merged in order, and a row that both send has the same record in both. -/
theorem extract_partitions (sheet : Table) :
    (∀ skipProcessed, (extract α sheet skipProcessed).Divides sheet skipProcessed) ∧
    mergeRows (extract α sheet true).rows (extract α sheet true).alreadyProcessed =
      (extract α sheet false).rows ∧
    ∀ row first second, (row, first) ∈ (extract α sheet false).entries →
      (row, second) ∈ (extract α sheet true).entries → first = second := by
  refine ⟨divides sheet, ?_, ?_⟩
  · rw [rows_skipping, alreadyProcessed_skipping]
    exact mergeRows_filter _ (rows_ascend sheet false)
  · intro row first second inWhole inRest
    have ⟨_, cells, there, made⟩ := row_of_mem inWhole
    have ⟨_, otherCells, alsoThere, alsoMade⟩ := row_of_mem inRest
    simp_all

def mixedSheet : Table where
  name := "Budgets"
  rows := [
    [.text "category", .text "limit", .text "status"],
    [.text "food", .text "200", .text " OK "],
    [.text "food", .empty, .text "OK"],
    [],
    [.text "rent", .text "1.2e3", .text "old"]]

theorem extract_partitions_mixed :
    let whole := extract NewBudget mixedSheet false
    let rest := extract NewBudget mixedSheet true
    let rent : NewBudget := ⟨"rent", .ofNat 1200⟩
    whole.rows = [⟨1⟩, ⟨4⟩] ∧ rest.rows = [⟨4⟩] ∧ rest.alreadyProcessed = [⟨1⟩] ∧
      rest.Divides mixedSheet true ∧
      mergeRows rest.rows rest.alreadyProcessed = whole.rows ∧
      (⟨4⟩, rent) ∈ whole.entries ∧ (⟨4⟩, rent) ∈ rest.entries ∧
      ∀ other, (⟨4⟩, other) ∈ rest.entries → rent = other := by
  intro whole rest rent
  have ⟨divides, merged, same⟩ := extract_partitions (α := NewBudget) mixedSheet
  have inWhole : (⟨4⟩, rent) ∈ whole.entries := by decide +kernel
  refine ⟨by decide +kernel, by decide +kernel, by decide +kernel, divides true, merged, inWhole,
    by decide +kernel, ?_⟩
  intro other inRest
  exact same ⟨4⟩ rent other inWhole inRest

end Extraction

end SheetPost
