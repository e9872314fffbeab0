import SheetPost.Proofs.Posting.Attribution
import SheetPost.Proofs.Posting.Isolation
import SheetPost.Proofs.Posting.Runs

namespace SheetPost

/-! ## Sorting -/

namespace SyncReport

variable {report : SyncReport} {rows : List RowPosition}

theorem withAlreadyProcessed_perm (report : SyncReport) (rows : List RowPosition) :
    (report.withAlreadyProcessed rows).outcomes.Perm
      (report.outcomes ++ rows.map fun row => (row, Outcome.alreadyProcessed)) :=
  List.mergeSort_perm _ _

theorem withAlreadyProcessed_rows (report : SyncReport) (rows : List RowPosition) :
    ((report.withAlreadyProcessed rows).outcomes.map (·.1)).Perm
      (report.outcomes.map (·.1) ++ rows) := by
  have parts := (report.withAlreadyProcessed_perm rows).map (·.1)
  rw [List.map_append, List.map_map] at parts
  exact parts.trans (.of_eq (congrArg _ (List.map_id rows)))

theorem withAlreadyProcessed_ascend (nodup : (report.outcomes.map (·.1) ++ rows).Nodup) :
    (report.withAlreadyProcessed rows).outcomes.Pairwise fun first second =>
      first.1.above < second.1.above := by
  have sorted : (report.withAlreadyProcessed rows).outcomes.Pairwise fun first second =>
      first.1.above ≤ second.1.above := by
    refine (List.pairwise_mergeSort ?_ ?_ _).imp of_decide_eq_true
    · simp only [decide_eq_true_eq]
      omega
    · simp only [Bool.or_eq_true, decide_eq_true_eq]
      omega
  have different := (report.withAlreadyProcessed_rows rows).nodup_iff.mpr nodup
  rw [List.Nodup, List.pairwise_map] at different
  refine (sorted.and different).imp ?_
  rintro ⟨⟨first⟩, _⟩ ⟨⟨second⟩, _⟩ ⟨notAbove, apart⟩
  exact Nat.lt_of_le_of_ne notAbove fun equal => apart (congrArg RowPosition.mk equal)

/-! ## Counting -/

theorem count_outcomes (report : SyncReport) :
    report.accepted + report.rejected + report.alreadyProcessed = report.outcomes.length := by
  rcases report with ⟨_, outcomes, _⟩
  simp only [accepted, rejected, alreadyProcessed]
  induction outcomes with
  | nil => rfl
  | cons entry outcomes induction =>
      have one : (if entry.2.isAccepted then 1 else 0) + (if entry.2.isRejected then 1 else 0) +
          (if entry.2.isAlreadyProcessed then 1 else 0) = 1 := by
        cases entry.2 <;> rfl
      simp only [List.countP_cons, List.length_cons]
      omega

theorem alreadyProcessed_withAlreadyProcessed
    (told : ∀ entry ∈ report.outcomes, entry.2.HasStatus) :
    (report.withAlreadyProcessed rows).alreadyProcessed = rows.length := by
  have none : report.outcomes.countP (·.2.isAlreadyProcessed) = 0 := by
    rw [List.countP_eq_zero]
    rintro ⟨row, outcome⟩ member isAlready
    rcases told _ member with ⟨_, text, _⟩
    cases outcome <;> cases text <;> cases isAlready
  rw [alreadyProcessed, (report.withAlreadyProcessed_perm rows).countP_eq, List.countP_append, none,
    List.countP_map, Nat.zero_add]
  exact List.countP_eq_length.mpr fun _ _ => rfl

theorem mem_rejections {row : RowPosition} {reason : String} :
    (row, reason) ∈ report.rejections ↔ (row, .rejected reason) ∈ report.outcomes := by
  rw [rejections, List.mem_filterMap]
  constructor
  · rintro ⟨⟨place, outcome⟩, member, same⟩
    rcases Option.map_eq_some_iff.mp same with ⟨_, told, equal⟩
    cases equal
    cases outcome <;> cases told
    exact member
  · intro member
    exact ⟨_, member, rfl⟩

theorem rejections_ascend
    (ascend : report.outcomes.Pairwise fun first second => first.1.above < second.1.above) :
    report.rejections.Pairwise fun first second => first.1.above < second.1.above := by
  apply List.Pairwise.filterMap _ _ ascend
  intro first second less rejection told other toldOther
  rcases Option.map_eq_some_iff.mp told with ⟨_, _, rfl⟩
  rcases Option.map_eq_some_iff.mp toldOther with ⟨_, _, rfl⟩
  exact less

end SyncReport

namespace SyncRun

variable {kind : PostedSheet}

/-- A report on a run over a sheet says all there is to say, and nothing twice. -/
structure Complete (run : SyncRun kind) (sheet : Table) (report : SyncReport) : Prop where
  ascend : report.outcomes.Pairwise fun first second => first.1.above < second.1.above
  lists : ∀ row, row ∈ report.outcomes.map (·.1) ↔
    ∃ cells, (row, cells) ∈ sheet.dataRows ∧
      (SheetRecord.ofRow? cells : Option kind.Record).isSome = true
  leftOut : ∀ row, (row, Outcome.alreadyProcessed) ∈ report.outcomes ↔
    row ∈ report.outcomes.map (·.1) ∧ run.skipProcessed = true ∧
      trim (sheet.get row (SheetRecord.statusColumn kind.Record)).shown = Outcome.okText
  shown : ∀ row outcome, (row, outcome) ∈ report.outcomes → outcome ≠ .alreadyProcessed →
    outcome.ShownBy ((run.leaves sheet).get row (SheetRecord.statusColumn kind.Record))
  submitted : report.accepted + report.rejected = (run.extraction sheet).entries.length
  total : report.accepted + report.rejected + report.alreadyProcessed = report.outcomes.length
  rejections : ∀ row reason,
    (row, reason) ∈ report.rejections ↔ (row, Outcome.rejected reason) ∈ report.outcomes
  rejectionsAscend : report.rejections.Pairwise fun first second =>
    first.1.above < second.1.above

section Returned

variable {run : SyncRun kind} {sheet : Table} {report : SyncReport}

theorem rows_of_report (returned : run.result sheet = .posted (.ok report)) :
    (report.outcomes.map (·.1)).Perm ((eligible kind.Record sheet).map (·.1)) := by
  rcases of_report returned with ⟨mode, outcomes, reported, rfl, rows, _⟩
  refine (SyncReport.withAlreadyProcessed_rows _ _).trans ?_
  rw [rows]
  exact Extraction.rows_perm sheet run.skipProcessed

theorem mem_rows_of_report (returned : run.result sheet = .posted (.ok report))
    {row : RowPosition} :
    row ∈ report.outcomes.map (·.1) ↔ ∃ record, (row, record) ∈ eligible kind.Record sheet := by
  rw [(rows_of_report returned).mem_iff, List.mem_map]
  constructor
  · rintro ⟨⟨_, record⟩, member, rfl⟩
    exact ⟨record, member⟩
  · rintro ⟨record, member⟩
    exact ⟨(row, record), member, rfl⟩

theorem outcome_of_report (returned : run.result sheet = .posted (.ok report))
    {row : RowPosition} {outcome : Outcome} (listed : (row, outcome) ∈ report.outcomes) :
    (row ∈ (run.extraction sheet).rows ∧
      outcome.ShownBy ((run.leaves sheet).get row (SheetRecord.statusColumn kind.Record))) ∨
    (row ∈ (run.extraction sheet).alreadyProcessed ∧ outcome = .alreadyProcessed) := by
  rcases of_report returned with ⟨mode, outcomes, reported, rfl, rows, told, same⟩
  rcases SyncReport.mem_withAlreadyProcessed.mp listed with found | ⟨left, member, equal⟩
  · have nodup : (outcomes.map (·.1)).Nodup := rows ▸ Extraction.rows_nodup _ _
    rcases told _ found with ⟨status, text, visible⟩
    refine .inl ⟨rows ▸ List.mem_map_of_mem found, ?_⟩
    rw [same, Table.get_marked_of_mem _ _ (map_fst_statusesOf told ▸ nodup)
      (mem_statusesOf.mpr ⟨outcome, found, text⟩)]
    exact Outcome.shownBy_ofText ⟨status, text, visible⟩ text
  · cases equal
    exact .inr ⟨member, rfl⟩

end Returned

/-- Whatever the sheet, the way of posting and the answers are, a report that is returned lists the
eligible rows, each once and in order, with what became of it, and its totals add up. -/
theorem report_complete (run : SyncRun kind) (sheet : Table) {report : SyncReport}
    (returned : run.result sheet = .posted (.ok report)) : run.Complete sheet report := by
  have total := report.count_outcomes
  have parts := rows_of_report returned
  have nodup : ((eligible kind.Record sheet).map (·.1)).Nodup := by
    rw [List.Nodup, List.pairwise_map]
    refine (eligible_ascend sheet).imp ?_
    intro first second less equal
    exact Nat.lt_irrefl _ (equal ▸ less)
  rcases of_report returned with ⟨mode, outcomes, reported, same, rows, told, _⟩
  have ascend : report.outcomes.Pairwise fun first second => first.1.above < second.1.above := by
    rw [same]
    apply SyncReport.withAlreadyProcessed_ascend
    rw [rows]
    exact (Extraction.rows_perm sheet run.skipProcessed).nodup_iff.mpr nodup
  refine ⟨ascend, ?_, ?_, ?_, ?_, total, fun _ _ => SyncReport.mem_rejections,
    SyncReport.rejections_ascend ascend⟩
  · intro row
    rw [mem_rows_of_report returned]
    constructor
    · rintro ⟨record, member⟩
      rcases mem_eligible.mp member with ⟨below, cells, there, made⟩
      exact ⟨cells, Table.mem_dataRows.mpr ⟨below, there⟩, by rw [made]; rfl⟩
    · rintro ⟨cells, member, made⟩
      rcases Option.isSome_iff_exists.mp made with ⟨record, makes⟩
      rcases Table.mem_dataRows.mp member with ⟨below, there⟩
      exact ⟨record, mem_eligible.mpr ⟨below, cells, there, makes⟩⟩
  · intro row
    rw [mem_rows_of_report returned, ← isProcessed_iff, ← Extraction.mem_alreadyProcessed]
    constructor
    · intro listed
      rcases outcome_of_report returned listed with ⟨_, shown⟩ | ⟨member, _⟩
      · rcases shown with ⟨impossible, _⟩ | ⟨_, impossible, _⟩ <;> cases impossible
      · exact member
    · intro member
      rw [same]
      exact SyncReport.mem_withAlreadyProcessed.mpr (.inr ⟨row, member, rfl⟩)
  · intro row outcome listed sent
    rcases outcome_of_report returned listed with ⟨_, shown⟩ | ⟨_, left⟩
    · exact shown
    · exact absurd left sent
  · have left : report.alreadyProcessed = (run.extraction sheet).alreadyProcessed.length := by
      rw [same]
      exact SyncReport.alreadyProcessed_withAlreadyProcessed told
    have lengths := (SyncReport.withAlreadyProcessed_rows ⟨mode, outcomes, reported⟩
      (run.extraction sheet).alreadyProcessed).length_eq
    rw [← same, List.length_append, List.length_map, rows, Extraction.rows, List.length_map]
      at lengths
    omega

def skippingRun : SyncRun .transactions where
  dispatcher := .sample
  options := ⟨false, 4, false⟩
  skipProcessed := true
  answers := [.replied 409 "bad date", .replied 201 ""]
  holder := .inMemory 4

theorem report_complete_skipping :
    ∃ report, skippingRun.result Dispatcher.sparseSheet = .posted (.ok report) ∧
      skippingRun.Complete Dispatcher.sparseSheet report ∧
      (⟨1⟩, .alreadyProcessed) ∈ report.outcomes ∧ report.accepted + report.rejected = 2 := by
  have some : (skippingRun.result Dispatcher.sparseSheet).report?.isSome = true := by
    decide +kernel
  rcases Option.isSome_iff_exists.mp some with ⟨report, found⟩
  have returned := SyncResult.report?_eq_some_iff.mp found
  have complete := report_complete skippingRun Dispatcher.sparseSheet returned
  refine ⟨report, returned, complete, ?_, ?_⟩
  · have eligible : ∃ cells, (⟨1⟩, cells) ∈ Dispatcher.sparseSheet.dataRows ∧
        (SheetRecord.ofRow? cells : Option NewTransaction).isSome = true := by
      refine ⟨_, Table.mem_dataRows.mpr ⟨by decide, rfl⟩, by decide +kernel⟩
    exact (complete.leftOut ⟨1⟩).mpr
      ⟨(complete.lists ⟨1⟩).mpr eligible, rfl, by decide +kernel⟩
  · rw [complete.submitted]
    decide +kernel

end SyncRun

end SheetPost
