import Mathlib.Data.List.Nodup
import SheetPost.Proofs.Posting.Runs

namespace SheetPost

namespace SyncRun

variable {kind : PostedSheet}

/-- The statuses in a sheet tell the rows that a report has as accepted from the others, and a run
that skips accepted rows sends the rejected ones again and nothing else. -/
structure MarksAccepted (kind : PostedSheet) (extraction : Extraction kind.Record)
    (report : SyncReport) (sheet : Table) : Prop where
  cell : ∀ row ∈ extraction.rows,
    trim (sheet.get row (SheetRecord.statusColumn kind.Record)).shown = Outcome.okText ↔
      (row, Outcome.accepted) ∈ report.outcomes
  resent : (extract kind.Record sheet true).entries = extraction.entries.filter fun entry =>
    report.outcomes.any fun told => told.1 == entry.1 && told.2.isRejected

theorem entries_after (run : SyncRun kind) (sheet : Table) :
    (extract kind.Record (run.leaves sheet) true).entries =
      (run.extraction sheet).entries.filter fun entry =>
        !isProcessed kind.Record (run.leaves sheet) entry.1 := by
  simp only [extract, extraction, eligible_leaves, List.filter_filter, Bool.true_and]
  apply List.filter_congr
  intro entry member
  cases skipped : run.skipProcessed && isProcessed kind.Record sheet entry.1 with
  | false => simp
  | true =>
      have both := Bool.and_eq_true_iff.mp skipped
      have notSent : entry.1 ∉ (run.extraction sheet).rows := by
        intro sent
        rcases List.mem_map.mp sent with ⟨other, found, same⟩
        exact (Extraction.mem_entries.mp found).2 (same ▸ both)
      have unchanged : isProcessed kind.Record (run.leaves sheet) entry.1 = true := by
        rw [isProcessed_iff, run.get_leaves_other sheet (.inl notSent)]
        exact isProcessed_iff.mp both.2
      rw [unchanged]
      rfl

section Returned

variable {run : SyncRun kind} {sheet : Table} {report : SyncReport}

theorem outcome_of_row (returned : run.result sheet = .posted (.ok report)) {row : RowPosition}
    (sent : row ∈ (run.extraction sheet).rows) :
    ∃ outcome status, (row, outcome) ∈ report.outcomes ∧
      (∀ other, (row, other) ∈ report.outcomes → other = outcome) ∧
      outcome.statusText? = some status ∧
      ((run.leaves sheet).get row (SheetRecord.statusColumn kind.Record)).shown = status := by
  have nodup : (run.extraction sheet).rows.Nodup := Extraction.rows_nodup _ _
  rcases of_report returned with ⟨mode, outcomes, reported, rfl, rows, told, same⟩
  rw [← rows] at sent nodup
  rcases List.mem_map.mp sent with ⟨⟨_, outcome⟩, member, rfl⟩
  rcases told _ member with ⟨status, text, _⟩
  refine ⟨outcome, status, SyncReport.mem_withAlreadyProcessed.mpr (.inl member), ?_, text, ?_⟩
  · intro other memberOther
    rcases SyncReport.mem_withAlreadyProcessed.mp memberOther with found | ⟨left, leftOut, equal⟩
    · exact congrArg (·.2) (List.inj_on_of_nodup_map nodup found member rfl)
    · cases equal
      rw [rows] at sent
      exact absurd leftOut (Extraction.not_mem_alreadyProcessed sent)
  · rw [same, Table.get_marked_of_mem _ _ _ (mem_statusesOf.mpr ⟨outcome, member, text⟩),
      Cell.shown_ofText]
    rw [map_fst_statusesOf told]
    exact nodup

theorem row_of_rejected (returned : run.result sheet = .posted (.ok report)) {row : RowPosition}
    {reason : String} (rejected : (row, .rejected reason) ∈ report.outcomes) :
    row ∈ (run.extraction sheet).rows := by
  rcases of_report returned with ⟨mode, outcomes, reported, rfl, rows, _⟩
  rcases SyncReport.mem_withAlreadyProcessed.mp rejected with found | ⟨_, _, equal⟩
  · rw [← rows]
    exact List.mem_map_of_mem found
  · cases equal

end Returned

theorem reads_accepted_iff {outcome : Outcome} {status : String}
    (text : outcome.statusText? = some status) :
    trim status = Outcome.okText ↔
      outcome = .accepted ∨
        ∃ reason, outcome = .rejected reason ∧ trim reason = Outcome.okText := by
  cases outcome with
  | accepted =>
      cases text
      simp [show trim Outcome.okText = Outcome.okText by decide]
  | rejected reason =>
      cases text
      simp
  | alreadyProcessed => cases text

/-- What is known about a row that was sent: a report has one outcome for it, and its status reads
like the mark if it is the mark or a reason that happens to be the same text. -/
structure Told (kind : PostedSheet) (report : SyncReport) (sheet : Table) (row : RowPosition)
    (outcome : Outcome) : Prop where
  member : (row, outcome) ∈ report.outcomes
  only : ∀ other, (row, other) ∈ report.outcomes → other = outcome
  decided : outcome = .accepted ∨ ∃ reason, outcome = .rejected reason
  reads : trim (sheet.get row (SheetRecord.statusColumn kind.Record)).shown = Outcome.okText ↔
    outcome = .accepted ∨ ∃ reason, outcome = .rejected reason ∧ trim reason = Outcome.okText

theorem told_of_row {run : SyncRun kind} {sheet : Table} {report : SyncReport}
    (returned : run.result sheet = .posted (.ok report)) {row : RowPosition}
    (sent : row ∈ (run.extraction sheet).rows) :
    ∃ outcome, Told kind report (run.leaves sheet) row outcome := by
  rcases outcome_of_row returned sent with ⟨outcome, status, member, only, text, shown⟩
  refine ⟨outcome, member, only, ?_, ?_⟩
  · cases outcome with
    | accepted => exact .inl rfl
    | rejected reason => exact .inr ⟨reason, rfl⟩
    | alreadyProcessed => cases text
  · rw [shown]
    exact reads_accepted_iff text

/-- Every row that was sent has one outcome, and its status reads like the mark for an acceptance or
for a reason that is the same text. The mark can be trusted exactly if there is no such reason. -/
theorem marksAccepted_iff (run : SyncRun kind) (sheet : Table) {report : SyncReport}
    (returned : run.result sheet = .posted (.ok report)) :
    (∀ row ∈ (run.extraction sheet).rows,
      ∃ outcome, Told kind report (run.leaves sheet) row outcome) ∧
    (MarksAccepted kind (run.extraction sheet) report (run.leaves sheet) ↔
      ∀ row reason, (row, .rejected reason) ∈ report.outcomes → trim reason ≠ Outcome.okText) := by
  refine ⟨fun row sent => told_of_row returned sent, ?_, ?_⟩
  · intro marks row reason rejected reads
    have sent := row_of_rejected returned rejected
    rcases told_of_row returned sent with ⟨outcome, told⟩
    have same := told.only _ rejected
    have accepted := (marks.cell row sent).mp (told.reads.mpr (.inr ⟨reason, same.symm, reads⟩))
    cases same.trans (told.only _ accepted).symm
  · intro apart
    have cell : ∀ row ∈ (run.extraction sheet).rows,
        trim ((run.leaves sheet).get row (SheetRecord.statusColumn kind.Record)).shown =
          Outcome.okText ↔ (row, Outcome.accepted) ∈ report.outcomes := by
      intro row sent
      rcases told_of_row returned sent with ⟨outcome, told⟩
      rw [told.reads]
      constructor
      · rintro (rfl | ⟨reason, rfl, reads⟩)
        · exact told.member
        · exact absurd reads (apart row reason told.member)
      · intro accepted
        exact .inl (told.only _ accepted).symm
    refine ⟨cell, ?_⟩
    rw [run.entries_after sheet]
    apply List.filter_congr
    intro entry found
    have sent : entry.1 ∈ (run.extraction sheet).rows := List.mem_map_of_mem found
    rcases told_of_row returned sent with ⟨outcome, told⟩
    rw [Bool.eq_iff_iff, Bool.not_eq_true', ← Bool.not_eq_true, isProcessed_iff,
      cell entry.1 sent, List.any_eq_true]
    constructor
    · intro notAccepted
      rcases told.decided with rfl | ⟨reason, rfl⟩
      · exact absurd told.member notAccepted
      · exact ⟨_, told.member, by simp [Outcome.isRejected]⟩
    · rintro ⟨⟨row, other⟩, member, rejected⟩ accepted
      rcases Bool.and_eq_true_iff.mp rejected with ⟨sameRow, isRejected⟩
      cases eq_of_beq sameRow
      cases (told.only _ member).trans (told.only _ accepted).symm
      cases isRejected

/-! ## A gateway that refuses with the mark -/

def single (answer : Answer) : SyncRun .budgets where
  dispatcher := .sample
  options := ⟨false, 4, false⟩
  skipProcessed := true
  answers := [answer]
  holder := .inMemory 2

def oneBudget : Table where
  name := "Budgets"
  rows := [[.text "category", .text "limit", .text "status"], [.text "food", .text "200"]]

theorem marksAccepted_iff_refused :
    MarksAccepted .budgets ((single (.replied 409 "exists")).extraction oneBudget)
      ⟨.single, [(⟨1⟩, .rejected "exists")], none⟩
      ((single (.replied 409 "exists")).leaves oneBudget) := by
  have returned : (single (.replied 409 "exists")).result oneBudget =
      .posted (.ok ⟨.single, [(⟨1⟩, .rejected "exists")], none⟩) :=
    SyncResult.report?_eq_some_iff.mp (by decide +kernel)
  refine (marksAccepted_iff _ _ returned).2.mpr ?_
  intro row reason member
  cases member with
  | head => decide
  | tail _ member => cases member

/-- A refusal whose text is the mark is taken for an acceptance, and its row is not sent again. -/
theorem refused_row_marked_accepted :
    (single (.replied 409 "OK")).result oneBudget =
        .posted (.ok ⟨.single, [(⟨1⟩, .rejected "OK")], none⟩) ∧
      ((single (.replied 409 "OK")).leaves oneBudget).get ⟨1⟩ 2 = .text "OK" ∧
      (extract NewBudget ((single (.replied 409 "OK")).leaves oneBudget) true).rows = [] ∧
      (extract NewBudget ((single (.replied 409 "OK")).leaves oneBudget) true).alreadyProcessed =
        [⟨1⟩] ∧
      ¬ MarksAccepted .budgets ((single (.replied 409 "OK")).extraction oneBudget)
        ⟨.single, [(⟨1⟩, .rejected "OK")], none⟩
        ((single (.replied 409 "OK")).leaves oneBudget) := by
  refine ⟨SyncResult.report?_eq_some_iff.mp (by decide +kernel), by decide +kernel,
    by decide +kernel, by decide +kernel, ?_⟩
  intro marks
  have reads := marks.cell ⟨1⟩ (by decide +kernel)
  have accepted := reads.mp (by decide +kernel)
  simp at accepted

end SyncRun

end SheetPost
