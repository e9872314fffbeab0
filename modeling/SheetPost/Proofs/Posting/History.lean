import SheetPost.Proofs.Posting.Runs

namespace SheetPost

namespace SyncRun

variable {kind : PostedSheet}

def Settled (kind : PostedSheet) (sheet : Table) (row : RowPosition) : Prop :=
  row ∈ (extract kind.Record sheet true).alreadyProcessed

theorem settled_iff {sheet : Table} {row : RowPosition} :
    Settled kind sheet row ↔
      (∃ record, (row, record) ∈ eligible kind.Record sheet) ∧
        trim (sheet.get row (SheetRecord.statusColumn kind.Record)).shown = Outcome.okText := by
  rw [Settled, Extraction.mem_alreadyProcessed, isProcessed_iff]
  exact and_congr_right fun _ => ⟨fun both => both.2, fun reads => ⟨rfl, reads⟩⟩

/-- A run leaves a row out: no request is made of it, its status says that it was accepted and stays
as it is, and what the run returns lists it. -/
structure LeavesOut (run : SyncRun kind) (sheet : Table) (row : RowPosition) : Prop where
  notSent : row ∉ (run.extraction sheet).rows
  requests : requestsIn (run.journal sheet) = [] ∨
    ∃ sent, sent <+: (run.extraction sheet).entries ∧
      requestsIn (run.journal sheet) =
        run.opening sheet ++ sent.map fun entry => run.dispatcher.creation entry.2
  accepted : trim (sheet.get row (SheetRecord.statusColumn kind.Record)).shown = Outcome.okText
  kept : (run.leaves sheet).get row (SheetRecord.statusColumn kind.Record) =
    sheet.get row (SheetRecord.statusColumn kind.Record)
  listed : ∀ report, run.result sheet = .posted (.ok report) →
    (row, Outcome.alreadyProcessed) ∈ report.outcomes
  listedAlone : ∀ rows, run.result sheet = .nothing rows → row ∈ rows

/-! ## One run -/

section One

variable {run : SyncRun kind} {sheet : Table} {row : RowPosition}

theorem leavesOut_of_settled (skips : run.skipProcessed = true)
    (settled : Settled kind sheet row) : run.LeavesOut sheet row := by
  have accepted := (settled_iff.mp settled).2
  have notSent : row ∉ (run.extraction sheet).rows := by
    intro member
    rcases List.mem_map.mp member with ⟨entry, sent, rfl⟩
    exact (Extraction.mem_entries.mp sent).2 ⟨skips, isProcessed_iff.mpr accepted⟩
  have leftOut : row ∈ (run.extraction sheet).alreadyProcessed := by
    rw [extraction, skips]
    exact settled
  refine ⟨notSent, run.requests sheet, accepted, run.get_leaves_other sheet (.inl notSent), ?_, ?_⟩
  · intro report returned
    rcases of_report returned with ⟨_, _, _, rfl, _⟩
    exact SyncReport.mem_withAlreadyProcessed.mpr (.inr ⟨row, leftOut, rfl⟩)
  · intro rows returned
    rcases run.performed sheet with ⟨_, nothing, _⟩ | ⟨result, ended, _⟩
    · cases nothing.symm.trans returned
      exact leftOut
    · cases ended.symm.trans returned

theorem settled_leaves (leavesOut : run.LeavesOut sheet row) (settled : Settled kind sheet row) :
    Settled kind (run.leaves sheet) row := by
  rw [settled_iff, eligible_leaves, leavesOut.kept]
  exact settled_iff.mp settled

theorem settled_of_written {status : String}
    (written : (row, status) ∈ statusesIn (run.journal sheet))
    (accepted : trim status = Outcome.okText) : Settled kind (run.leaves sheet) row := by
  rcases run.get_leaves_written sheet written with ⟨member, cell⟩
  rcases List.mem_map.mp member with ⟨entry, sent, rfl⟩
  rw [settled_iff, eligible_leaves, cell, Cell.shown_ofText]
  exact ⟨⟨entry.2, (Extraction.mem_entries.mp sent).1⟩, accepted⟩

theorem requests_after_written {early late : List Event} {status : String}
    (split : run.journal sheet = early ++ .statusWritten row status :: late) :
    ∃ rest : List (RowPosition × kind.Record), rest.Sublist (run.extraction sheet).entries ∧
      row ∉ rest.map (·.1) ∧
      requestsIn late = rest.map fun entry => run.dispatcher.creation entry.2 := by
  rcases run.performed sheet with ⟨_, _, journal, _⟩ | ⟨_, _, posted⟩
  · rw [journal] at split
    cases early <;> cases split
  · have effects : effectsIn (run.journal sheet) =
        effectsIn early ++ .statusWritten row status :: effectsIn late := by
      rw [split, effectsIn_append]
      rfl
    rcases posted.split effects with ⟨sent, rest, ordered, apart, _, same⟩
    refine ⟨rest, ?_, apart, ?_⟩
    · exact (List.sublist_append_right sent rest).trans ordered.sublist
    · rw [← requestsIn_effectsIn, same]

end One

/-! ## Many runs -/

theorem settled_leavesAll {runs : List (SyncRun kind)} {sheet : Table} {row : RowPosition}
    (skip : ∀ run ∈ runs, run.skipProcessed = true) (settled : Settled kind sheet row) :
    Settled kind (leavesAll runs sheet) row := by
  induction runs generalizing sheet with
  | nil => exact settled
  | cons run runs induction =>
      rcases List.forall_mem_cons.mp skip with ⟨skips, skipLater⟩
      exact induction skipLater (settled_leaves (leavesOut_of_settled skips settled) settled)

theorem leavesAll_cons (run : SyncRun kind) (runs : List (SyncRun kind)) (sheet : Table) :
    leavesAll (run :: runs) sheet = leavesAll runs (run.leaves sheet) := rfl

theorem leavesAll_append (runs more : List (SyncRun kind)) (sheet : Table) :
    leavesAll (runs ++ more) sheet = leavesAll more (leavesAll runs sheet) :=
  List.foldl_append

/-- Once the acceptance of a row is written, neither the rest of the run nor any later run sends the
row, its status stays, and every later run lists it. -/
theorem accepted_row_stays_out (earlier : List (SyncRun kind)) (run : SyncRun kind)
    (later : List (SyncRun kind)) (start : Table) {row : RowPosition} {status : String}
    {before rest : List Event} (skip : ∀ next ∈ later, next.skipProcessed = true)
    (written : run.journal (leavesAll earlier start) =
      before ++ .statusWritten row status :: rest)
    (accepted : trim status = Outcome.okText) :
    (∃ sent : List (RowPosition × kind.Record),
      sent.Sublist (run.extraction (leavesAll earlier start)).entries ∧ row ∉ sent.map (·.1) ∧
      requestsIn rest = sent.map fun entry => run.dispatcher.creation entry.2) ∧
    (∀ between following, later = between ++ following →
      trim ((leavesAll (earlier ++ run :: between) start).get row
        (SheetRecord.statusColumn kind.Record)).shown = Outcome.okText) ∧
    ∀ between next following, later = between ++ next :: following →
      next.LeavesOut (leavesAll (earlier ++ run :: between) start) row := by
  have member : (row, status) ∈ statusesIn (run.journal (leavesAll earlier start)) := by
    rw [written]
    exact mem_statusesIn.mpr (List.mem_append_right _ List.mem_cons_self)
  have settled : ∀ between following, later = between ++ following →
      Settled kind (leavesAll (earlier ++ run :: between) start) row := by
    rintro between following rfl
    rw [leavesAll_append, leavesAll_cons]
    exact settled_leavesAll (List.forall_mem_append.mp skip).1
      (settled_of_written member accepted)
  refine ⟨requests_after_written written, ?_, ?_⟩
  · intro between following same
    exact (settled_iff.mp (settled between following same)).2
  · intro between next following same
    refine leavesOut_of_settled (skip next ?_) (settled between (next :: following) same)
    rw [same]
    exact List.mem_append_right _ List.mem_cons_self

theorem intoTable_writesInto_torn :
    StatusSink.WritesInto { StatusSink.intoTable 4 with flush := throw (.said "disk full") } id 4 where
  written := (StatusSink.intoTable_writesInto 4).written
  failed := (StatusSink.intoTable_writesInto 4).failed
  flushed ran := by
    cases ran
    rfl

def tornRun : SyncRun .transactions where
  dispatcher := .sample
  options := ⟨false, 4, false⟩
  skipProcessed := true
  answers := [.replied 201 ""]
  holder :=
    { Store := Table
      sheet := id
      holding := id
      sheet_holding := id_eq
      sink := { StatusSink.intoTable 4 with flush := throw (.said "disk full") }
      into := intoTable_writesInto_torn }

def resendingRun : SyncRun .transactions where
  dispatcher := .sample
  options := ⟨true, 4, true⟩
  skipProcessed := true
  answers := [.replied 500 "", .replied 201 ""]
  holder := .inMemory 4

def twoRows : Table where
  name := "Transactions"
  rows := [
    [.text "amount", .text "category", .text "description", .text "date", .text "status"],
    [.text "12.5", .text "food", .empty, .text "2024-05-01"],
    [.text "3", .text "rent", .text "May", .text "2024-05-02", .text "HTTP 500"]]

theorem accepted_row_stays_out_torn :
    resendingRun.LeavesOut (leavesAll [tornRun] twoRows) ⟨1⟩ ∧
      (resendingRun.extraction (leavesAll [tornRun] twoRows)).rows = [⟨2⟩] := by
  have member : (⟨1⟩, "OK") ∈ statusesIn (tornRun.journal twoRows) := by
    decide +kernel
  rcases List.append_of_mem (mem_statusesIn.mp member) with ⟨before, rest, written⟩
  have statement := accepted_row_stays_out [] tornRun [resendingRun] twoRows
    (by simp [resendingRun]) written (by decide)
  exact ⟨statement.2.2 [] resendingRun [] rfl, by decide +kernel⟩

end SyncRun

end SheetPost
