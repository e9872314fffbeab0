import SheetPost.Proofs.Posting.Modes

namespace SheetPost

structure SheetHolder (column : Nat) where
  Store : Type
  sheet : Store → Table
  holding : Table → Store
  sheet_holding : ∀ table, sheet (holding table) = table
  sink : StatusSink Store
  into : sink.WritesInto sheet column

def SheetHolder.inMemory (column : Nat) : SheetHolder column where
  Store := Table
  sheet := id
  holding := id
  sheet_holding _ := rfl
  sink := .intoTable column
  into := StatusSink.intoTable_writesInto column

/-- All that a run over a sheet depends on besides the sheet. -/
structure SyncRun (kind : PostedSheet) where
  dispatcher : Dispatcher
  options : SyncOptions
  skipProcessed : Bool
  answers : List Answer
  holder : SheetHolder (SheetRecord.statusColumn kind.Record)

inductive SyncResult where
  | nothing (alreadyProcessed : List RowPosition)
  | posted (result : Except Failure SyncReport)

namespace SyncResult

def report? : SyncResult → Option SyncReport
  | posted (.ok report) => some report
  | _ => none

theorem report?_eq_some_iff {result : SyncResult} {report : SyncReport} :
    result.report? = some report ↔ result = .posted (.ok report) := by
  rcases result with _ | (_ | _) <;> simp [report?]

end SyncResult

namespace SyncRun

open Conversation

variable {kind : PostedSheet}

def extraction (run : SyncRun kind) (sheet : Table) : Extraction kind.Record :=
  extract kind.Record sheet run.skipProcessed

def opening (run : SyncRun kind) (sheet : Table) : List Request :=
  kind.opening run.dispatcher (run.extraction sheet) run.options

def perform (run : SyncRun kind) (sheet : Table) : SyncResult × List Event × Table :=
  if (run.extraction sheet).isEmpty then
    (.nothing (run.extraction sheet).alreadyProcessed, [], sheet)
  else
    let (result, after) := kind.dispatch run.dispatcher (run.extraction sheet) run.options
      run.holder.sink ⟨run.answers, [], run.holder.holding sheet⟩
    (.posted result, after.journal, run.holder.sheet after.store)

def result (run : SyncRun kind) (sheet : Table) : SyncResult :=
  (run.perform sheet).1

def journal (run : SyncRun kind) (sheet : Table) : List Event :=
  (run.perform sheet).2.1

def leaves (run : SyncRun kind) (sheet : Table) : Table :=
  (run.perform sheet).2.2

def leavesAll (runs : List (SyncRun kind)) (sheet : Table) : Table :=
  runs.foldl (fun sheet run => run.leaves sheet) sheet

/-! ## What one run does -/

theorem performed (run : SyncRun kind) (sheet : Table) :
    ((run.extraction sheet).isEmpty = true ∧
      run.result sheet = .nothing (run.extraction sheet).alreadyProcessed ∧
      run.journal sheet = [] ∧ run.leaves sheet = sheet) ∨
    ∃ result, run.result sheet = .posted result ∧
      run.dispatcher.SheetPosted (run.extraction sheet) (run.opening sheet) sheet
        (effectsIn (run.journal sheet)) result (run.leaves sheet) := by
  cases empty : (run.extraction sheet).isEmpty with
  | true =>
      have done : run.perform sheet =
          (.nothing (run.extraction sheet).alreadyProcessed, [], sheet) := by
        rw [perform, if_pos empty]
      exact .inl ⟨rfl, congrArg (·.1) done, congrArg (·.2.1) done, congrArg (·.2.2) done⟩
  | false =>
      have nodup : (run.extraction sheet).rows.Nodup := Extraction.rows_nodup _ _
      rcases kind.dispatch_posted run.dispatcher nodup run.options run.holder.into
        ⟨run.answers, [], run.holder.holding sheet⟩ with
        ⟨events, result, after, ran, posted, added, journal, rfl⟩
      have done : run.perform sheet =
          (.posted result, after.journal, run.holder.sheet after.store) := by
        rw [perform, if_neg (by rw [empty]; decide), ran]
      rw [run.holder.sheet_holding] at posted
      refine .inr ⟨result, congrArg (·.1) done, ?_⟩
      rw [SyncRun.journal, leaves, done, journal]
      exact posted

theorem of_report {run : SyncRun kind} {sheet : Table} {report : SyncReport}
    (returned : run.result sheet = .posted (.ok report)) :
    ∃ mode outcomes reported,
      report = (SyncReport.mk mode outcomes reported).withAlreadyProcessed
        (run.extraction sheet).alreadyProcessed ∧
      outcomes.map (·.1) = (run.extraction sheet).rows ∧ (∀ entry ∈ outcomes, entry.2.HasStatus) ∧
      run.leaves sheet =
        sheet.marked (SheetRecord.statusColumn kind.Record) (statusesOf outcomes) := by
  rcases run.performed sheet with ⟨_, nothing, _⟩ | ⟨result, ended, posted⟩
  · cases nothing.symm.trans returned
  · cases ended.symm.trans returned
    exact posted.returned report rfl

/-- What a run sends: nothing, or the request it opens with and then some first rows in order. -/
theorem requests (run : SyncRun kind) (sheet : Table) :
    requestsIn (run.journal sheet) = [] ∨
    ∃ sent, sent <+: (run.extraction sheet).entries ∧
      requestsIn (run.journal sheet) =
        run.opening sheet ++ sent.map fun entry => run.dispatcher.creation entry.2 := by
  rcases run.performed sheet with ⟨_, _, journal, _⟩ | ⟨_, _, posted⟩
  · rw [journal]
    exact .inl rfl
  · rw [← requestsIn_effectsIn]
    exact .inr posted.requests

theorem leaves_marked (run : SyncRun kind) (sheet : Table) :
    ∃ torn,
      run.leaves sheet = sheet.marked (SheetRecord.statusColumn kind.Record)
        (statusesIn (run.journal sheet) ++ torn) ∧
      (statusesIn (run.journal sheet) ++ torn).map (·.1) <+: (run.extraction sheet).rows := by
  rcases run.performed sheet with ⟨_, _, journal, same⟩ | ⟨_, _, posted⟩
  · rw [journal, same]
    exact ⟨[], rfl, List.nil_prefix⟩
  · rw [← statusesIn_effectsIn]
    exact posted.sheet

theorem eligible_leaves (run : SyncRun kind) (sheet : Table) :
    eligible kind.Record (run.leaves sheet) = eligible kind.Record sheet := by
  rcases run.leaves_marked sheet with ⟨torn, same, initial⟩
  rw [same]
  apply eligible_marked
  intro entry member
  exact Extraction.inside_of_mem_rows (initial.subset (List.mem_map_of_mem member))

theorem get_leaves_other (run : SyncRun kind) (sheet : Table) {row : RowPosition} {column : Nat}
    (apart : row ∉ (run.extraction sheet).rows ∨
      column ≠ SheetRecord.statusColumn kind.Record) :
    (run.leaves sheet).get row column = sheet.get row column := by
  rcases run.leaves_marked sheet with ⟨torn, same, initial⟩
  rw [same]
  exact Table.get_marked_other _ _
    (apart.imp_left fun notMember member => notMember (initial.subset member))

theorem get_leaves_written (run : SyncRun kind) (sheet : Table) {row : RowPosition}
    {status : String} (written : (row, status) ∈ statusesIn (run.journal sheet)) :
    row ∈ (run.extraction sheet).rows ∧
      (run.leaves sheet).get row (SheetRecord.statusColumn kind.Record) = .ofText status := by
  rcases run.leaves_marked sheet with ⟨torn, same, initial⟩
  have member := List.mem_append_left torn written
  have nodup : (run.extraction sheet).rows.Nodup := Extraction.rows_nodup _ _
  refine ⟨initial.subset (List.mem_map_of_mem member), ?_⟩
  rw [same]
  exact Table.get_marked_of_mem _ _ (initial.sublist.nodup nodup) member

end SyncRun

end SheetPost
