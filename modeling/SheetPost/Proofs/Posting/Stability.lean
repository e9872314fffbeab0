import SheetPost.Proofs.Posting.Attribution
import SheetPost.Proofs.Posting.Runs

namespace SheetPost

namespace PostedSheet

open Conversation Conversing Dispatcher

def batchBodies (kind : PostedSheet) (records : List kind.Record) : List (Option Json) :=
  match kind with
  | transactions => [some (.list (records.map (NewTransaction.body ·)))]
  | budgets => []

def recordBodies (kind : PostedSheet) (records : List kind.Record) : List (Option Json) :=
  records.map fun record => (SheetRecord.create record).body

/-- The bodies that a run has sent when it returns with a report of this mode. -/
def sentBodies (kind : PostedSheet) (records : List kind.Record) : PostingMode → List (Option Json)
  | .single => kind.recordBodies records
  | .bulk => kind.batchBodies records
  | .bulkFallback => kind.batchBodies records ++ kind.recordBodies records

theorem opening_bodies (kind : PostedSheet) (dispatcher : Dispatcher)
    (extraction : Extraction kind.Record) (options : SyncOptions) :
    (kind.opening dispatcher extraction options).map (·.body) =
      if options.bulk then kind.batchBodies extraction.records else [] := by
  rcases options with ⟨bulk, workers, fallback⟩
  cases kind <;> cases bulk <;> rfl

theorem creation_bodies (kind : PostedSheet) (dispatcher : Dispatcher)
    (entries : List (RowPosition × kind.Record)) :
    (entries.map fun entry => dispatcher.creation entry.2).map (·.body) =
      kind.recordBodies (entries.map (·.2)) := by
  rw [recordBodies, List.map_map, List.map_map]
  rfl

theorem WayPosted.bodies {σ : Type} {kind : PostedSheet} {extraction : Extraction kind.Record}
    {dispatcher : Dispatcher} {options : SyncOptions} {sink : StatusSink σ} {answers : List Answer}
    {store after : σ} {events : List Event} {result : Except Failure SyncReport}
    {report : SyncReport}
    (way : WayPosted dispatcher sink options answers store kind extraction events result after)
    (returned : result = .ok report) :
    (requestsIn events).map (·.body) = kind.sentBodies extraction.records report.mode := by
  cases way with
  | each _ posted =>
      rcases map_eq_ok_iff.mp returned with ⟨outcomes, done, rfl⟩
      rw [(posted.of_ok done).2.2.1, creation_bodies]
      rfl
  | all _ posted =>
      rcases map_eq_ok_iff.mp returned with ⟨decided, _, rfl⟩
      rw [posted.requests]
      rfl
  | resent _ _ posted =>
      rcases map_eq_ok_iff.mp returned with ⟨outcomes, done, rfl⟩
      change _ :: (requestsIn _).map (·.body) = _
      rw [(posted.of_ok done).2.2.1, creation_bodies transactions]
      rfl

end PostedSheet

namespace SyncRun

variable {kind : PostedSheet}

def bodies (run : SyncRun kind) (sheet : Table) : List (Option Json) :=
  (requestsIn (run.journal sheet)).map (·.body)

theorem bodies_initial (run : SyncRun kind) (sheet : Table) :
    run.bodies sheet <+:
      (if run.options.bulk then kind.batchBodies (run.extraction sheet).records else []) ++
        kind.recordBodies (run.extraction sheet).records := by
  rcases run.requests sheet with none | ⟨sent, initial, same⟩
  · rw [bodies, none]
    exact List.nil_prefix
  · rw [bodies, same, List.map_append, opening, kind.opening_bodies, kind.creation_bodies]
    exact (List.prefix_append_right_inj _).mpr ((initial.map _).map _)

theorem bodies_of_report {run : SyncRun kind} {sheet : Table} {report : SyncReport}
    (returned : run.result sheet = .posted (.ok report)) :
    run.bodies sheet = kind.sentBodies (run.extraction sheet).records report.mode := by
  cases empty : (run.extraction sheet).isEmpty with
  | true =>
      rw [result, perform, if_pos empty] at returned
      cases returned
  | false =>
      have some : ¬(run.extraction sheet).isEmpty = true := by rw [empty]; decide
      cases ran : kind.dispatch run.dispatcher (run.extraction sheet) run.options
        run.holder.sink ⟨run.answers, [], run.holder.holding sheet⟩ with
      | mk result after =>
          have done : run.perform sheet =
              (.posted result, after.journal, run.holder.sheet after.store) := by
            rw [perform, if_neg some, ran]
          rw [SyncRun.result, done] at returned
          rcases PostedSheet.dispatch_way run.dispatcher run.holder.sink run.options kind
            (run.extraction sheet) ⟨run.answers, [], run.holder.holding sheet⟩ with
            ⟨events, resultAs, reached, ranAs, way, adds⟩
          rcases Prod.mk.inj (ranAs.symm.trans ran) with ⟨rfl, rfl⟩
          rw [bodies, journal, done, adds.requests]
          exact way.bodies (SyncResult.posted.inj returned)

/-- However a run has ended, its sheet makes the same records in the same rows as before. So two
runs over all of them, one after the other, send the same bodies as far as both come, and the very
same if both return in the same way. -/
theorem rerun_stable (run : SyncRun kind) (sheet : Table) :
    extract kind.Record (run.leaves sheet) false = extract kind.Record sheet false ∧
    ∀ again : SyncRun kind, run.skipProcessed = false → again.skipProcessed = false →
      (again.options.bulk = run.options.bulk →
        run.bodies sheet <+: again.bodies (run.leaves sheet) ∨
          again.bodies (run.leaves sheet) <+: run.bodies sheet) ∧
      ∀ report reportAgain, run.result sheet = .posted (.ok report) →
        again.result (run.leaves sheet) = .posted (.ok reportAgain) →
          report.mode = reportAgain.mode →
            again.bodies (run.leaves sheet) = run.bodies sheet := by
  have same : extract kind.Record (run.leaves sheet) false = extract kind.Record sheet false := by
    simp only [extract, run.eligible_leaves sheet, Bool.false_and]
  refine ⟨same, ?_⟩
  intro again skips skipsAgain
  have extracted : again.extraction (run.leaves sheet) = run.extraction sheet := by
    rw [extraction, extraction, skips, skipsAgain, same]
  constructor
  · intro bulk
    have initial := again.bodies_initial (run.leaves sheet)
    rw [extracted, bulk] at initial
    exact List.prefix_or_prefix_of_prefix (run.bodies_initial sheet) initial
  · intro report reportAgain returned returnedAgain mode
    rw [bodies_of_report returned, bodies_of_report returnedAgain, extracted, mode]

def wholeRun (answers : List Answer) : SyncRun .transactions where
  dispatcher := .sample
  options := ⟨false, 4, false⟩
  skipProcessed := false
  answers := answers
  holder := .inMemory 4

/-- One run breaks off at its second row, and one goes through. -/
theorem rerun_stable_cut_off :
    let torn := wholeRun [.replied 201 "", .cutOff 500 "reset"]
    let first := wholeRun [.replied 409 "exists"]
    let second := wholeRun [.replied 201 "", .replied 201 "", .replied 201 ""]
    extract NewTransaction (torn.leaves Dispatcher.sparseSheet) false =
        extract NewTransaction Dispatcher.sparseSheet false ∧
      (torn.bodies Dispatcher.sparseSheet <+:
          second.bodies (torn.leaves Dispatcher.sparseSheet) ∨
        second.bodies (torn.leaves Dispatcher.sparseSheet) <+:
          torn.bodies Dispatcher.sparseSheet) ∧
      second.bodies (first.leaves Dispatcher.sparseSheet) =
        first.bodies Dispatcher.sparseSheet := by
  intro torn first second
  have modes : (first.result Dispatcher.sparseSheet).report?.map (·.mode) = some .single ∧
      (second.result (first.leaves Dispatcher.sparseSheet)).report?.map (·.mode) =
        some .single := by
    decide +kernel
  rcases Option.map_eq_some_iff.mp modes.1 with ⟨report, found, mode⟩
  rcases Option.map_eq_some_iff.mp modes.2 with ⟨reportAgain, foundAgain, modeAgain⟩
  refine ⟨(rerun_stable torn Dispatcher.sparseSheet).1, ?_, ?_⟩
  · exact ((rerun_stable torn Dispatcher.sparseSheet).2 second rfl rfl).1 rfl
  · exact ((rerun_stable first Dispatcher.sparseSheet).2 second rfl rfl).2 report reportAgain
      (SyncResult.report?_eq_some_iff.mp found) (SyncResult.report?_eq_some_iff.mp foundAgain)
      (mode.trans modeAgain.symm)

end SyncRun

end SheetPost
