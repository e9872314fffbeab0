import SheetPost.Proofs.Posting.Batch
import SheetPost.Proofs.Posting.Extraction
import SheetPost.Proofs.Posting.Rounds

/-!
# What all ways of posting have in common

Whether records go out one by one, in one request, or one by one after one request for all has
failed, the same can be said: after an opening that depends on the way alone, requests go out for
the rows in order; no row is sent again once its status is written; the sheet changes by the
statuses written; and a run that returns has given each row an outcome and written it.
-/

namespace SheetPost

namespace Dispatcher

open Conversation Conversing

/-- What posting an extraction has done, in whatever way, with the sheet before and after. -/
structure SheetPosted {α : Type} [SheetRecord α] (dispatcher : Dispatcher)
    (extraction : Extraction α) (opening : List Request) (before : Table) (events : List Event)
    (result : Except Failure SyncReport) (after : Table) : Prop where
  requests : ∃ sent, sent <+: extraction.entries ∧
    requestsIn events = opening ++ sent.map fun entry => dispatcher.creation entry.2
  split : ∀ {early late row status}, events = early ++ .statusWritten row status :: late →
    ∃ sent later, sent ++ later <+: extraction.entries ∧ row ∉ later.map (·.1) ∧
      (requestsIn early = opening ++ sent.map fun entry => dispatcher.creation entry.2) ∧
      requestsIn late = later.map fun entry => dispatcher.creation entry.2
  sheet : ∃ torn,
    after = before.marked (SheetRecord.statusColumn α) (statusesIn events ++ torn) ∧
      (statusesIn events ++ torn).map (·.1) <+: extraction.rows
  returned : ∀ report, result = .ok report → ∃ mode outcomes reported,
    report = (SyncReport.mk mode outcomes reported).withAlreadyProcessed
      extraction.alreadyProcessed ∧
    outcomes.map (·.1) = extraction.rows ∧ (∀ entry ∈ outcomes, entry.2.HasStatus) ∧
    after = before.marked (SheetRecord.statusColumn α) (statusesOf outcomes)

section Ways

variable {α σ : Type} [SheetRecord α] {dispatcher : Dispatcher} {sink : StatusSink σ}
variable {view : σ → Table} {store after : σ} {events : List Event}

theorem RowsPosted.posted {extraction : Extraction α} {answers left : List Answer}
    {result : Except Failure (List (RowPosition × Outcome))} (nodup : extraction.rows.Nodup)
    (into : sink.WritesInto view (SheetRecord.statusColumn α)) (mode : PostingMode)
    (posted : dispatcher.RowsPosted sink extraction.entries answers store events result left
      after) :
    dispatcher.SheetPosted extraction [] (view store) events
      (result.map fun outcomes =>
        { (SyncReport.mk .single outcomes none).withAlreadyProcessed
            extraction.alreadyProcessed with mode := mode })
      (view after) := by
  rcases posted.sheet into with ⟨torn, same, initial, _⟩
  refine ⟨posted.requests, ?_, ⟨torn, same, initial⟩, ?_⟩
  · intro early late row status split
    rcases posted.split split with ⟨sent, later, ordered, member, requests, requestsLater⟩
    refine ⟨sent, later, ordered, ?_, requests, requestsLater⟩
    have rowsOrdered : (sent ++ later).map (·.1) <+: extraction.rows := ordered.map _
    have apart := rowsOrdered.sublist.nodup nodup
    rw [List.map_append] at apart
    exact fun memberLater => (List.nodup_append.mp apart).2.2 row member row memberLater rfl
  · intro report returned
    rcases map_eq_ok_iff.mp returned with ⟨outcomes, done, rfl⟩
    rcases posted.of_ok done with ⟨rows, _, _, told⟩
    exact ⟨mode, outcomes, none, rfl, rows, told, posted.marked into done⟩

theorem BatchPosted.posted {extraction : Extraction NewTransaction} {workers : Nat}
    {answer : Answer} {result : Except Failure (List (RowPosition × Outcome) × Totals)}
    (into : sink.WritesInto view (SheetRecord.statusColumn NewTransaction))
    (posted : dispatcher.BatchPosted sink extraction workers answer store events result after) :
    dispatcher.SheetPosted extraction [dispatcher.batch extraction.records workers] (view store)
      events
      (result.map fun decided =>
        (SyncReport.mk .bulk decided.1 (some decided.2)).withAlreadyProcessed
          extraction.alreadyProcessed)
      (view after) := by
  rcases posted.sheet into with ⟨torn, same, initial, whole⟩
  refine ⟨⟨[], List.nil_prefix, posted.requests⟩, ?_, ⟨torn, same, initial⟩, ?_⟩
  · intro early late row status split
    rcases posted.split split with ⟨requests, none⟩
    exact ⟨[], [], List.nil_prefix, List.not_mem_nil, requests, none⟩
  · intro report returned
    rcases map_eq_ok_iff.mp returned with ⟨⟨outcomes, totals⟩, done, rfl⟩
    rcases whole _ done with ⟨_, _, decided⟩
    rcases hasStatus_of_bulkVerdict decided with ⟨rows, told⟩
    exact ⟨.bulk, outcomes, some totals, rfl, rows, told, posted.marked into done⟩

theorem SheetPosted.opened {extraction : Extraction α} {opening : List Request}
    {result : Except Failure SyncReport} {sheet sheetAfter : Table} (request : Request)
    (posted : dispatcher.SheetPosted extraction opening sheet events result sheetAfter) :
    dispatcher.SheetPosted extraction (request :: opening) sheet (.requested request :: events)
      result sheetAfter := by
  refine ⟨?_, ?_, posted.sheet, posted.returned⟩
  · rcases posted.requests with ⟨sent, initial, same⟩
    exact ⟨sent, initial, congrArg (request :: ·) same⟩
  · intro early late row status split
    cases early with
    | nil => cases split
    | cons event early =>
        rcases List.cons_eq_cons.mp split with ⟨rfl, rest⟩
        rcases posted.split rest with ⟨sent, later, initial, apart, same, sameLater⟩
        exact ⟨sent, later, initial, apart, congrArg (request :: ·) same, sameLater⟩

end Ways

theorem resend_posted {α σ : Type} [SheetRecord α] (dispatcher : Dispatcher) (sink : StatusSink σ)
    (extraction : Extraction α) (warning : String) (before : Conversation σ) :
    ∃ events result after,
      (do
        Conversing.note .warn warning
        let report ← dispatcher.dispatchEach extraction sink
        return { report with mode := .bulkFallback } : Conversing Failure σ SyncReport) before =
        (result.map fun outcomes =>
          { (SyncReport.mk .single outcomes none).withAlreadyProcessed
              extraction.alreadyProcessed with mode := .bulkFallback }, after) ∧
      dispatcher.RowsPosted sink extraction.entries before.answers before.store events result
        after.answers after.store ∧
      Adds before after events := by
  rcases note_apply (ε := Failure) .warn warning before with ⟨noted, ranNote, remarked⟩
  rcases dispatcher.dispatchEach_posted sink extraction noted with
    ⟨events, result, after, ran, posted, adds⟩
  rw [remarked.answers, remarked.store] at posted
  refine ⟨events, result, after, (bind_ok ranNote).trans ?_, posted, remarked.adds.trans adds⟩
  cases result with
  | error failure => exact bind_error ran
  | ok outcomes => exact bind_ok ran

end Dispatcher

/-! ## The sheets that are posted -/

inductive PostedSheet where
  | transactions
  | budgets

namespace PostedSheet

abbrev Record : PostedSheet → Type
  | transactions => NewTransaction
  | budgets => NewBudget

instance : (kind : PostedSheet) → SheetRecord kind.Record
  | transactions => inferInstanceAs (SheetRecord NewTransaction)
  | budgets => inferInstanceAs (SheetRecord NewBudget)

def dispatch {σ : Type} (kind : PostedSheet) (dispatcher : Dispatcher)
    (extraction : Extraction kind.Record) (options : SyncOptions) (sink : StatusSink σ) :
    Conversing Failure σ SyncReport :=
  match kind with
  | transactions => dispatcher.syncTransactions extraction options sink
  | budgets => dispatcher.dispatchEach extraction sink

def opening (kind : PostedSheet) (dispatcher : Dispatcher) (extraction : Extraction kind.Record)
    (options : SyncOptions) : List Request :=
  match kind with
  | transactions =>
      if options.bulk then [dispatcher.batch extraction.records options.workers] else []
  | budgets => []

open Conversation Conversing Dispatcher

section Ways

variable {σ : Type} (dispatcher : Dispatcher) (sink : StatusSink σ) (options : SyncOptions)

/-- What posting a sheet can come to, with one case for each way to send its rows. -/
inductive WayPosted (answers : List Answer) (store : σ) :
    (kind : PostedSheet) → Extraction kind.Record →
      List Event → Except Failure SyncReport → σ → Prop
  | each {kind : PostedSheet} {extraction : Extraction kind.Record} {events : List Event}
      {result : Except Failure (List (RowPosition × Outcome))} {left : List Answer} {after : σ}
      (opening : kind.opening dispatcher extraction options = [])
      (posted : dispatcher.RowsPosted sink extraction.entries answers store events result left
        after) :
      WayPosted answers store kind extraction events
        (result.map fun outcomes =>
          (SyncReport.mk .single outcomes none).withAlreadyProcessed extraction.alreadyProcessed)
        after
  | all {extraction : Extraction NewTransaction} {events : List Event}
      {result : Except Failure (List (RowPosition × Outcome) × Totals)} {after : σ}
      (bulk : options.bulk = true)
      (posted : dispatcher.BatchPosted sink extraction options.workers (Answer.next answers) store
        events result after) :
      WayPosted answers store .transactions extraction events
        (result.map fun decided =>
          (SyncReport.mk .bulk decided.1 (some decided.2)).withAlreadyProcessed
            extraction.alreadyProcessed)
        after
  | resent {extraction : Extraction NewTransaction} {events : List Event}
      {result : Except Failure (List (RowPosition × Outcome))} {left : List Answer} {after : σ}
      {failure : Failure} (bulk : options.bulk = true)
      (undecided : bulkVerdict extraction.rows (Answer.next answers) = .error failure)
      (posted : dispatcher.RowsPosted sink extraction.entries answers.tail store events result left
        after) :
      WayPosted answers store .transactions extraction
        (.requested (dispatcher.batch extraction.records options.workers) :: events)
        (result.map fun outcomes =>
          { (SyncReport.mk .single outcomes none).withAlreadyProcessed
              extraction.alreadyProcessed with mode := .bulkFallback })
        after

theorem dispatch_way (kind : PostedSheet) (extraction : Extraction kind.Record)
    (before : Conversation σ) :
    ∃ events result after,
      kind.dispatch dispatcher extraction options sink before = (result, after) ∧
      WayPosted dispatcher sink options before.answers before.store kind extraction events result
        after.store ∧
      Adds before after events := by
  have eachWay : kind.opening dispatcher extraction options = [] →
      kind.dispatch dispatcher extraction options sink =
        dispatcher.dispatchEach extraction sink →
      ∃ events result after,
        kind.dispatch dispatcher extraction options sink before = (result, after) ∧
        WayPosted dispatcher sink options before.answers before.store kind extraction events result
          after.store ∧
        Adds before after events := by
    intro opening same
    rcases dispatcher.dispatchEach_posted sink extraction before with
      ⟨events, result, after, ran, posted, adds⟩
    exact ⟨events, _, after, same ▸ ran, .each opening posted, adds⟩
  cases kind with
  | budgets => exact eachWay rfl rfl
  | transactions =>
      cases bulk : options.bulk with
      | false =>
          refine eachWay ?_ ?_
          · rw [opening, bulk]
            rfl
          · rw [dispatch, syncTransactions, bulk]
            rfl
      | true =>
          have split : dispatch .transactions dispatcher extraction options sink =
              tryCatch (dispatcher.dispatchBulk extraction options.workers sink) _ :=
            if_pos bulk
          rw [split]
          rcases dispatcher.dispatchBulk_posted sink extraction options.workers before with
            ⟨events, result, middle, ran, posted, answers, adds⟩
          cases result with
          | ok decided => exact ⟨events, _, middle, tryCatch_ok ran, .all bulk posted, adds⟩
          | error failure =>
              cases again : options.fallback && allowsFallback failure with
              | false =>
                  refine ⟨events, .error failure, middle, ?_, .all bulk posted, adds⟩
                  refine (tryCatch_error ran).trans ?_
                  rw [again]
                  rfl
              | true =>
                  -- The whole was refused before anything was written, so the rows start afresh.
                  rcases posted.of_allowsFallback rfl (Bool.and_eq_true_iff.mp again).2 with
                    ⟨rfl, sameStore, undecided⟩
                  rcases dispatcher.resend_posted sink extraction _ middle with
                    ⟨events, result, after, ranAgain, postedAgain, addsAgain⟩
                  rw [sameStore, answers] at postedAgain
                  refine ⟨_, _, after, (tryCatch_error ran).trans ?_,
                    .resent bulk undecided postedAgain, adds.trans addsAgain⟩
                  rw [again]
                  exact ranAgain

variable {dispatcher sink options} {kind : PostedSheet} {extraction : Extraction kind.Record}

theorem WayPosted.posted {answers : List Answer} {store after : σ} {events : List Event}
    {result : Except Failure SyncReport} {view : σ → Table} (nodup : extraction.rows.Nodup)
    (into : sink.WritesInto view (SheetRecord.statusColumn kind.Record))
    (way : WayPosted dispatcher sink options answers store kind extraction events result after) :
    dispatcher.SheetPosted extraction (kind.opening dispatcher extraction options) (view store)
      events result (view after) := by
  cases way with
  | each opening posted =>
      rw [opening]
      exact posted.posted nodup into .single
  | all bulk posted =>
      rw [opening, if_pos bulk]
      exact posted.posted into
  | resent bulk _ posted =>
      rw [opening, if_pos bulk]
      exact (posted.posted nodup into .bulkFallback).opened _

theorem dispatch_posted (kind : PostedSheet) (dispatcher : Dispatcher)
    {extraction : Extraction kind.Record} (nodup : extraction.rows.Nodup) (options : SyncOptions)
    {sink : StatusSink σ} {view : σ → Table}
    (into : sink.WritesInto view (SheetRecord.statusColumn kind.Record))
    (before : Conversation σ) :
    ∃ events result after,
      kind.dispatch dispatcher extraction options sink before = (result, after) ∧
      dispatcher.SheetPosted extraction (kind.opening dispatcher extraction options)
        (view before.store) events result (view after.store) ∧
      Adds before after events := by
  rcases dispatch_way dispatcher sink options kind extraction before with
    ⟨events, result, after, ran, way, adds⟩
  exact ⟨events, result, after, ran, way.posted nodup into, adds⟩

end Ways

end PostedSheet

end SheetPost
