import SheetPost.Proofs.Posting.Attribution
import SheetPost.Proofs.Posting.Modes

namespace SheetPost

namespace Answer

def refusesWhole : Answer → Bool
  | replied status _ => status != 200
  | failed _ => true
  | cutOff .. => false

def status? : Answer → Option Nat
  | replied status _ | cutOff status _ => some status
  | failed _ => none

theorem refusesWhole_of_status? {answer : Answer} (good : answer.status? = some 200) :
    answer.refusesWhole = false := by
  cases answer <;> cases good <;> rfl

end Answer

namespace Dispatcher

open Conversation Conversing

variable {α σ : Type} [SheetRecord α]

/-! ## Which failures allow it -/

theorem allowsFallback_of_bulkVerdict {rows : List RowPosition} {answer : Answer}
    {failure : Failure} (undecided : bulkVerdict rows answer = .error failure) :
    allowsFallback failure = answer.refusesWhole := by
  cases answer with
  | failed reason =>
      cases undecided
      rfl
  | cutOff status reason =>
      cases undecided
      rfl
  | replied status body =>
      change bulkOutcomes rows ⟨_, status, body⟩ = _ at undecided
      by_cases good : status = 200
      · subst good
        have succeeds : (Operation.bulkImport [] 0).succeeds 200 = true := rfl
        simp only [bulkOutcomes, succeeds, if_true] at undecided
        -- With this status the batch may have been taken in, whatever the answer says besides.
        split at undecided
        · split at undecided <;> cases undecided
          rfl
        · cases undecided
          rfl
      · have fails : (Operation.bulkImport [] 0).succeeds status = false := by
          simpa [Operation.succeeds, Operation.successStatuses] using good
        rw [fails] at undecided
        cases undecided
        simp [allowsFallback, Answer.refusesWhole, good]

/-- Of all that can go wrong with a request for all rows, in the answer or in the sink, only the
refusal of the whole is a failure to go on from. -/
theorem BatchPosted.allowsFallback_iff {dispatcher : Dispatcher} {sink : StatusSink σ}
    {extraction : Extraction NewTransaction} {workers : Nat} {answer : Answer} {store after : σ}
    {events : List Event} {result : Except Failure (List (RowPosition × Outcome) × Totals)}
    (posted : dispatcher.BatchPosted sink extraction workers answer store events result after) :
    (∃ failure, result = .error failure ∧ allowsFallback failure = true) ↔
      answer.refusesWhole = true := by
  cases posted with
  | @undecided failure undecided =>
      rw [← allowsFallback_of_bulkVerdict undecided]
      simp
  | decided decided written =>
      rcases bulkVerdict_ok decided with ⟨body, _, rfl, _⟩
      refine iff_of_false ?_ nofun
      rintro ⟨failure, failed, allows⟩
      rcases written.of_error (map_eq_error_iff.mp failed) with ⟨error, rfl⟩
      cases allows

/-! ## The requests of the two ways differ -/

theorem creation_ne_batch (dispatcher : Dispatcher) (record : NewTransaction)
    (records : List NewTransaction) (workers : Nat) :
    dispatcher.creation record ≠ dispatcher.batch records workers := by
  intro same
  have bodies : some record.body = some (Json.list (records.map (·.body))) :=
    congrArg (·.body) same
  cases bodies

theorem RowsPosted.sends_iff {dispatcher : Dispatcher} {sink : StatusSink σ}
    {entries : List (RowPosition × α)} {answers left : List Answer} {store after : σ}
    {events : List Event} {result : Except Failure (List (RowPosition × Outcome))}
    (posted : dispatcher.RowsPosted sink entries answers store events result left after) :
    (∃ record : α, dispatcher.creation record ∈ requestsIn events) ↔ entries ≠ [] := by
  cases posted with
  | nil => simp [requestsIn]
  | @cons entry _ _ _ _ _ _ _ _ _ _ first _ =>
      refine iff_of_true ⟨entry.2, ?_⟩ (List.cons_ne_nil _ _)
      simp [first.requests]
  | @stopped entry _ _ _ _ _ _ first =>
      refine iff_of_true ⟨entry.2, ?_⟩ (List.cons_ne_nil _ _)
      simp [first.requests]

/-! ## Two runs compared -/

variable (dispatcher : Dispatcher) (sink : StatusSink σ) (extraction : Extraction NewTransaction)

/-- After one request for all rows, a run has done exactly what posting them one by one does in
another conversation, and to the same end; only the mode in the report tells them apart. -/
def TakenUp (workers : Nat) (events : List Event) (result : Except Failure SyncReport)
    (after other : Conversation σ) : Prop :=
  ∃ more resultEach afterEach,
    dispatcher.dispatchEach extraction sink other = (resultEach, afterEach) ∧
    Adds other afterEach more ∧
    events = .requested (dispatcher.batch extraction.records workers) :: more ∧
    result = resultEach.map (fun report => { report with mode := .bulkFallback }) ∧
    after.store = afterEach.store ∧ after.answers = afterEach.answers

theorem syncTransactions_taken_up (options : SyncOptions) (bulk : options.bulk = true)
    (fallback : options.fallback = true) (before : Conversation σ)
    (refused : (Answer.next before.answers).refusesWhole = true) :
    ∃ events result after,
      dispatcher.syncTransactions extraction options sink before = (result, after) ∧
      Adds before after events ∧
      ((∃ record : NewTransaction, dispatcher.creation record ∈ requestsIn events) ↔
        extraction.entries ≠ []) ∧
      ∀ other : Conversation σ, other.answers = before.answers.tail →
        other.store = before.store →
          dispatcher.TakenUp sink extraction options.workers events result after other := by
  rcases dispatcher.dispatchBulk_posted sink extraction options.workers before with
    ⟨_, resultBulk, middle, ranBulk, postedBulk, answers, adds⟩
  rcases postedBulk.allowsFallback_iff.mpr refused with ⟨failure, rfl, allows⟩
  -- The batch has left the store alone, so the rows find what they would have found without it.
  rcases postedBulk.of_allowsFallback rfl allows with ⟨rfl, store, _⟩
  rcases dispatcher.resend_posted sink extraction _ middle with
    ⟨events, result, after, ran, posted, addsMore⟩
  rw [answers, store] at posted
  have ranWhole : dispatcher.syncTransactions extraction options sink before =
      (result.map fun outcomes =>
        { (SyncReport.mk .single outcomes none).withAlreadyProcessed
            extraction.alreadyProcessed with mode := .bulkFallback }, after) := by
    rw [syncTransactions, if_pos bulk]
    refine (tryCatch_error ranBulk).trans ?_
    rw [fallback, allows]
    exact ran
  refine ⟨_, _, after, ranWhole, adds.trans addsMore, ?_, ?_⟩
  · rw [← posted.sends_iff]
    constructor
    · rintro ⟨record, sent⟩
      rcases List.mem_cons.mp sent with same | more
      · exact absurd same (dispatcher.creation_ne_batch _ _ _)
      · exact ⟨record, more⟩
    · rintro ⟨record, more⟩
      exact ⟨record, List.mem_cons_of_mem _ more⟩
  · intro other sameAnswers sameStore
    rcases dispatcher.dispatchEach_posted sink extraction other with
      ⟨eventsEach, resultEach, afterEach, ranEach, postedEach, addsEach⟩
    rw [sameAnswers, sameStore] at postedEach
    rcases posted.unique postedEach with ⟨rfl, rfl, left, stores⟩
    refine ⟨events, _, afterEach, ranEach, addsEach, rfl, ?_, stores, left⟩
    cases result <;> rfl

theorem syncTransactions_kept (options : SyncOptions) (bulk : options.bulk = true)
    (before : Conversation σ)
    (kept : (options.fallback && (Answer.next before.answers).refusesWhole) = false) :
    dispatcher.syncTransactions extraction options sink before =
      dispatcher.dispatchBulk extraction options.workers sink before := by
  rcases dispatcher.dispatchBulk_posted sink extraction options.workers before with
    ⟨_, result, after, ran, posted, _⟩
  rw [syncTransactions, if_pos bulk, ran]
  cases result with
  | ok decided => exact tryCatch_ok ran
  | error failure =>
      have stays : (options.fallback && allowsFallback failure) = false := by
        cases fallback : options.fallback with
        | false => rfl
        | true =>
            rw [fallback] at kept
            apply Bool.eq_false_iff.mpr
            intro allows
            have refused := posted.allowsFallback_iff.mp ⟨failure, rfl, allows⟩
            cases kept.symm.trans refused
      refine (tryCatch_error ran).trans ?_
      rw [stays]
      rfl

/-- A run that may fall back sends rows one by one exactly if there are rows and the request for all
of them was refused as a whole. It is then a run that posts one by one, and otherwise one that does
not fall back; such a run sends one request. -/
theorem syncTransactions_fallback_refines (workers : Nat) (before : Conversation σ) :
    let answer := Answer.next before.answers
    let batch := dispatcher.batch extraction.records workers
    let falling : SyncOptions := { bulk := true, workers, fallback := true }
    let standing : SyncOptions := { bulk := true, workers, fallback := false }
    (∃ events result after,
      dispatcher.syncTransactions extraction falling sink before = (result, after) ∧
      Adds before after events ∧
      ((∃ record : NewTransaction, dispatcher.creation record ∈ requestsIn events) ↔
        answer.refusesWhole = true ∧ extraction.entries ≠ []) ∧
      (answer.refusesWhole = true →
        ∀ other : Conversation σ, other.answers = before.answers.tail →
          other.store = before.store →
            dispatcher.TakenUp sink extraction workers events result after other) ∧
      (answer.status? = some 200 → requestsIn events = [batch]) ∧
      (answer.refusesWhole = false →
        dispatcher.dispatchBulk extraction workers sink before = (result, after))) ∧
    ∃ events result after,
      dispatcher.syncTransactions extraction standing sink before = (result, after) ∧
      Adds before after events ∧ requestsIn events = [batch] := by
  intro answer batch falling standing
  rcases dispatcher.dispatchBulk_posted sink extraction workers before with
    ⟨eventsBulk, resultBulk, afterBulk, ranBulk, postedBulk, _, addsBulk⟩
  have once : requestsIn eventsBulk = [batch] := postedBulk.requests
  constructor
  · cases refused : answer.refusesWhole with
    | true =>
        rcases dispatcher.syncTransactions_taken_up sink extraction falling rfl rfl before
          refused with ⟨events, result, after, ran, adds, sends, same⟩
        refine ⟨events, result, after, ran, adds, ?_, fun _ => same, ?_, nofun⟩
        · rw [sends]
          exact (and_iff_right rfl).symm
        · intro good
          cases (Answer.refusesWhole_of_status? good).symm.trans refused
    | false =>
        have same := dispatcher.syncTransactions_kept sink extraction falling rfl before
          refused
        refine ⟨eventsBulk, _, afterBulk, same.trans ranBulk, addsBulk, ?_, nofun,
          fun _ => once, fun _ => ranBulk⟩
        refine iff_of_false ?_ (fun both => nomatch both.1)
        rintro ⟨record, member⟩
        rw [once] at member
        exact dispatcher.creation_ne_batch _ _ _ (List.mem_singleton.mp member)
  · have same := dispatcher.syncTransactions_kept sink extraction standing rfl before rfl
    exact ⟨eventsBulk, _, afterBulk, same.trans ranBulk, addsBulk, once⟩

theorem syncTransactions_fallback_refines_refused :
    let extraction := extract NewTransaction sparseSheet true
    let falling : SyncOptions := { bulk := true, workers := 4, fallback := true }
    let left : List Answer := [.replied 201 "", .replied 409 "exists"]
    (∃ events result after,
      sample.syncTransactions extraction falling (.intoTable 4)
        ⟨.replied 502 "bad gateway" :: left, [], sparseSheet⟩ = (result, after) ∧
      Adds ⟨.replied 502 "bad gateway" :: left, [], sparseSheet⟩ after events ∧
      (∃ record : NewTransaction, sample.creation record ∈ requestsIn events) ∧
      sample.TakenUp (.intoTable 4) extraction 4 events result after ⟨left, [], sparseSheet⟩) ∧
    ∃ events result after,
      sample.syncTransactions extraction falling (.intoTable 4)
        ⟨.replied 200 "<html>" :: left, [], sparseSheet⟩ = (result, after) ∧
      Adds ⟨.replied 200 "<html>" :: left, [], sparseSheet⟩ after events ∧
      requestsIn events = [sample.batch extraction.records 4] := by
  intro extraction falling left
  have nonempty : extraction.entries ≠ [] := by decide +kernel
  constructor
  · rcases syncTransactions_fallback_refines sample (.intoTable 4) extraction 4
      ⟨.replied 502 "bad gateway" :: left, [], sparseSheet⟩ with
      ⟨⟨events, result, after, ran, adds, sends, same, _⟩, _⟩
    exact ⟨events, result, after, ran, adds, sends.mpr ⟨rfl, nonempty⟩, same rfl _ rfl rfl⟩
  · rcases syncTransactions_fallback_refines sample (.intoTable 4) extraction 4
      ⟨.replied 200 "<html>" :: left, [], sparseSheet⟩ with
      ⟨⟨events, result, after, ran, adds, _, _, once, _⟩, _⟩
    exact ⟨events, result, after, ran, adds, once rfl⟩

end Dispatcher

/-! ## The requests of every way -/

namespace PostedSheet

open Conversation Conversing Dispatcher

def Asks (kind : PostedSheet) (dispatcher : Dispatcher) (extraction : Extraction kind.Record)
    (options : SyncOptions) (answers : List Answer) (requests : List Request) : Prop :=
  ∃ sent, sent <+: extraction.entries ∧
    requests = kind.opening dispatcher extraction options ++
      sent.map (fun entry => dispatcher.creation entry.2) ∧
    (sent ≠ [] ↔ extraction.entries ≠ [] ∧
      (kind.opening dispatcher extraction options = [] ∨
        options.fallback = true ∧ (Answer.next answers).refusesWhole = true))

variable {kind : PostedSheet} {σ : Type}

end PostedSheet

end SheetPost
