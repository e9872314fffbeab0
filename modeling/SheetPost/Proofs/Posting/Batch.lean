import SheetPost.Proofs.Posting.Reconciliation
import SheetPost.Proofs.Posting.Sink
import SheetPost.Proofs.Posting.Status

namespace SheetPost

namespace Dispatcher

open Conversation Conversing

variable {σ : Type}

def batch (dispatcher : Dispatcher) (records : List NewTransaction) (workers : Nat) : Request :=
  dispatcher.client.sessionRequest (.bulkImport records workers) dispatcher.session

/-- What an answer decides about the rows that were sent in one request. -/
def bulkVerdict (rows : List RowPosition) (answer : Answer) :
    Except Failure (List (RowPosition × Outcome) × Totals) :=
  (Client.classify (.bulkImport [] 0) answer).bind (bulkOutcomes rows)

/-! ## One answer -/

theorem bulkVerdict_ok {rows : List RowPosition} {answer : Answer}
    {outcomes : List (RowPosition × Outcome)} {totals : Totals}
    (decided : bulkVerdict rows answer = .ok (outcomes, totals)) :
    ∃ body reply, answer = .replied 200 body ∧ BulkReply.ofText? body = some reply ∧
      reconcile rows reply = .ok outcomes ∧ totals = ⟨reply.accepted, reply.rejected⟩ := by
  cases answer with
  | failed reason => cases decided
  | cutOff status reason => cases decided
  | replied status body =>
      change bulkOutcomes rows ⟨_, status, body⟩ = _ at decided
      unfold bulkOutcomes at decided
      split at decided
      · next succeeded =>
          have good : status = 200 := by
            simpa [Operation.succeeds, Operation.successStatuses] using succeeded
          subst good
          split at decided
          · next reply read =>
              split at decided
              · next reconciled =>
                  cases decided
                  exact ⟨body, reply, rfl, read, reconciled, rfl⟩
              · cases decided
          · cases decided
      · cases decided

theorem bulkVerdict_reconciled {rows : List RowPosition} {body : String} {reply : BulkReply}
    {outcomes : List (RowPosition × Outcome)} (read : BulkReply.ofText? body = some reply)
    (reconciled : reconcile rows reply = .ok outcomes) :
    bulkVerdict rows (.replied 200 body) = .ok (outcomes, ⟨reply.accepted, reply.rejected⟩) := by
  change bulkOutcomes rows ⟨true, 200, body⟩ = _
  simp only [bulkOutcomes, read, reconciled, if_true]

theorem hasStatus_of_bulkVerdict {rows : List RowPosition} {answer : Answer}
    {outcomes : List (RowPosition × Outcome)} {totals : Totals}
    (decided : bulkVerdict rows answer = .ok (outcomes, totals)) :
    outcomes.map (·.1) = rows ∧ ∀ entry ∈ outcomes, entry.2.HasStatus := by
  rcases bulkVerdict_ok decided with ⟨_, reply, _, _, reconciled, _⟩
  exact ⟨reconciled_rows reconciled, hasStatus_of_reconciled reconciled⟩

theorem noteTotals_apply (reported own : Totals) (before : Conversation σ) :
    ∃ after, noteTotals reported own before = (.ok (), after) ∧ Remarked before after := by
  unfold noteTotals
  split
  · exact ⟨before, rfl, .refl before⟩
  · exact note_apply _ _ before

/-! ## A run -/

variable (dispatcher : Dispatcher) (sink : StatusSink σ)

/-- What a run that sends all records at once can come to. -/
inductive BatchPosted (extraction : Extraction NewTransaction) (workers : Nat) (answer : Answer)
    (store : σ) :
    List Event → Except Failure (List (RowPosition × Outcome) × Totals) → σ → Prop
  | undecided {failure : Failure} (decided : bulkVerdict extraction.rows answer = .error failure) :
      BatchPosted extraction workers answer store
        [.requested (dispatcher.batch extraction.records workers)] (.error failure) store
  | decided {outcomes : List (RowPosition × Outcome)} {totals : Totals} {events : List Event}
      {result : Except Failure Unit} {after : σ}
      (decided : bulkVerdict extraction.rows answer = .ok (outcomes, totals))
      (written : RowsWritten sink (statusesOf outcomes) store events result after) :
      BatchPosted extraction workers answer store
        (.requested (dispatcher.batch extraction.records workers) :: events)
        (result.map fun _ => (outcomes, totals)) after

theorem dispatchBulk_posted (extraction : Extraction NewTransaction) (workers : Nat)
    (before : Conversation σ) :
    ∃ events result after,
      dispatcher.dispatchBulk extraction workers sink before =
        (result.map fun decided =>
          (SyncReport.mk .bulk decided.1 (some decided.2)).withAlreadyProcessed
            extraction.alreadyProcessed, after) ∧
      dispatcher.BatchPosted sink extraction workers (Answer.next before.answers) before.store
        events result after.store ∧
      after.answers = before.answers.tail ∧ Adds before after events := by
  rcases dispatcher.client.execute_apply (.bulkImport extraction.records workers)
    dispatcher.session before with ⟨sent, ranSend, answers, store, addsRequest⟩
  have same : Client.classify (.bulkImport extraction.records workers)
      (Answer.next before.answers) =
      Client.classify (.bulkImport [] 0) (Answer.next before.answers) := by
    cases Answer.next before.answers <;> rfl
  rw [same] at ranSend
  cases decided : bulkVerdict extraction.rows (Answer.next before.answers) with
  | error failure =>
      exact ⟨_, .error failure, sent, bind_undecided ranSend decided, store ▸ .undecided decided,
        answers, addsRequest⟩
  | ok pair =>
      rcases pair with ⟨outcomes, totals⟩
      let report := (SyncReport.mk .bulk outcomes (some totals)).withAlreadyProcessed
        extraction.alreadyProcessed
      let ending : Unit → Conversing Failure σ SyncReport := fun _ => do
        noteTotals totals report.totals
        return report
      rcases writeAll_written sink outcomes sent with
        ⟨events, result, middle, ranWrites, written, answersWrites, addsWrites⟩
      have ran : dispatcher.dispatchBulk extraction workers sink before =
          ((outcomes.forM (writeOutcome sink) >>= fun _ => flush sink) >>= ending) sent := by
        rw [bind_assoc]
        exact bind_decided ranSend decided
      rw [store] at written
      cases result with
      | error failure =>
          exact ⟨_, _, middle, ran.trans (bind_error ranWrites), .decided decided written,
            answersWrites.trans answers, addsRequest.trans addsWrites⟩
      | ok value =>
          rcases noteTotals_apply totals report.totals middle with ⟨after, ranNote, remarked⟩
          refine ⟨_, (Except.ok value).map fun _ => (outcomes, totals), after,
            (ran.trans (bind_ok ranWrites)).trans (bind_ok ranNote),
            remarked.store.symm ▸ BatchPosted.decided decided written,
            remarked.answers.trans (answersWrites.trans answers), ?_⟩
          rw [← List.append_nil (_ :: events)]
          exact (addsRequest.trans addsWrites).trans remarked.adds

/-! ## What a run sends, writes and returns -/

section Run

variable {dispatcher : Dispatcher} {sink : StatusSink σ} {extraction : Extraction NewTransaction}
variable {workers : Nat} {answer : Answer} {store after : σ} {events : List Event}
variable {result : Except Failure (List (RowPosition × Outcome) × Totals)}

theorem BatchPosted.requests
    (posted : dispatcher.BatchPosted sink extraction workers answer store events result after) :
    requestsIn events = [dispatcher.batch extraction.records workers] := by
  cases posted with
  | undecided => rfl
  | decided _ written => exact congrArg (_ :: ·) written.requests

theorem BatchPosted.split {early late : List Event} {row : RowPosition} {status : String}
    (posted : dispatcher.BatchPosted sink extraction workers answer store events result after)
    (split : events = early ++ .statusWritten row status :: late) :
    requestsIn early = [dispatcher.batch extraction.records workers] ∧ requestsIn late = [] := by
  cases posted with
  | undecided => exact absurd split (requested_ne_split _)
  | decided _ written => exact (written.split split).2

theorem BatchPosted.sheet {view : σ → Table} {column : Nat} (into : sink.WritesInto view column)
    (posted : dispatcher.BatchPosted sink extraction workers answer store events result after) :
    ∃ torn, view after = (view store).marked column (statusesIn events ++ torn) ∧
      (statusesIn events ++ torn).map (·.1) <+: extraction.rows ∧
      (∀ decided, result = .ok decided →
        torn = [] ∧ statusesIn events = statusesOf decided.1 ∧
          bulkVerdict extraction.rows answer = .ok decided) := by
  cases posted with
  | undecided => exact ⟨[], rfl, List.nil_prefix, nofun⟩
  | @decided outcomes totals _ _ _ decided written =>
      rcases written.sheet into with ⟨torn, same, initial, whole⟩
      rcases hasStatus_of_bulkVerdict decided with ⟨rows, told⟩
      refine ⟨torn, same, ?_, ?_⟩
      · rw [← rows, ← map_fst_statusesOf told]
        exact initial.map _
      · intro found returned
        rcases map_eq_ok_iff.mp returned with ⟨value, done, rfl⟩
        rcases whole with none | ⟨error, failed⟩
        · exact ⟨none, written.of_ok done, decided⟩
        · cases failed.symm.trans done

theorem BatchPosted.marked {view : σ → Table} {column : Nat}
    {decided : List (RowPosition × Outcome) × Totals} (into : sink.WritesInto view column)
    (posted : dispatcher.BatchPosted sink extraction workers answer store events result after)
    (returned : result = .ok decided) :
    view after = (view store).marked column (statusesOf decided.1) := by
  rcases posted.sheet into with ⟨torn, same, _, whole⟩
  rcases whole decided returned with ⟨none, statuses, _⟩
  rw [same, none, List.append_nil, statuses]

theorem BatchPosted.of_unfailing (unfailing : sink.Unfailing)
    (posted : dispatcher.BatchPosted sink extraction workers answer store events result after) :
    result = bulkVerdict extraction.rows answer := by
  cases posted with
  | undecided decided => exact decided.symm
  | decided decided written =>
      rw [written.of_unfailing unfailing, decided]
      rfl

/-- A run that may be taken up again one by one has decided nothing and changed nothing. -/
theorem BatchPosted.of_allowsFallback {failure : Failure}
    (posted : dispatcher.BatchPosted sink extraction workers answer store events result after)
    (failed : result = .error failure) (allows : allowsFallback failure = true) :
    events = [.requested (dispatcher.batch extraction.records workers)] ∧ after = store ∧
      bulkVerdict extraction.rows answer = .error failure := by
  cases posted with
  | undecided decided =>
      cases failed
      exact ⟨rfl, rfl, decided⟩
  | @decided _ _ _ result _ _ written =>
      cases result with
      | ok value => cases failed
      | error failure =>
          cases failed
          rcases written.of_error rfl with ⟨_, rfl⟩
          cases allows

theorem BatchPosted.unique {otherAnswer : Answer} {outcomes : List (RowPosition × Outcome)}
    {totals otherTotals : Totals} {other : List Event}
    {otherResult : Except Failure (List (RowPosition × Outcome) × Totals)} {later : σ}
    (posted : dispatcher.BatchPosted sink extraction workers answer store events result after)
    (decided : bulkVerdict extraction.rows answer = .ok (outcomes, totals))
    (again : dispatcher.BatchPosted sink extraction workers otherAnswer store other otherResult
      later)
    (decidedAgain : bulkVerdict extraction.rows otherAnswer = .ok (outcomes, otherTotals)) :
    events = other ∧ result.map (·.1) = otherResult.map (·.1) ∧ after = later := by
  cases posted with
  | undecided undecided => cases decided.symm.trans undecided
  | @decided _ _ _ result _ found written =>
      cases again with
      | undecided undecided => cases decidedAgain.symm.trans undecided
      | decided foundAgain writtenAgain =>
          cases decided.symm.trans found
          cases decidedAgain.symm.trans foundAgain
          rcases written.unique writtenAgain with ⟨rfl, rfl, rfl⟩
          cases result <;> exact ⟨rfl, rfl, rfl⟩

end Run

end Dispatcher

end SheetPost
