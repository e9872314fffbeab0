import SheetPost.Proofs.Posting.Attribution

namespace SheetPost

/-- What can be wrong with an answer to a bulk import of this many records. -/
inductive Answer.Flawed (submitted : Nat) : Answer → Prop
  | refused {status : Nat} (body : String) (other : status ≠ 200) :
      Flawed submitted (.replied status body)
  | missing (reason : String) : Flawed submitted (.failed reason)
  | unreadable (status : Nat) (reason : String) : Flawed submitted (.cutOff status reason)
  | malformed {body : String} (unread : BulkReply.ofText? body = none) :
      Flawed submitted (.replied 200 body)
  | outside {body : String} {reply : BulkReply} {complaint : BulkComplaint}
      (read : BulkReply.ofText? body = some reply) (member : complaint ∈ reply.complaints)
      (beyond : complaint.index < 0 ∨ (submitted : Int) ≤ complaint.index) :
      Flawed submitted (.replied 200 body)
  | repeated {body : String} {reply : BulkReply} (read : BulkReply.ofText? body = some reply)
      (again : ¬(reply.complaints.map (·.index)).Nodup) :
      Flawed submitted (.replied 200 body)

namespace Dispatcher

open Conversation Conversing

variable {σ : Type}

theorem flawed_of_bulkVerdict {rows : List RowPosition} {answer : Answer} {failure : Failure}
    (undecided : bulkVerdict rows answer = .error failure) : answer.Flawed rows.length := by
  cases answer with
  | failed reason => exact .missing reason
  | cutOff status reason => exact .unreadable status reason
  | replied status body =>
      by_cases good : status = 200
      · subst good
        cases read : BulkReply.ofText? body with
        | none => exact .malformed read
        | some reply =>
            by_cases beyond : ∃ complaint ∈ reply.complaints,
                complaint.index < 0 ∨ (rows.length : Int) ≤ complaint.index
            · rcases beyond with ⟨complaint, member, outside⟩
              exact .outside read member outside
            · -- All places lie in the batch, so nothing else than a repeated one is left.
              apply Answer.Flawed.repeated read
              intro once
              have consistent : reply.Consistent rows.length := by
                refine ⟨fun complaint member => ?_, once⟩
                have inside : ¬(complaint.index < 0 ∨ (rows.length : Int) ≤ complaint.index) :=
                  fun outside => beyond ⟨complaint, member, outside⟩
                omega
              rcases reconciled_iff.mpr consistent with ⟨outcomes, reconciled⟩
              cases undecided.symm.trans (bulkVerdict_reconciled read reconciled)
      · exact .refused body good

theorem bulkVerdict_of_flawed {rows : List RowPosition} {answer : Answer}
    (flawed : answer.Flawed rows.length) :
    ∃ failure, bulkVerdict rows answer = .error failure := by
  cases decided : bulkVerdict rows answer with
  | error failure => exact ⟨failure, rfl⟩
  | ok pair =>
      rcases bulkVerdict_ok decided with ⟨body, reply, rfl, read, reconciled, _⟩
      have consistent := reconciled_iff.mp ⟨_, reconciled⟩
      cases flawed with
      | refused _ other => exact absurd rfl other
      | malformed unread => cases unread.symm.trans read
      | outside readAs member beyond =>
          cases readAs.symm.trans read
          have inside := consistent.inside _ member
          omega
      | repeated readAs again =>
          cases readAs.symm.trans read
          exact absurd consistent.once again

section Run

variable {dispatcher : Dispatcher} {sink : StatusSink σ} {extraction : Extraction NewTransaction}
variable {workers : Nat} {answer : Answer} {store after : σ} {events : List Event}
variable {result : Except Failure (List (RowPosition × Outcome) × Totals)}

theorem BatchPosted.of_flawed (flawed : answer.Flawed extraction.rows.length)
    (posted : dispatcher.BatchPosted sink extraction workers answer store events result after) :
    (∃ failure, result = .error failure) ∧
      events = [.requested (dispatcher.batch extraction.records workers)] ∧ after = store := by
  rcases bulkVerdict_of_flawed flawed with ⟨failure, undecided⟩
  cases posted with
  | undecided => exact ⟨⟨_, rfl⟩, rfl, rfl⟩
  | decided decided => cases undecided.symm.trans decided

theorem BatchPosted.of_flawless (flawless : ¬answer.Flawed extraction.rows.length)
    (unfailing : sink.Unfailing)
    (posted : dispatcher.BatchPosted sink extraction workers answer store events result after) :
    ∃ outcomes totals, bulkVerdict extraction.rows answer = .ok (outcomes, totals) ∧
      result = .ok (outcomes, totals) ∧
      ∃ written, events = .requested (dispatcher.batch extraction.records workers) :: written ∧
        RowsWritten sink (statusesOf outcomes) store written (.ok ()) after := by
  cases posted with
  | undecided undecided => exact absurd (flawed_of_bulkVerdict undecided) flawless
  | decided decided written =>
      have done := written.of_unfailing unfailing
      subst done
      exact ⟨_, _, decided, rfl, _, rfl, written⟩

end Run

/-- A flaw in the answer to a bulk import keeps the sink from being used at all. Without one, and
with a sink that does not fail, each row is written once in ascending order and all is kept once. -/
theorem dispatchBulk_all_or_nothing (dispatcher : Dispatcher) (sink : StatusSink σ) (sheet : Table)
    (skipProcessed : Bool) (workers : Nat) (before : Conversation σ) :
    let extraction := extract NewTransaction sheet skipProcessed
    let answer := Answer.next before.answers
    let request := dispatcher.batch extraction.records workers
    ∃ events result after,
      dispatcher.dispatchBulk extraction workers sink before = (result, after) ∧
      Adds before after events ∧
      (answer.Flawed extraction.rows.length →
        (∃ failure, result = .error failure) ∧ events = [.requested request] ∧
        after.store = before.store) ∧
      (¬answer.Flawed extraction.rows.length → sink.Unfailing →
        ∃ report, ∃ statuses : List (RowPosition × String), result = .ok report ∧
          events = .requested request ::
            (statuses.map (fun entry => .statusWritten entry.1 entry.2) ++ [.flushed]) ∧
          RowsWritten sink statuses before.store
            (statuses.map (fun entry => .statusWritten entry.1 entry.2) ++ [.flushed]) (.ok ())
            after.store ∧
          statuses.map (·.1) = extraction.rows ∧
          extraction.rows.Pairwise (fun first second => first.above < second.above) ∧
          ∀ row status, (row, status) ∈ statuses →
            ∃ outcome, (row, outcome) ∈ report.outcomes ∧ outcome.statusText? = some status) := by
  intro extraction answer request
  rcases dispatcher.dispatchBulk_posted sink extraction workers before with
    ⟨events, result, after, ran, posted, _, adds⟩
  refine ⟨events, _, after, ran, adds, ?_, ?_⟩
  · intro flawed
    rcases posted.of_flawed flawed with ⟨⟨failure, rfl⟩, same, store⟩
    exact ⟨⟨failure, rfl⟩, same, store⟩
  · intro flawless unfailing
    rcases posted.of_flawless flawless unfailing with
      ⟨outcomes, totals, decided, rfl, _, rfl, written⟩
    have inOrder := written.events_of_ok rfl
    subst inOrder
    rcases hasStatus_of_bulkVerdict decided with ⟨rows, told⟩
    refine ⟨_, statusesOf outcomes, rfl, rfl, written, ?_, Extraction.rows_ascend _ _, ?_⟩
    · rw [map_fst_statusesOf told, rows]
    · intro row status member
      rcases mem_statusesOf.mp member with ⟨outcome, found, text⟩
      exact ⟨outcome, SyncReport.mem_withAlreadyProcessed.mpr (.inl found), text⟩

/-- Two rows are sent, so there is a place 1 but no place 2. -/
theorem dispatchBulk_all_or_nothing_late :
    let good := "\x7b\"index\":1,\"error\":\"bad date\"\x7d"
    let bad := "\x7b\"index\":2,\"error\":\"no such item\"\x7d"
    let sound : Conversation Table :=
      ⟨[.replied 200 ("\x7b\"errors\":[" ++ good ++ "]\x7d")], [], sparseSheet⟩
    let spoilt : Conversation Table :=
      ⟨[.replied 200 ("\x7b\"errors\":[" ++ good ++ "," ++ bad ++ "]\x7d")], [], sparseSheet⟩
    let extraction := extract NewTransaction sparseSheet true
    (∃ failure after,
      sample.dispatchBulk extraction 4 (.intoTable 4) spoilt = (.error failure, after) ∧
      after.store = sparseSheet) ∧
    ∃ report after, ∃ statuses : List (RowPosition × String),
      sample.dispatchBulk extraction 4 (.intoTable 4) sound = (.ok report, after) ∧
      effectsIn after.journal = .requested (sample.batch extraction.records 4) ::
        (statuses.map (fun entry => .statusWritten entry.1 entry.2) ++ [.flushed]) ∧
      statuses.map (·.1) = [⟨3⟩, ⟨5⟩] := by
  intro good bad sound spoilt extraction
  have rows : extraction.rows = [⟨3⟩, ⟨5⟩] := by decide +kernel
  have readSound : BulkReply.ofText? ("\x7b\"errors\":[" ++ good ++ "]\x7d") =
      some ⟨0, 0, [⟨1, "bad date"⟩]⟩ := by
    decide +kernel
  have readSpoilt : BulkReply.ofText? ("\x7b\"errors\":[" ++ good ++ "," ++ bad ++ "]\x7d") =
      some ⟨0, 0, [⟨1, "bad date"⟩, ⟨2, "no such item"⟩]⟩ := by
    decide +kernel
  constructor
  · have flawed : (Answer.next spoilt.answers).Flawed extraction.rows.length := by
      rw [rows]
      exact .outside readSpoilt (List.mem_cons_of_mem _ List.mem_cons_self) (by decide)
    rcases dispatchBulk_all_or_nothing sample (.intoTable 4) sparseSheet true 4 spoilt with
      ⟨_, _, after, ran, _, spoils, _⟩
    rcases spoils flawed with ⟨⟨failure, rfl⟩, _, store⟩
    exact ⟨failure, after, ran, store⟩
  · have flawless : ¬(Answer.next sound.answers).Flawed extraction.rows.length := by
      intro flawed
      have reconciled : reconcile extraction.rows ⟨0, 0, [⟨1, "bad date"⟩]⟩ =
          .ok [(⟨3⟩, .accepted), (⟨5⟩, .rejected "bad date")] := by
        rw [rows]
        rfl
      rcases bulkVerdict_of_flawed flawed with ⟨_, undecided⟩
      cases undecided.symm.trans (bulkVerdict_reconciled readSound reconciled)
    rcases dispatchBulk_all_or_nothing sample (.intoTable 4) sparseSheet true 4 sound with
      ⟨_, _, after, ran, ⟨added, journal, same⟩, _, settles⟩
    rcases settles flawless (StatusSink.intoTable_unfailing 4) with
      ⟨report, statuses, rfl, rfl, _, placed, _⟩
    refine ⟨report, after, statuses, ran, ?_, placed.trans rows⟩
    rw [journal]
    exact same

end Dispatcher

end SheetPost
