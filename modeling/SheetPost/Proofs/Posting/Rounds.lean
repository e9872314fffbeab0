import SheetPost.Proofs.Posting.Sink
import SheetPost.Proofs.Posting.Status

namespace SheetPost

namespace Dispatcher

open Conversation Conversing

variable {α σ : Type} [SheetRecord α]

def creation (dispatcher : Dispatcher) (record : α) : Request :=
  dispatcher.client.sessionRequest (SheetRecord.create record) dispatcher.session

/-- What an answer decides about the record that was sent. -/
def verdict (record : α) (answer : Answer) : Except Failure Outcome :=
  outcomeOfResult (Client.classify (SheetRecord.create record) answer)

/-! ## One answer -/

/-- A reply whose body broke off decides nothing about its record; every other answer and every
missing one does, and the outcome has a status. -/
theorem verdict_cases (record : α) (answer : Answer) :
    (∃ status reason, answer = .cutOff status reason ∧
      verdict record answer = .error (.invalidResponse (.cutOff status reason))) ∨
    (answer.isCutOff = false ∧
      ∃ outcome, verdict record answer = .ok outcome ∧ outcome.HasStatus) := by
  cases answer with
  | cutOff status reason => exact .inl ⟨status, reason, rfl, rfl⟩
  | failed reason =>
      exact .inr ⟨rfl, _, rfl, Outcome.hasStatus_rejectedFor reason (by decide)⟩
  | replied status body =>
      refine .inr ⟨rfl, ?_⟩
      cases succeeded : (SheetRecord.create record).succeeds status with
      | true =>
          refine ⟨.accepted, ?_, Outcome.hasStatus_accepted⟩
          simp [verdict, Client.classify, outcomeOfResult, succeeded]
      | false =>
          refine ⟨.rejectedFor body ("HTTP " ++ integerText status), ?_, ?_⟩
          · simp [verdict, Client.classify, outcomeOfResult, succeeded]
          · apply Outcome.hasStatus_rejectedFor
            rw [blank_append]
            rfl

theorem hasStatus_of_verdict {record : α} {answer : Answer} {outcome : Outcome}
    (decided : verdict record answer = .ok outcome) : outcome.HasStatus := by
  rcases verdict_cases record answer with ⟨_, _, _, undecided⟩ | ⟨_, other, same, told⟩
  · rw [undecided] at decided
    cases decided
  · rw [same] at decided
    cases decided
    exact told

theorem dispatchOne_apply (dispatcher : Dispatcher) (record : α) (before : Conversation σ) :
    ∃ after, dispatcher.dispatchOne record before =
        (verdict record (Answer.next before.answers), after) ∧
      after.answers = before.answers.tail ∧ after.store = before.store ∧
      Adds before after [.requested (dispatcher.creation record)] := by
  rcases dispatcher.client.execute_apply (SheetRecord.create record) dispatcher.session before with
    ⟨after, ran, answers, store, adds⟩
  exact ⟨after, (bind_ok (observing_apply ran)).trans rfl, answers, store, adds⟩

theorem noteOutcome_apply (row : RowPosition) (outcome : Outcome) (before : Conversation σ) :
    ∃ after, noteOutcome row outcome before = (.ok (), after) ∧ Remarked before after := by
  cases outcome with
  | accepted => exact note_apply _ _ before
  | rejected reason => exact note_apply _ _ before
  | alreadyProcessed => exact ⟨before, rfl, .refl before⟩

/-! ## One round -/

variable (dispatcher : Dispatcher) (sink : StatusSink σ)

/-- What a round can come to: the events it adds, its result and the store it leaves. -/
inductive RowPosted (entry : RowPosition × α) (answer : Answer) (store : σ) :
    List Event → Except Failure (RowPosition × Outcome) → σ → Prop
  | undecided {failure : Failure} (decided : verdict entry.2 answer = .error failure) :
      RowPosted entry answer store [.requested (dispatcher.creation entry.2)]
        (.error failure) store
  | decided {outcome : Outcome} {status : String} {events : List Event}
      {result : Except Failure Unit} {after : σ}
      (decided : verdict entry.2 answer = .ok outcome)
      (told : outcome.statusText? = some status)
      (written : RowsWritten sink [(entry.1, status)] store events result after) :
      RowPosted entry answer store (.requested (dispatcher.creation entry.2) :: events)
        (result.map fun _ => (entry.1, outcome)) after

theorem dispatchRow_posted (entry : RowPosition × α) (before : Conversation σ) :
    ∃ events result after, dispatcher.dispatchRow sink entry before = (result, after) ∧
      dispatcher.RowPosted sink entry (Answer.next before.answers) before.store events result
        after.store ∧
      after.answers = before.answers.tail ∧ Adds before after events := by
  rcases dispatcher.dispatchOne_apply entry.2 before with
    ⟨sent, ranOne, answers, store, addsRequest⟩
  rcases verdict_cases entry.2 (Answer.next before.answers) with
    ⟨status, reason, _, decided⟩ | ⟨_, outcome, decided, status, told, _⟩
  · rw [decided] at ranOne
    exact ⟨_, _, sent, bind_error ranOne, store ▸ .undecided decided, answers, addsRequest⟩
  · rw [decided] at ranOne
    rcases noteOutcome_apply entry.1 outcome sent with ⟨noted, ranNote, remarked⟩
    rcases writeAll_written sink [(entry.1, outcome)] noted with
      ⟨events, result, after, ranWrite, written, answersWrite, addsWrite⟩
    -- What is left of the round is to write one status and keep it.
    have ran : dispatcher.dispatchRow sink entry before =
        (([(entry.1, outcome)].forM (writeOutcome sink) >>= fun _ => flush sink) >>= fun _ =>
          pure (entry.1, outcome)) noted := by
      refine (bind_ok ranOne).trans ((bind_ok ranNote).trans ?_)
      simp only [told, writeOutcome, List.forM, bind_assoc, pure_bind]
    have statuses : statusesOf [(entry.1, outcome)] = [(entry.1, status)] := by
      rw [statusesOf, List.filterMap_cons, told]
      rfl
    rw [statuses, remarked.store, store] at written
    refine ⟨_, _, after, ran.trans ?_, .decided decided told written,
      answersWrite.trans (remarked.answers.trans answers),
      (addsRequest.trans remarked.adds).trans addsWrite⟩
    cases result with
    | error failure => exact bind_error ranWrite
    | ok value => exact bind_ok ranWrite

/-! ## A chain of rounds -/

/-- What a run over rows can come to, with the answers that it leaves over. -/
inductive RowsPosted : List (RowPosition × α) → List Answer → σ →
    List Event → Except Failure (List (RowPosition × Outcome)) → List Answer → σ → Prop
  | nil (answers : List Answer) (store : σ) : RowsPosted [] answers store [] (.ok []) answers store
  | cons {entry : RowPosition × α} {entries : List (RowPosition × α)} {answers left : List Answer}
      {store middle after : σ} {events more : List Event} {outcome : RowPosition × Outcome}
      {result : Except Failure (List (RowPosition × Outcome))}
      (first : dispatcher.RowPosted sink entry (Answer.next answers) store events (.ok outcome)
        middle)
      (rest : RowsPosted entries answers.tail middle more result left after) :
      RowsPosted (entry :: entries) answers store (events ++ more)
        (result.map (outcome :: ·)) left after
  | stopped {entry : RowPosition × α} {entries : List (RowPosition × α)} {answers : List Answer}
      {store after : σ} {events : List Event} {failure : Failure}
      (first : dispatcher.RowPosted sink entry (Answer.next answers) store events
        (.error failure) after) :
      RowsPosted (entry :: entries) answers store events (.error failure) answers.tail after

theorem mapM_dispatchRow_posted (entries : List (RowPosition × α)) (before : Conversation σ) :
    ∃ events result after,
      entries.mapM (dispatcher.dispatchRow sink) before = (result, after) ∧
      dispatcher.RowsPosted sink entries before.answers before.store events result
        after.answers after.store ∧
      Adds before after events := by
  induction entries generalizing before with
  | nil => exact ⟨_, _, before, rfl, .nil _ _, .refl before⟩
  | cons entry entries induction =>
      rw [List.mapM_cons]
      rcases dispatcher.dispatchRow_posted sink entry before with
        ⟨events, result, middle, ran, posted, answers, adds⟩
      cases result with
      | error failure =>
          exact ⟨_, _, middle, bind_error ran, answers ▸ .stopped posted, adds⟩
      | ok outcome =>
          rcases induction middle with ⟨more, results, after, ranRest, postedRest, addsRest⟩
          refine ⟨_, results.map (outcome :: ·), after, ?_, .cons posted (answers ▸ postedRest),
            adds.trans addsRest⟩
          rw [bind_ok ran]
          cases results with
          | error failure => exact bind_error ranRest
          | ok outcomes => exact bind_ok ranRest

theorem dispatchEach_posted (extraction : Extraction α) (before : Conversation σ) :
    ∃ events result after,
      dispatcher.dispatchEach extraction sink before =
        (result.map fun outcomes =>
          (SyncReport.mk .single outcomes none).withAlreadyProcessed
            extraction.alreadyProcessed, after) ∧
      dispatcher.RowsPosted sink extraction.entries before.answers before.store events result
        after.answers after.store ∧
      Adds before after events := by
  rcases dispatcher.mapM_dispatchRow_posted sink extraction.entries before with
    ⟨events, result, after, ran, posted, adds⟩
  refine ⟨events, result, after, ?_, posted, adds⟩
  cases result with
  | error failure => exact bind_error ran
  | ok outcomes => exact bind_ok ran

/-! ## What a chain sends, writes and returns -/

section Round

variable {dispatcher : Dispatcher} {sink : StatusSink σ}
variable {entry : RowPosition × α} {answer : Answer} {store after : σ} {events : List Event}
variable {result : Except Failure (RowPosition × Outcome)}

theorem RowPosted.requests
    (posted : dispatcher.RowPosted sink entry answer store events result after) :
    requestsIn events = [dispatcher.creation entry.2] := by
  cases posted with
  | undecided => rfl
  | decided _ _ written => exact congrArg (_ :: ·) written.requests

theorem RowPosted.statuses
    (posted : dispatcher.RowPosted sink entry answer store events result after) :
    statusesIn events = [] ∨
      ∃ outcome status, verdict entry.2 answer = .ok outcome ∧
        outcome.statusText? = some status ∧ statusesIn events = [(entry.1, status)] := by
  cases posted with
  | undecided => exact .inl rfl
  | decided decided told written =>
      rcases List.prefix_cons_iff.mp written.inOrder with none | ⟨rest, one, initial⟩
      · exact .inl none
      · rw [List.prefix_nil] at initial
        subst initial
        exact .inr ⟨_, _, decided, told, one⟩

theorem RowPosted.of_ok {outcome : RowPosition × Outcome}
    (posted : dispatcher.RowPosted sink entry answer store events result after)
    (returned : result = .ok outcome) :
    outcome.1 = entry.1 ∧ verdict entry.2 answer = .ok outcome.2 ∧
      ∃ status, outcome.2.statusText? = some status ∧
        statusesIn events = [(entry.1, status)] := by
  cases posted with
  | undecided => cases returned
  | decided decided told written =>
      rcases map_eq_ok_iff.mp returned with ⟨value, done, rfl⟩
      exact ⟨rfl, decided, _, told, written.of_ok done⟩

theorem RowPosted.split {early late : List Event} {row : RowPosition} {status : String}
    (posted : dispatcher.RowPosted sink entry answer store events result after)
    (split : events = early ++ .statusWritten row status :: late) :
    row = entry.1 ∧ requestsIn early = [dispatcher.creation entry.2] ∧ requestsIn late = [] := by
  cases posted with
  | undecided => exact absurd split (requested_ne_split _)
  | decided _ _ written =>
      rcases written.split split with ⟨member, requests⟩
      exact ⟨congrArg (·.1) (List.mem_singleton.mp member), requests⟩

theorem RowPosted.sheet {view : σ → Table} {column : Nat} (into : sink.WritesInto view column)
    (posted : dispatcher.RowPosted sink entry answer store events result after) :
    ∃ torn, view after = (view store).marked column (statusesIn events ++ torn) ∧
      (statusesIn events ++ torn).map (·.1) <+: [entry.1] ∧
      (torn = [] ∨ ∃ error, result = .error (.statusNotWritten error)) := by
  cases posted with
  | undecided => exact ⟨[], rfl, List.nil_prefix, .inl rfl⟩
  | decided _ _ written =>
      rcases written.sheet into with ⟨torn, same, initial, whole⟩
      refine ⟨torn, same, initial.map _, ?_⟩
      rcases whole with none | ⟨error, rfl⟩
      · exact .inl none
      · exact .inr ⟨error, rfl⟩

theorem RowPosted.of_unfailing (unfailing : sink.Unfailing)
    (posted : dispatcher.RowPosted sink entry answer store events result after) :
    (answer.isCutOff = false ∧ ∃ outcome, result = .ok outcome) ∨
      ∃ status reason, answer = .cutOff status reason ∧ statusesIn events = [] ∧
        result = .error (.invalidResponse (.cutOff status reason)) := by
  rcases verdict_cases entry.2 answer with
    ⟨status, reason, brokenOff, undecided⟩ | ⟨whole, outcome, same, _⟩
  · cases posted with
    | undecided decided =>
        cases undecided.symm.trans decided
        exact .inr ⟨status, reason, brokenOff, rfl, rfl⟩
    | decided decided => cases undecided.symm.trans decided
  · cases posted with
    | undecided decided => cases same.symm.trans decided
    | decided _ _ written =>
        rw [written.of_unfailing unfailing]
        exact .inl ⟨whole, _, rfl⟩

theorem RowPosted.unique {other : List Event} {later : σ}
    {otherResult : Except Failure (RowPosition × Outcome)}
    (posted : dispatcher.RowPosted sink entry answer store events result after)
    (again : dispatcher.RowPosted sink entry answer store other otherResult later) :
    events = other ∧ result = otherResult ∧ after = later := by
  cases posted with
  | undecided undecided =>
      cases again with
      | undecided undecidedAgain =>
          cases undecided.symm.trans undecidedAgain
          exact ⟨rfl, rfl, rfl⟩
      | decided decided => cases undecided.symm.trans decided
  | decided decided told written =>
      cases again with
      | undecided undecided => cases decided.symm.trans undecided
      | decided decidedAgain toldAgain writtenAgain =>
          cases decided.symm.trans decidedAgain
          cases told.symm.trans toldAgain
          rcases written.unique writtenAgain with ⟨rfl, rfl, rfl⟩
          exact ⟨rfl, rfl, rfl⟩

end Round

section Chain

variable {dispatcher : Dispatcher} {sink : StatusSink σ}
variable {entries : List (RowPosition × α)} {answers left : List Answer} {store after : σ}
variable {events : List Event} {result : Except Failure (List (RowPosition × Outcome))}

theorem RowsPosted.unique {other : List Event} {leftAgain : List Answer} {later : σ}
    {otherResult : Except Failure (List (RowPosition × Outcome))}
    (posted : dispatcher.RowsPosted sink entries answers store events result left after)
    (again : dispatcher.RowsPosted sink entries answers store other otherResult leftAgain later) :
    events = other ∧ result = otherResult ∧ left = leftAgain ∧ after = later := by
  induction posted generalizing other otherResult with
  | nil =>
      cases again
      exact ⟨rfl, rfl, rfl, rfl⟩
  | cons first _ induction =>
      cases again with
      | cons firstAgain rest =>
          rcases first.unique firstAgain with ⟨rfl, same, rfl⟩
          cases same
          rcases induction rest with ⟨rfl, rfl, rfl, rfl⟩
          exact ⟨rfl, rfl, rfl, rfl⟩
      | stopped firstAgain => cases (first.unique firstAgain).2.1
  | stopped first =>
      cases again with
      | cons firstAgain => cases (first.unique firstAgain).2.1
      | stopped firstAgain =>
          rcases first.unique firstAgain with ⟨rfl, same, rfl⟩
          cases same
          exact ⟨rfl, rfl, rfl, rfl⟩

theorem RowsPosted.requests
    (posted : dispatcher.RowsPosted sink entries answers store events result left after) :
    ∃ sent, sent <+: entries ∧
      requestsIn events = sent.map fun entry => dispatcher.creation entry.2 := by
  induction posted with
  | nil => exact ⟨[], List.nil_prefix, rfl⟩
  | @cons entry _ _ _ _ _ _ _ _ _ _ first _ induction =>
      rcases induction with ⟨sent, initial, same⟩
      refine ⟨entry :: sent, List.cons_prefix_cons.mpr ⟨rfl, initial⟩, ?_⟩
      rw [requestsIn_append, first.requests, same]
      rfl
  | @stopped entry _ _ _ _ _ _ first =>
      exact ⟨[entry], List.cons_prefix_cons.mpr ⟨rfl, List.nil_prefix⟩, first.requests⟩

theorem RowsPosted.split {early late : List Event} {row : RowPosition} {status : String}
    (posted : dispatcher.RowsPosted sink entries answers store events result left after)
    (split : events = early ++ .statusWritten row status :: late) :
    ∃ sent later, sent ++ later <+: entries ∧ row ∈ sent.map (·.1) ∧
      (requestsIn early = sent.map fun entry => dispatcher.creation entry.2) ∧
      requestsIn late = later.map fun entry => dispatcher.creation entry.2 := by
  induction posted generalizing early with
  | nil => simp at split
  | @cons entry _ _ _ _ _ _ _ more _ _ first rest induction =>
      rcases append_eq_append_cons split with ⟨earlyRest, rfl, splitRest⟩ | ⟨round, splitRound, rfl⟩
      · rcases induction splitRest with ⟨sent, later, initial, member, same, sameLater⟩
        refine ⟨entry :: sent, later, List.cons_prefix_cons.mpr ⟨rfl, initial⟩,
          List.mem_cons_of_mem _ member, ?_, sameLater⟩
        rw [requestsIn_append, first.requests, same]
        rfl
      · rcases first.split splitRound with ⟨rfl, sameEarly, noneLater⟩
        rcases rest.requests with ⟨later, initial, sameLater⟩
        refine ⟨[entry], later, List.cons_prefix_cons.mpr ⟨rfl, initial⟩,
          List.mem_singleton_self _, sameEarly, ?_⟩
        rw [requestsIn_append, noneLater, sameLater]
        rfl
  | @stopped entry _ _ _ _ _ _ first =>
      rcases first.split split with ⟨rfl, sameEarly, noneLater⟩
      exact ⟨[entry], [], List.cons_prefix_cons.mpr ⟨rfl, List.nil_prefix⟩,
        List.mem_singleton_self _, sameEarly, noneLater⟩

/-- The sheet changes by the statuses written, and perhaps by one more that a failing sink wrote
after all. -/
theorem RowsPosted.sheet {view : σ → Table} {column : Nat} (into : sink.WritesInto view column)
    (posted : dispatcher.RowsPosted sink entries answers store events result left after) :
    ∃ torn, view after = (view store).marked column (statusesIn events ++ torn) ∧
      (statusesIn events ++ torn).map (·.1) <+: entries.map (·.1) ∧
      (torn = [] ∨ ∃ error, result = .error (.statusNotWritten error)) := by
  induction posted with
  | nil => exact ⟨[], rfl, List.nil_prefix, .inl rfl⟩
  | cons first _ induction =>
      rcases induction with ⟨torn, same, initial, whole⟩
      rcases first.of_ok rfl with ⟨_, _, status, _, statuses⟩
      rcases first.sheet into with ⟨_, sameFirst, _, rfl | ⟨_, failed⟩⟩
      · refine ⟨torn, ?_, ?_, ?_⟩
        · rw [same, sameFirst, List.append_nil, ← Table.marked_append, statusesIn_append,
            List.append_assoc]
        · rw [statusesIn_append, statuses]
          exact List.cons_prefix_cons.mpr ⟨rfl, initial⟩
        · rcases whole with none | ⟨error, rfl⟩
          · exact .inl none
          · exact .inr ⟨error, rfl⟩
      · cases failed
  | stopped first =>
      rcases first.sheet into with ⟨torn, same, initial, whole⟩
      refine ⟨torn, same, ?_, ?_⟩
      · exact initial.trans (List.cons_prefix_cons.mpr ⟨rfl, List.nil_prefix⟩)
      · rcases whole with none | ⟨error, failed⟩
        · exact .inl none
        · cases failed
          exact .inr ⟨error, rfl⟩

theorem RowsPosted.of_ok {outcomes : List (RowPosition × Outcome)}
    (posted : dispatcher.RowsPosted sink entries answers store events result left after)
    (returned : result = .ok outcomes) :
    outcomes.map (·.1) = entries.map (·.1) ∧ statusesIn events = statusesOf outcomes ∧
      (requestsIn events = entries.map fun entry => dispatcher.creation entry.2) ∧
      ∀ entry ∈ outcomes, entry.2.HasStatus := by
  induction posted generalizing outcomes with
  | nil =>
      cases returned
      exact ⟨rfl, rfl, rfl, nofun⟩
  | stopped => cases returned
  | cons first _ induction =>
      rcases map_eq_ok_iff.mp returned with ⟨outcomes, returnedRest, rfl⟩
      rcases induction returnedRest with ⟨rows, statuses, requests, told⟩
      rcases first.of_ok rfl with ⟨row, decided, status, text, one⟩
      refine ⟨?_, ?_, ?_, List.forall_mem_cons.mpr ⟨hasStatus_of_verdict decided, told⟩⟩
      · rw [List.map_cons, List.map_cons, row, rows]
      · rw [statusesIn_append, one, statuses, statusesOf, statusesOf, List.filterMap_cons, text,
          row]
        rfl
      · rw [requestsIn_append, first.requests, requests]
        rfl

theorem RowsPosted.marked {view : σ → Table} {column : Nat}
    {outcomes : List (RowPosition × Outcome)} (into : sink.WritesInto view column)
    (posted : dispatcher.RowsPosted sink entries answers store events result left after)
    (returned : result = .ok outcomes) :
    view after = (view store).marked column (statusesOf outcomes) := by
  rcases posted.of_ok returned with ⟨_, statuses, _⟩
  rcases posted.sheet into with ⟨torn, same, _, rfl | ⟨_, failed⟩⟩
  · rw [same, List.append_nil, statuses]
  · cases failed.symm.trans returned

theorem RowsPosted.outcome_at {outcomes : List (RowPosition × Outcome)} {index : Nat}
    {entry : RowPosition × α}
    (posted : dispatcher.RowsPosted sink entries answers store events result left after)
    (returned : result = .ok outcomes) (placed : entries[index]? = some entry) :
    ∃ outcome, outcomes[index]? = some (entry.1, outcome) ∧
      verdict entry.2 (Answer.nth answers index) = .ok outcome := by
  induction posted generalizing outcomes index with
  | nil => cases placed
  | stopped => cases returned
  | cons first _ induction =>
      rcases map_eq_ok_iff.mp returned with ⟨outcomes, returnedRest, rfl⟩
      cases index with
      | zero =>
          cases placed
          rcases first.of_ok rfl with ⟨row, decided, _⟩
          exact ⟨_, congrArg (fun row => some (row, _)) row, decided⟩
      | succ index =>
          rw [Answer.nth_succ]
          exact induction returnedRest placed

theorem RowsPosted.status_at {index : Nat} {row : RowPosition} {status : String}
    (posted : dispatcher.RowsPosted sink entries answers store events result left after)
    (placed : (statusesIn events)[index]? = some (row, status)) :
    ∃ entry outcome, entries[index]? = some entry ∧ entry.1 = row ∧
      verdict entry.2 (Answer.nth answers index) = .ok outcome ∧
      outcome.statusText? = some status := by
  induction posted generalizing index with
  | nil => cases placed
  | @stopped entry _ _ _ _ _ _ first =>
      rcases first.statuses with none | ⟨outcome, text, decided, told, one⟩
      · rw [none] at placed
        cases placed
      · rw [one] at placed
        cases index with
        | zero =>
            cases placed
            exact ⟨entry, outcome, rfl, rfl, decided, told⟩
        | succ index => cases placed
  | @cons entry _ _ _ _ _ _ _ _ outcome _ first _ induction =>
      rcases first.of_ok rfl with ⟨_, decided, text, told, one⟩
      rw [statusesIn_append, one] at placed
      cases index with
      | zero =>
          cases placed
          exact ⟨entry, outcome.2, rfl, rfl, decided, told⟩
      | succ index =>
          rw [Answer.nth_succ]
          exact induction placed

/-- With a sink that does not fail, the only thing that can break the chain is a reply that breaks
off; the run then ends at that row. -/
theorem RowsPosted.of_unfailing (unfailing : sink.Unfailing)
    (posted : dispatcher.RowsPosted sink entries answers store events result left after) :
    ((∃ outcomes, result = .ok outcomes) ∧
      ∀ index < entries.length, (Answer.nth answers index).isCutOff = false) ∨
    ∃ index status reason, index < entries.length ∧
      Answer.nth answers index = .cutOff status reason ∧
      (∀ earlier < index, (Answer.nth answers earlier).isCutOff = false) ∧
      result = .error (.invalidResponse (.cutOff status reason)) ∧
      (requestsIn events =
        (entries.take (index + 1)).map fun entry => dispatcher.creation entry.2) ∧
      (statusesIn events).map (·.1) = (entries.take index).map (·.1) := by
  induction posted with
  | nil => exact .inl ⟨⟨_, rfl⟩, nofun⟩
  | stopped first =>
      rcases first.of_unfailing unfailing with ⟨_, _, returned⟩ |
        ⟨status, reason, brokenOff, none, failed⟩
      · cases returned
      · cases failed
        exact .inr ⟨0, status, reason, Nat.succ_pos _, brokenOff, nofun, rfl, first.requests,
          congrArg (List.map _) none⟩
  | @cons entry _ answers _ _ _ _ _ _ _ _ first _ induction =>
      have whole : (Answer.nth answers 0).isCutOff = false := by
        rcases first.of_unfailing unfailing with ⟨whole, _⟩ | ⟨_, _, _, _, failed⟩
        · exact whole
        · cases failed
      rcases first.of_ok rfl with ⟨_, _, text, _, one⟩
      rcases induction with ⟨⟨outcomes, returned⟩, wholeRest⟩ |
        ⟨index, status, reason, inside, brokenOff, wholeRest, failed, requests, statuses⟩
      · refine .inl ⟨⟨_, map_eq_ok_iff.mpr ⟨outcomes, returned, rfl⟩⟩, ?_⟩
        intro index inside
        cases index with
        | zero => exact whole
        | succ index =>
            rw [Answer.nth_succ]
            exact wholeRest index (Nat.lt_of_succ_lt_succ inside)
      · refine .inr ⟨index + 1, status, reason, Nat.succ_lt_succ inside,
          (Answer.nth_succ _ _).trans brokenOff, ?_, ?_, ?_, ?_⟩
        · intro earlier before
          cases earlier with
          | zero => exact whole
          | succ earlier =>
              rw [Answer.nth_succ]
              exact wholeRest earlier (Nat.lt_of_succ_lt_succ before)
        · rw [failed]
          rfl
        · rw [requestsIn_append, first.requests, requests]
          rfl
        · rw [statusesIn_append, one, List.map_append, statuses]
          rfl

end Chain

end Dispatcher

end SheetPost
