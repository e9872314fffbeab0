import SheetPost.Proofs.Posting.Isolation

namespace SheetPost

namespace Dispatcher

open Conversation Conversing

variable {α σ : Type} [SheetRecord α]

def statusFor? (record : α) (answer : Answer) : Option String :=
  match verdict record answer with
  | .ok outcome => outcome.statusText?
  | .error _ => none

theorem statusFor?_of_verdict {record : α} {answer : Answer} {outcome : Outcome}
    (decided : verdict record answer = .ok outcome) :
    statusFor? record answer = outcome.statusText? := by
  rw [statusFor?, decided]

theorem statusFor?_cutOff (record : α) (status : Nat) (reason : String) :
    statusFor? record (.cutOff status reason) = none := rfl

variable (dispatcher : Dispatcher) (sink : StatusSink σ)

def round (entry : RowPosition × α) (status : String) : List Event :=
  [.requested (dispatcher.creation entry.2), .statusWritten entry.1 status, .flushed]

/-- What posting rows one by one does as long as every status can be written. It ends early only at
an answer that decides no status. -/
def unhindered : List (RowPosition × α) → List Answer → List Event
  | [], _ => []
  | entry :: entries, answers =>
      match statusFor? entry.2 (Answer.next answers) with
      | some status => dispatcher.round entry status ++ unhindered entries answers.tail
      | none => [.requested (dispatcher.creation entry.2)]

/-- The first rows, as many as the number says, have been dealt with in full, each with the status
of its own answer, and nothing else has been done. -/
inductive Completed : List (RowPosition × α) → List Answer → Nat → List Event → Prop
  | nil (entries : List (RowPosition × α)) (answers : List Answer) : Completed entries answers 0 []
  | cons {entry : RowPosition × α} {entries : List (RowPosition × α)} {answers : List Answer}
      {status : String} {count : Nat} {events : List Event}
      (told : statusFor? entry.2 (Answer.next answers) = some status)
      (rest : Completed entries answers.tail count events) :
      Completed (entry :: entries) answers (count + 1) (dispatcher.round entry status ++ events)

/-- How the round of a row can fail: its answer cannot be read and nothing is written, or its status
cannot be written, or what has been written cannot be kept. -/
inductive RoundFailed (entry : RowPosition × α) (answer : Answer) (store : σ) :
    List Event → Failure → σ → Prop
  | unread {status : Nat} {reason : String} (answered : answer = .cutOff status reason) :
      RoundFailed entry answer store [.requested (dispatcher.creation entry.2)]
        (.invalidResponse (.cutOff status reason)) store
  | unwritten {status : String} {error : StoreError} {after : σ}
      (told : statusFor? entry.2 answer = some status)
      (write : sink.write entry.1 status store = (.error error, after)) :
      RoundFailed entry answer store [.requested (dispatcher.creation entry.2)]
        (.statusNotWritten error) after
  | unkept {status : String} {error : StoreError} {written after : σ}
      (told : statusFor? entry.2 answer = some status)
      (write : sink.write entry.1 status store = (.ok (), written))
      (flush : sink.flush written = (.error error, after)) :
      RoundFailed entry answer store
        [.requested (dispatcher.creation entry.2), .statusWritten entry.1 status]
        (.statusNotWritten error) after

section Rounds

variable {dispatcher : Dispatcher} {sink : StatusSink σ} {entry : RowPosition × α}
variable {entries : List (RowPosition × α)} {answer : Answer} {answers left : List Answer}
variable {store after : σ} {events early late : List Event} {request : Request} {count : Nat}
variable {failure : Failure}

/-! ## Complete rounds -/

theorem round_split {status : String}
    (split : dispatcher.round entry status = early ++ .requested request :: late) :
    early = [] ∧ request = dispatcher.creation entry.2 := by
  rcases early with _ | ⟨_, _ | ⟨_, _ | ⟨_, early⟩⟩⟩ <;> simp [round] at split
  exact ⟨rfl, split.1.symm⟩

theorem Completed.rows (completed : dispatcher.Completed entries answers count events) :
    (statusesIn events).map (·.1) = (entries.take count).map (·.1) := by
  induction completed with
  | nil => rfl
  | cons _ _ induction => exact congrArg (_ :: ·) induction

theorem Completed.requests (completed : dispatcher.Completed entries answers count events) :
    requestsIn events = (entries.take count).map fun entry => dispatcher.creation entry.2 := by
  induction completed with
  | nil => rfl
  | cons _ _ induction => exact congrArg (_ :: ·) induction

theorem Completed.split (completed : dispatcher.Completed entries answers count events)
    (split : events = early ++ .requested request :: late) :
    ∃ place entry, entries[place]? = some entry ∧ request = dispatcher.creation entry.2 ∧
      dispatcher.Completed entries answers place early := by
  induction completed generalizing early with
  | nil => simp at split
  | @cons entry _ _ _ _ _ told rest induction =>
      rcases append_eq_append_cons split with ⟨earlyRest, rfl, splitRest⟩ | ⟨_, splitRound, _⟩
      · rcases induction splitRest with ⟨place, found, placed, same, completed⟩
        exact ⟨place + 1, found, placed, same, .cons told completed⟩
      · rcases round_split splitRound with ⟨rfl, same⟩
        exact ⟨0, entry, rfl, same, .nil _ _⟩

theorem Completed.unhindered (completed : dispatcher.Completed entries answers count events) :
    dispatcher.unhindered entries answers =
      events ++ dispatcher.unhindered (entries.drop count) (answers.drop count) := by
  induction completed with
  | nil => rfl
  | cons told _ induction =>
      simp only [Dispatcher.unhindered, told, induction, List.drop_succ_cons, List.drop_tail,
        List.append_assoc]

/-! ## A round that fails -/

theorem RoundFailed.split
    (failed : dispatcher.RoundFailed sink entry answer store events failure after)
    (split : events = early ++ .requested request :: late) :
    early = [] ∧ request = dispatcher.creation entry.2 := by
  cases failed <;> rcases early with _ | ⟨_, _ | ⟨_, early⟩⟩ <;> simp at split
  all_goals exact ⟨rfl, split.1.symm⟩

theorem RoundFailed.requests
    (failed : dispatcher.RoundFailed sink entry answer store events failure after) :
    requestsIn events = [dispatcher.creation entry.2] := by
  cases failed <;> rfl

theorem RoundFailed.initial (rest : List (RowPosition × α))
    (failed : dispatcher.RoundFailed sink entry (Answer.next answers) store events failure after) :
    events <+: dispatcher.unhindered (entry :: rest) answers := by
  cases failed with
  | unread answered => simp only [unhindered, answered, statusFor?_cutOff, List.prefix_refl]
  | unwritten told =>
      simp only [unhindered, told]
      exact List.prefix_append [_] _
  | unkept told =>
      simp only [unhindered, told]
      exact List.prefix_append [_, _] _

theorem RowPosted.ended {result : Except Failure (RowPosition × Outcome)}
    (posted : dispatcher.RowPosted sink entry answer store events result after) :
    (∃ outcome status, result = .ok outcome ∧ statusFor? entry.2 answer = some status ∧
      events = dispatcher.round entry status) ∨
    ∃ failure, result = .error failure ∧
      dispatcher.RoundFailed sink entry answer store events failure after := by
  cases posted with
  | @undecided failure undecided =>
      rcases verdict_cases entry.2 answer with ⟨status, reason, answered, same⟩ | ⟨_, _, same, _⟩
      · cases same.symm.trans undecided
        exact .inr ⟨_, rfl, .unread answered⟩
      · cases same.symm.trans undecided
  | @decided outcome status _ _ _ decided text written =>
      have told : statusFor? entry.2 answer = some status :=
        (statusFor?_of_verdict decided).trans text
      cases written with
      | stopped write => exact .inr ⟨_, rfl, .unwritten told write⟩
      | cons write rest =>
          cases rest with
          | kept => exact .inl ⟨_, status, rfl, told, rfl⟩
          | unkept flush => exact .inr ⟨_, rfl, .unkept told write flush⟩

theorem RowPosted.completed {outcome : RowPosition × Outcome}
    (posted : dispatcher.RowPosted sink entry answer store events (.ok outcome) after) :
    ∃ status, statusFor? entry.2 answer = some status ∧
      events = dispatcher.round entry status := by
  rcases posted.ended with ⟨_, status, _, told, same⟩ | ⟨_, impossible, _⟩
  · exact ⟨status, told, same⟩
  · cases impossible

theorem RowPosted.failed
    (posted : dispatcher.RowPosted sink entry answer store events (.error failure) after) :
    dispatcher.RoundFailed sink entry answer store events failure after := by
  rcases posted.ended with ⟨_, _, impossible, _⟩ | ⟨_, same, round⟩
  · cases impossible
  · cases same
    exact round

/-! ## A chain that ends -/

theorem RowsPosted.completed {result : Except Failure (List (RowPosition × Outcome))}
    {outcomes : List (RowPosition × Outcome)}
    (posted : dispatcher.RowsPosted sink entries answers store events result left after)
    (returned : result = .ok outcomes) :
    dispatcher.Completed entries answers entries.length events := by
  induction posted generalizing outcomes with
  | nil => exact .nil _ _
  | stopped => cases returned
  | cons round _ induction =>
      rcases map_eq_ok_iff.mp returned with ⟨_, returnedRest, _⟩
      rcases round.completed with ⟨_, told, rfl⟩
      exact .cons told (induction returnedRest)

theorem RowsPosted.failed {result : Except Failure (List (RowPosition × Outcome))}
    (posted : dispatcher.RowsPosted sink entries answers store events result left after)
    (failed : result = .error failure) :
    ∃ count entry first last outcomes middle, entries[count]? = some entry ∧
      events = first ++ last ∧ dispatcher.Completed entries answers count first ∧
      dispatcher.RowsPosted sink (entries.take count) answers store first (.ok outcomes)
        (answers.drop count) middle ∧
      dispatcher.RowPosted sink entry (Answer.nth answers count) middle last (.error failure)
        after := by
  induction posted with
  | nil => cases failed
  | stopped round =>
      cases failed
      exact ⟨0, _, [], _, [], _, rfl, rfl, .nil _ _, .nil _ _, round⟩
  | @cons _ _ _ _ _ _ _ _ _ outcome _ round _ induction =>
      rcases induction (map_eq_error_iff.mp failed) with
        ⟨count, entry, first, last, outcomes, middle, placed, rfl, completed, chain, broken⟩
      -- This round is complete, so the one that fails stands one place further down.
      rcases round.completed with ⟨status, told, rfl⟩
      refine ⟨count + 1, entry, _, last, outcome :: outcomes, middle, placed,
        (List.append_assoc ..).symm, .cons told completed, ?_, ?_⟩
      · rw [← List.drop_tail]
        exact .cons round chain
      · rw [Answer.nth_succ]
        exact broken

theorem RowsPosted.initial {result : Except Failure (List (RowPosition × Outcome))}
    (posted : dispatcher.RowsPosted sink entries answers store events result left after) :
    events <+: dispatcher.unhindered entries answers := by
  cases ended : result with
  | ok outcomes =>
      have completed := posted.completed ended
      rw [completed.unhindered]
      exact List.prefix_append _ _
  | error failure =>
      rcases posted.failed ended with
        ⟨count, entry, first, last, _, _, placed, rfl, completed, _, broken⟩
      rcases List.getElem?_eq_some_iff.mp placed with ⟨inside, rfl⟩
      rw [completed.unhindered, List.drop_eq_getElem_cons inside]
      exact (List.prefix_append_right_inj first).mpr (broken.failed.initial _)

theorem RowsPosted.eq_unhindered {result : Except Failure (List (RowPosition × Outcome))}
    (unfailing : sink.Unfailing)
    (posted : dispatcher.RowsPosted sink entries answers store events result left after) :
    events = dispatcher.unhindered entries answers := by
  cases ended : result with
  | ok outcomes =>
      have completed := posted.completed ended
      rw [completed.unhindered, List.drop_length, Dispatcher.unhindered, List.append_nil]
  | error failure =>
      rcases posted.failed ended with
        ⟨count, entry, first, last, _, _, placed, rfl, completed, _, broken⟩
      rcases List.getElem?_eq_some_iff.mp placed with ⟨inside, rfl⟩
      rw [completed.unhindered, List.drop_eq_getElem_cons inside]
      cases broken.failed with
      | unread answered =>
          have next : Answer.next (answers.drop count) = _ := answered
          simp only [Dispatcher.unhindered, next, statusFor?_cutOff]
      | unwritten _ write => exact absurd write unfailing.write
      | unkept _ _ flush => exact absurd flush unfailing.flush

theorem RowsPosted.request_after {result : Except Failure (List (RowPosition × Outcome))}
    (posted : dispatcher.RowsPosted sink entries answers store events result left after)
    (split : events = early ++ .requested request :: late) :
    ∃ place entry, entries[place]? = some entry ∧ request = dispatcher.creation entry.2 ∧
      dispatcher.Completed entries answers place early := by
  cases ended : result with
  | ok outcomes => exact (posted.completed ended).split split
  | error failure =>
      rcases posted.failed ended with
        ⟨count, entry, first, last, _, _, placed, rfl, completed, _, broken⟩
      -- The request opens the round that fails, or it stands in one of those above.
      rcases append_eq_append_cons split with ⟨rest, rfl, splitLast⟩ | ⟨_, splitFirst, _⟩
      · rcases broken.failed.split splitLast with ⟨rfl, same⟩
        rw [List.append_nil]
        exact ⟨count, entry, placed, same, completed⟩
      · exact completed.split splitFirst

end Rounds

/-! ## A run that stops -/

/-- Rows from this place of an extraction on, rows that are not posted, and all other columns hold
what they held before. -/
def UntouchedFrom (extraction : Extraction α) (before after : Table) (place : Nat) : Prop :=
  ∀ row column, row ∉ extraction.rows.take place ∨ column ≠ SheetRecord.statusColumn α →
    after.get row column = before.get row column

/-- A run has failed in the round of the row at a place of the extraction. -/
structure StoppedAt (dispatcher : Dispatcher) (sink : StatusSink σ) (extraction : Extraction α)
    (view : σ → Table) (before after : Conversation σ) (events : List Event) (failure : Failure)
    (place : Nat) : Prop where
  requests : requestsIn events =
    (extraction.entries.take (place + 1)).map fun entry => dispatcher.creation entry.2
  statuses : ∀ earlier < place,
    ShowsAnswer extraction before.answers (view after.store) earlier
  untouched : UntouchedFrom extraction (view before.store) (view after.store) (place + 1)
  unread : ∀ defect, failure = .invalidResponse defect →
    UntouchedFrom extraction (view before.store) (view after.store) place
  cause : ∃ entry first last outcomes middle, extraction.entries[place]? = some entry ∧
    events = first ++ last ∧
    dispatcher.Completed extraction.entries before.answers place first ∧
    dispatcher.RowsPosted sink (extraction.entries.take place) before.answers before.store first
      (.ok outcomes) (before.answers.drop place) middle ∧
    dispatcher.RoundFailed sink entry (Answer.nth before.answers place) middle last failure
      after.store

section Run

variable {dispatcher : Dispatcher} {sink : StatusSink σ} {view : σ → Table}
variable {extraction : Extraction α} {before after : Conversation σ} {events : List Event}
variable {result : Except Failure (List (RowPosition × Outcome))} {left : List Answer}
variable {failure : Failure}

theorem stoppedAt_of_posted (into : sink.WritesInto view (SheetRecord.statusColumn α))
    (nodup : extraction.rows.Nodup)
    (posted : dispatcher.RowsPosted sink extraction.entries before.answers before.store events
      result left after.store)
    (failed : result = .error failure) :
    ∃ place, dispatcher.StoppedAt sink extraction view before after events failure place := by
  rcases posted.failed failed with
    ⟨place, entry, first, last, outcomes, middle, placed, rfl, completed, chain, broken⟩
  have round := broken.failed
  have takeEntry : extraction.entries.take (place + 1) =
      extraction.entries.take place ++ [entry] := by
    rw [List.take_add_one, placed]
    rfl
  have rowsFirst : (statusesIn first).map (·.1) = extraction.rows.take place := by
    rw [completed.rows, List.map_take, Extraction.rows]
  -- The sheet has the statuses of the complete rounds and perhaps one more for the last row.
  rcases chain.sheet into with ⟨_, sheetFirst, _, rfl | ⟨_, impossible⟩⟩
  rotate_left
  · cases impossible
  rcases broken.sheet into with ⟨torn, sheetLast, initialLast, whole⟩
  have sheet : view after.store = (view before.store).marked (SheetRecord.statusColumn α)
      (statusesIn (first ++ last) ++ torn) := by
    rw [sheetLast, sheetFirst, List.append_nil, ← Table.marked_append, statusesIn_append,
      List.append_assoc]
  have rows : (statusesIn (first ++ last) ++ torn).map (·.1) <+:
      extraction.rows.take (place + 1) := by
    have split : extraction.rows.take (place + 1) = extraction.rows.take place ++ [entry.1] := by
      rw [Extraction.rows, ← List.map_take, takeEntry, List.map_append, List.map_take]
      rfl
    rw [split, statusesIn_append, List.append_assoc, List.map_append, rowsFirst]
    exact (List.prefix_append_right_inj _).mpr initialLast
  refine ⟨place, ?_, ?_, ?_, ?_, entry, first, last, outcomes, middle, placed, rfl, completed,
    chain, round⟩
  · rw [requestsIn_append, completed.requests, round.requests, takeEntry, List.map_append]
    rfl
  · intro earlier above
    rw [sheet]
    apply posted.shows nodup (rows.trans (List.take_prefix _ _))
    have lengths := congrArg List.length rowsFirst
    have inside := (List.getElem?_eq_some_iff.mp placed).1
    simp only [List.length_map, List.length_take, Extraction.rows] at lengths
    rw [statusesIn_append, List.length_append]
    omega
  · intro row column apart
    rw [sheet]
    apply Table.get_marked_other
    exact apart.imp_left fun notMember member => notMember (rows.subset member)
  · intro defect same row column apart
    subst same
    have nothingLast : statusesIn last = [] := by
      cases round
      rfl
    have nothingTorn : torn = [] := by
      rcases whole with none | ⟨error, impossible⟩
      · exact none
      · cases impossible
    rw [sheet, statusesIn_append, nothingLast, nothingTorn, List.append_nil, List.append_nil]
    apply Table.get_marked_other
    rw [rowsFirst]
    exact apart

end Run

/-- Each row that is sent one by one is written and kept before the next is sent, whatever is
answered and wherever the sink fails; and a run that fails has failed in the round of one row. -/
theorem dispatchEach_writes_back (dispatcher : Dispatcher) {sink : StatusSink σ} {view : σ → Table}
    (into : sink.WritesInto view (SheetRecord.statusColumn α)) (sheet : Table)
    (skipProcessed : Bool) (before : Conversation σ) :
    let extraction := extract α sheet skipProcessed
    ∃ events result after, dispatcher.dispatchEach extraction sink before = (result, after) ∧
      Adds before after events ∧
      events <+: dispatcher.unhindered extraction.entries before.answers ∧
      (sink.Unfailing → events = dispatcher.unhindered extraction.entries before.answers) ∧
      (∀ early request late, events = early ++ .requested request :: late →
        ∃ place entry, extraction.entries[place]? = some entry ∧
          request = dispatcher.creation entry.2 ∧
          dispatcher.Completed extraction.entries before.answers place early ∧
          (statusesIn early).map (·.1) = extraction.rows.take place) ∧
      (∀ report, result = .ok report →
        dispatcher.Completed extraction.entries before.answers extraction.entries.length events ∧
        (∃ outcomes, dispatcher.RowsPosted sink extraction.entries before.answers before.store events
          (.ok outcomes) after.answers after.store) ∧
        view after.store =
          (view before.store).marked (SheetRecord.statusColumn α) (statusesIn events)) ∧
      ∀ failure, result = .error failure →
        ∃ place, dispatcher.StoppedAt sink extraction view before after events failure place := by
  intro extraction
  have nodup : extraction.rows.Nodup := Extraction.rows_nodup _ _
  rcases dispatcher.dispatchEach_posted sink extraction before with
    ⟨events, result, after, ran, posted, adds⟩
  refine ⟨events, _, after, ran, adds, posted.initial, ?_, ?_, ?_, ?_⟩
  · intro unfailing
    exact posted.eq_unhindered unfailing
  · intro early request late split
    rcases posted.request_after split with ⟨place, entry, placed, same, completed⟩
    refine ⟨place, entry, placed, same, completed, ?_⟩
    rw [completed.rows, List.map_take, Extraction.rows]
  · intro report returned
    rcases map_eq_ok_iff.mp returned with ⟨outcomes, rfl, _⟩
    refine ⟨posted.completed rfl, ⟨outcomes, posted⟩, ?_⟩
    rcases posted.sheet into with ⟨_, same, _, rfl | ⟨_, impossible⟩⟩
    · rw [same, List.append_nil]
    · cases impossible
  · intro failure failed
    exact stoppedAt_of_posted into nodup posted (map_eq_error_iff.mp failed)

end Dispatcher

def StatusSink.refusing (refused : RowPosition) (column : Nat) : StatusSink Table where
  write row status :=
    if row = refused then throw (.said "disk full")
    else modify (·.set row column (.ofText status))
  flush := pure ()

theorem StatusSink.refusing_writesInto (refused : RowPosition) (column : Nat) :
    (refusing refused column).WritesInto id column where
  written {row status store after} ran := by
    by_cases same : row = refused
    · simp only [refusing, same, if_true] at ran
      cases ran
    · simp only [refusing, same, if_false] at ran
      cases ran
      rfl
  failed {row status store error after} ran := by
    by_cases same : row = refused
    · simp only [refusing, same, if_true] at ran
      cases ran
      exact .inl rfl
    · simp only [refusing, same, if_false] at ran
      cases ran
  flushed ran := by
    cases ran
    rfl

namespace Dispatcher

theorem dispatchEach_writes_back_refused :
    ∃ events result after failure,
      sample.dispatchEach (extract NewBudget twoBudgets false) (.refusing ⟨2⟩ 2)
        ⟨[.replied 409 "exists", .replied 201 ""], [], twoBudgets⟩ = (result, after) ∧
      sample.StoppedAt (.refusing ⟨2⟩ 2) (extract NewBudget twoBudgets false) id
        ⟨[.replied 409 "exists", .replied 201 ""], [], twoBudgets⟩ after events failure 1 := by
  have rows : (extract NewBudget twoBudgets false).entries.length = 2 := by decide +kernel
  have sent : (requestsIn (sample.dispatchEach (extract NewBudget twoBudgets false)
      (.refusing ⟨2⟩ 2)
      ⟨[.replied 409 "exists", .replied 201 ""], [], twoBudgets⟩).2.journal).length = 2 := by
    decide +kernel
  have noReport : (sample.dispatchEach (extract NewBudget twoBudgets false) (.refusing ⟨2⟩ 2)
      ⟨[.replied 409 "exists", .replied 201 ""], [], twoBudgets⟩).1.toOption = none := by
    decide +kernel
  rcases dispatchEach_writes_back (α := NewBudget) sample (StatusSink.refusing_writesInto ⟨2⟩ 2)
    twoBudgets false ⟨[.replied 409 "exists", .replied 201 ""], [], twoBudgets⟩ with
    ⟨events, result, after, ran, adds, _, _, _, _, stops⟩
  change sample.dispatchEach (extract NewBudget twoBudgets false) (.refusing ⟨2⟩ 2) _ = _ at ran
  rw [ran] at sent noReport
  cases result with
  | ok report => cases noReport
  | error failure =>
      rcases stops failure rfl with ⟨place, stopped⟩
      have placeIs : place = 1 := by
        have requests := congrArg List.length stopped.requests
        rcases stopped.cause with ⟨_, _, _, _, _, placed, _⟩
        have inside := (List.getElem?_eq_some_iff.mp placed).1
        rw [adds.requests, List.length_append] at sent
        simp only [List.length_map, List.length_take] at requests
        change 0 + _ = 2 at sent
        omega
      exact ⟨events, _, after, failure, ran, placeIs ▸ stopped⟩

end Dispatcher

end SheetPost
