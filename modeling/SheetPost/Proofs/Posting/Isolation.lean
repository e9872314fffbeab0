import SheetPost.Proofs.Posting.Extraction
import SheetPost.Proofs.Posting.Rounds

namespace SheetPost

def Outcome.ShownBy (outcome : Outcome) (cell : Cell) : Prop :=
  (outcome = .accepted ∧ cell = .text Outcome.okText) ∨
    ∃ reason, outcome = .rejected reason ∧ blank reason = false ∧ cell = .text reason

theorem Outcome.shownBy_ofText {outcome : Outcome} {status : String} (told : outcome.HasStatus)
    (text : outcome.statusText? = some status) : outcome.ShownBy (.ofText status) := by
  rcases told with ⟨_, same, visible⟩
  cases text.symm.trans same
  rw [Cell.ofText_of_not_blank visible]
  cases outcome with
  | accepted =>
      cases text
      exact .inl ⟨rfl, rfl⟩
  | rejected reason =>
      cases text
      exact .inr ⟨_, rfl, visible, rfl⟩
  | alreadyProcessed => cases text

namespace Dispatcher

open Conversation Conversing

variable {α σ : Type} [SheetRecord α]

/-- The status of a row shows what the answer with its number decides. -/
def ShowsAnswer (extraction : Extraction α) (answers : List Answer) (sheet : Table)
    (index : Nat) : Prop :=
  ∀ entry, extraction.entries[index]? = some entry →
    ∃ outcome, verdict entry.2 (Answer.nth answers index) = .ok outcome ∧
      outcome.ShownBy (sheet.get entry.1 (SheetRecord.statusColumn α))

/-- A run has sent every row in order and returned, and every row shows its own answer. -/
structure Isolated (dispatcher : Dispatcher) (extraction : Extraction α) (view : σ → Table)
    (before : Conversation σ) (result : Except Failure SyncReport) (after : Conversation σ) :
    Prop where
  requests : requestsIn after.journal = requestsIn before.journal ++
    extraction.entries.map fun entry => dispatcher.creation entry.2
  returned : ∃ report, result = .ok report
  statuses : ∀ index < extraction.entries.length,
    ShowsAnswer extraction before.answers (view after.store) index

/-- A run has ended at a row whose reply broke off: the rows above show their own answers, the row
itself has been sent and no row below it has, and from there on the sheet is as it was. -/
structure BrokenOff (dispatcher : Dispatcher) (extraction : Extraction α) (view : σ → Table)
    (before : Conversation σ) (result : Except Failure SyncReport) (after : Conversation σ)
    (index status : Nat) (reason : String) : Prop where
  requests : requestsIn after.journal = requestsIn before.journal ++
    (extraction.entries.take (index + 1)).map fun entry => dispatcher.creation entry.2
  failed : result = .error (.invalidResponse (.cutOff status reason))
  statuses : ∀ earlier < index,
    ShowsAnswer extraction before.answers (view after.store) earlier
  untouched : ∀ row ∈ extraction.rows.drop index, ∀ column,
    (view after.store).get row column = (view before.store).get row column

theorem RowsPosted.shows {dispatcher : Dispatcher} {sink : StatusSink σ}
    {extraction : Extraction α} {answers left : List Answer} {store after : σ} {events : List Event}
    {result : Except Failure (List (RowPosition × Outcome))} {sheet : Table}
    {torn : List (RowPosition × String)} (nodup : extraction.rows.Nodup)
    (posted : dispatcher.RowsPosted sink extraction.entries answers store events result left after)
    (initial : (statusesIn events ++ torn).map (·.1) <+: extraction.rows) {index : Nat}
    (inside : index < (statusesIn events).length) :
    ShowsAnswer extraction answers
      (sheet.marked (SheetRecord.statusColumn α) (statusesIn events ++ torn)) index := by
  intro entry placed
  have written := List.getElem?_eq_getElem inside
  rcases posted.status_at written with ⟨found, outcome, there, same, decided, text⟩
  cases placed.symm.trans there
  refine ⟨outcome, decided, ?_⟩
  have member := List.mem_append_left torn (List.getElem_mem inside)
  rw [same, Table.get_marked_of_mem _ _ (initial.sublist.nodup nodup) member]
  exact Outcome.shownBy_ofText (hasStatus_of_verdict decided) text

section Verdict

variable {dispatcher : Dispatcher} {sink : StatusSink σ} {view : σ → Table}
variable {extraction : Extraction α} {before after : Conversation σ} {events : List Event}
variable {result : Except Failure (List (RowPosition × Outcome))} {left : List Answer}

theorem isolated_of_posted (into : sink.WritesInto view (SheetRecord.statusColumn α))
    (nodup : extraction.rows.Nodup)
    (posted : dispatcher.RowsPosted sink extraction.entries before.answers before.store events
      result left after.store)
    (adds : Adds before after events) {outcomes : List (RowPosition × Outcome)}
    (done : result = .ok outcomes) {report : Except Failure SyncReport}
    (returned : ∃ found, report = .ok found) :
    dispatcher.Isolated extraction view before report after := by
  rcases posted.of_ok done with ⟨rows, statuses, requests, told⟩
  rcases posted.sheet into with ⟨torn, same, initial, rfl | ⟨error, failed⟩⟩
  · refine ⟨by rw [adds.requests, requests], returned, ?_⟩
    intro index inside
    rw [same]
    apply posted.shows nodup initial
    have lengths := congrArg List.length (map_fst_statusesOf told)
    rw [rows, List.length_map, List.length_map] at lengths
    rw [statuses, lengths]
    exact inside
  · cases failed.symm.trans done

theorem brokenOff_of_posted (into : sink.WritesInto view (SheetRecord.statusColumn α))
    (nodup : extraction.rows.Nodup)
    (posted : dispatcher.RowsPosted sink extraction.entries before.answers before.store events
      result left after.store)
    (adds : Adds before after events) {index status : Nat} {reason : String}
    (failed : result = .error (.invalidResponse (.cutOff status reason)))
    (requests : requestsIn events =
      (extraction.entries.take (index + 1)).map fun entry => dispatcher.creation entry.2)
    (statuses : (statusesIn events).map (·.1) = (extraction.entries.take index).map (·.1))
    (inside : index < extraction.entries.length) {report : Except Failure SyncReport}
    (stopped : report = .error (.invalidResponse (.cutOff status reason))) :
    dispatcher.BrokenOff extraction view before report after index status reason := by
  rcases posted.sheet into with ⟨torn, same, initial, rfl | ⟨error, other⟩⟩
  · refine ⟨by rw [adds.requests, requests], stopped, ?_, ?_⟩
    · intro earlier above
      rw [same]
      apply posted.shows nodup initial
      have lengths := congrArg List.length statuses
      simp only [List.length_map, List.length_take] at lengths
      omega
    · intro row member column
      rw [same]
      apply Table.get_marked_other _ _ (.inl _)
      rw [List.append_nil, statuses, List.map_take]
      intro memberAbove
      have parts : (extraction.rows.take index ++ extraction.rows.drop index).Nodup := by
        rw [List.take_append_drop]
        exact nodup
      exact (List.nodup_append.mp parts).2.2 row memberAbove row member rfl
  · cases failed.symm.trans other

end Verdict

/-- Rows are treated on their own exactly as long as no reply breaks off; the first that does ends
the run at its row. -/
theorem dispatchEach_isolated_iff (dispatcher : Dispatcher) {sink : StatusSink σ}
    (unfailing : sink.Unfailing) {view : σ → Table}
    (into : sink.WritesInto view (SheetRecord.statusColumn α)) (sheet : Table)
    (skipProcessed : Bool) (before : Conversation σ) :
    let extraction := extract α sheet skipProcessed
    ∃ result after, dispatcher.dispatchEach extraction sink before = (result, after) ∧
      (dispatcher.Isolated extraction view before result after ↔
        ∀ index < extraction.entries.length,
          (Answer.nth before.answers index).isCutOff = false) ∧
      ∀ index status reason, index < extraction.entries.length →
        Answer.nth before.answers index = .cutOff status reason →
        (∀ earlier < index, (Answer.nth before.answers earlier).isCutOff = false) →
          dispatcher.BrokenOff extraction view before result after index status reason := by
  intro extraction
  have nodup : extraction.rows.Nodup := Extraction.rows_nodup _ _
  rcases dispatcher.dispatchEach_posted sink extraction before with
    ⟨events, result, after, ran, posted, adds⟩
  refine ⟨_, after, ran, ?_⟩
  rcases posted.of_unfailing unfailing with ⟨⟨outcomes, done⟩, whole⟩ |
    ⟨place, status, reason, inside, brokenOff, whole, failed, requests, statuses⟩
  · refine ⟨iff_of_true ?_ whole, ?_⟩
    · exact isolated_of_posted into nodup posted adds done ⟨_, by rw [done]; rfl⟩
    · intro index status reason inside brokenOff
      have contradiction := whole index inside
      rw [brokenOff] at contradiction
      cases contradiction
  · refine ⟨iff_of_false ?_ ?_, ?_⟩
    · intro isolated
      rcases isolated.returned with ⟨report, returned⟩
      rw [failed] at returned
      cases returned
    · intro all
      have contradiction := all place inside
      rw [brokenOff] at contradiction
      cases contradiction
    · intro index otherStatus otherReason _ otherBrokenOff wholeBefore
      have same : index = place := by
        rcases Nat.lt_trichotomy index place with above | same | below
        · have contradiction := whole index above
          rw [otherBrokenOff] at contradiction
          cases contradiction
        · exact same
        · have contradiction := wholeBefore place below
          rw [brokenOff] at contradiction
          cases contradiction
      subst same
      cases brokenOff.symm.trans otherBrokenOff
      exact brokenOff_of_posted into nodup posted adds failed requests statuses inside
        (by rw [failed]; rfl)

def twoBudgets : Table where
  name := "Budgets"
  rows := [
    [.text "category", .text "limit", .text "status"],
    [.text "food", .text "200", .text "old"],
    [.text "rent", .text "1200"]]

theorem dispatchEach_isolated_iff_failed :
    ∃ result after,
      sample.dispatchEach (extract NewBudget twoBudgets false) (.intoTable 2)
        ⟨[.failed "timeout", .replied 201 ""], [], twoBudgets⟩ = (result, after) ∧
      sample.Isolated (extract NewBudget twoBudgets false) id
        ⟨[.failed "timeout", .replied 201 ""], [], twoBudgets⟩ result after := by
  rcases dispatchEach_isolated_iff (α := NewBudget) sample (StatusSink.intoTable_unfailing 2)
    (StatusSink.intoTable_writesInto 2) twoBudgets false
    ⟨[.failed "timeout", .replied 201 ""], [], twoBudgets⟩ with ⟨result, after, ran, isolated, _⟩
  refine ⟨result, after, ran, isolated.mpr ?_⟩
  decide +kernel

/-- A refusal whose text breaks off keeps the row below from being sent. -/
theorem dispatchEach_not_isolated :
    let run := sample.dispatchEach (extract NewBudget twoBudgets false) (.intoTable 2)
      ⟨[.cutOff 500 "connection reset", .replied 201 ""], [], twoBudgets⟩
    (requestsIn run.2.journal).length = 1 ∧ run.2.store = twoBudgets ∧
      ¬ sample.Isolated (extract NewBudget twoBudgets false) id
        ⟨[.cutOff 500 "connection reset", .replied 201 ""], [], twoBudgets⟩ run.1 run.2 := by
  intro run
  have sent : (requestsIn run.2.journal).length = 1 := by decide +kernel
  have rows : (extract NewBudget twoBudgets false).entries.length = 2 := by decide +kernel
  refine ⟨sent, by decide +kernel, ?_⟩
  intro isolated
  have lengths := congrArg List.length isolated.requests
  rw [sent, List.length_append, List.length_map, rows] at lengths
  cases lengths

end Dispatcher

end SheetPost
