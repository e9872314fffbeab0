import Mathlib.Tactic.ByContra
import SheetPost.Proofs.Posting.Modes
import SheetPost.Proofs.Posting.WriteBack

/-!
# Sinks that keep what is written

A sink may depend on posting for nothing more than writing and keeping. Where writing cannot fail
and keeping fails exactly if the sheet does not fit, a run is stopped by its sink exactly if it
comes to a moment at which the statuses written so far do not leave a fitting sheet. Otherwise,
whatever way the records go out, the sink is left with all the statuses that have been written, and
all of them are kept. Each of them is the text of an outcome that an answer has decided, and every
row that was answered has one.
-/

namespace SheetPost

def earlyStatusesIn (events : List Event) : List (RowPosition × String) :=
  statusesIn (events.takeWhile fun event => !event.isFlush)

theorem earlyStatusesIn_effectsIn (events : List Event) :
    earlyStatusesIn (effectsIn events) = earlyStatusesIn events := by
  induction events with
  | nil => rfl
  | cons event events induction =>
      cases event with
      | flushed => rfl
      | statusWritten row status => exact congrArg ((row, status) :: ·) induction
      | requested request => exact induction
      | noted level text => exact induction
      | printed text => exact induction

theorem earlyStatusesIn_requested (request : Request) (events : List Event) :
    earlyStatusesIn (.requested request :: events) = earlyStatusesIn events := rfl

theorem earlyStatusesIn_initial (events : List Event) :
    earlyStatusesIn events <+: statusesIn events :=
  (List.takeWhile_prefix _).filterMap _

namespace StatusSink

variable {σ : Type}

/-- From a store in which a sheet is written, the sink can write a status, and it can keep the sheet
exactly if the sheet fits. -/
structure KeepsFitting (sink : StatusSink σ) (column : Nat) (fits : Table → Prop)
    (written kept : Table → σ → Prop) : Prop where
  write : ∀ {sheet store} (row : RowPosition) (status : String), written sheet store →
    ∃ after, sink.write row status store = (.ok (), after) ∧
      written (sheet.set row column (.ofText status)) after
  flush : ∀ {sheet store}, written sheet store → fits sheet →
    ∃ after, sink.flush store = (.ok (), after) ∧ kept sheet after
  refuse : ∀ {sheet store}, written sheet store → ¬fits sheet →
    ∃ error after, sink.flush store = (.error error, after)
  written_of_kept : ∀ {sheet store}, kept sheet store → written sheet store

end StatusSink

namespace Dispatcher

variable {α σ : Type} [SheetRecord α] {dispatcher : Dispatcher} {sink : StatusSink σ}
variable {column : Nat} {fits : Table → Prop} {written kept : Table → σ → Prop}
variable {sheet : Table} {store after : σ} {events : List Event}

def Unsaved {β : Type} (result : Except Failure β) : Prop :=
  ∃ error, result = .error (.statusNotWritten error)

theorem unsaved_map_iff {β γ : Type} (change : β → γ) {result : Except Failure β} :
    Unsaved (result.map change) ↔ Unsaved result := by
  cases result <;> simp [Unsaved, Except.map]

theorem unsaved_error_iff {β : Type} {failure : Failure} :
    Unsaved (.error failure : Except Failure β) ↔ ∃ error, failure = .statusNotWritten error := by
  simp [Unsaved]

/-- Statuses are written and kept time and again, though not before the early ones are written. The
first time that the sheet does not fit puts an end to it. -/
structure Saves (column : Nat) (fits : Table → Prop) (kept : Table → σ → Prop) (sheet : Table)
    (early statuses : List (RowPosition × String)) (unsaved : Prop) (after : σ) : Prop where
  unsaved_iff : unsaved ↔ ∃ sofar, sofar ≠ [] ∧ early <+: sofar ∧ sofar <+: statuses ∧
    ¬fits (sheet.marked column sofar)
  kept : ¬unsaved → kept (sheet.marked column statuses) after

theorem Saves.nothing {early : List (RowPosition × String)} {unsaved : Prop} (goesOn : ¬unsaved)
    (held : kept sheet after) : Saves column fits kept sheet early [] unsaved after := by
  refine ⟨iff_of_false goesOn ?_, fun _ => held⟩
  rintro ⟨sofar, nonempty, _, initial, _⟩
  exact nonempty (List.prefix_nil.mp initial)

theorem Saves.single {entry : RowPosition × String} {unsaved : Prop}
    (refused : unsaved ↔ ¬fits (sheet.marked column [entry]))
    (held : ¬unsaved → kept (sheet.marked column [entry]) after) :
    Saves column fits kept sheet [] [entry] unsaved after := by
  refine ⟨refused.trans ⟨fun notFit => ⟨[entry], List.cons_ne_nil _ _, List.nil_prefix,
    List.prefix_rfl, notFit⟩, ?_⟩, held⟩
  rintro ⟨sofar, nonempty, _, initial, notFit⟩
  rcases List.prefix_cons_iff.mp initial with empty | ⟨rest, rfl, none⟩
  · exact absurd empty nonempty
  · rw [List.prefix_nil.mp none] at notFit
    exact notFit

theorem Saves.cons {entry : RowPosition × String} {statuses : List (RowPosition × String)}
    {unsaved : Prop} (first : fits (sheet.marked column [entry]))
    (later : Saves column fits kept (sheet.marked column [entry]) [] statuses unsaved after) :
    Saves column fits kept sheet [] (entry :: statuses) unsaved after := by
  refine ⟨later.unsaved_iff.trans ⟨?_, ?_⟩, later.kept⟩
  · rintro ⟨sofar, _, _, initial, notFit⟩
    exact ⟨entry :: sofar, List.cons_ne_nil _ _, List.nil_prefix,
      List.cons_prefix_cons.mpr ⟨rfl, initial⟩, notFit⟩
  · rintro ⟨sofar, nonempty, _, initial, notFit⟩
    rcases List.prefix_cons_iff.mp initial with empty | ⟨rest, rfl, initialRest⟩
    · exact absurd empty nonempty
    · refine ⟨rest, ?_, List.nil_prefix, initialRest, notFit⟩
      rintro rfl
      exact notFit first

theorem Saves.first {statuses : List (RowPosition × String)} {unsaved : Prop}
    (saves : Saves column fits kept sheet [] statuses unsaved after) :
    Saves column fits kept sheet (statuses.take 1) statuses unsaved after := by
  refine ⟨saves.unsaved_iff.trans ⟨?_, ?_⟩, saves.kept⟩
  · rintro ⟨sofar, nonempty, _, initial, notFit⟩
    cases sofar with
    | nil => exact absurd rfl nonempty
    | cons entry sofar =>
        rcases initial with ⟨rest, rfl⟩
        exact ⟨_, nonempty, ⟨sofar, rfl⟩, List.prefix_append _ _, notFit⟩
  · rintro ⟨sofar, nonempty, _, initial, notFit⟩
    exact ⟨sofar, nonempty, List.nil_prefix, initial, notFit⟩

/-! ## What is written is kept -/

theorem RowsWritten.saves (keeps : sink.KeepsFitting column fits written kept)
    {statuses : List (RowPosition × String)} {result : Except Failure Unit}
    (ran : RowsWritten sink statuses store events result after) (held : written sheet store) :
    statusesIn events = statuses ∧ earlyStatusesIn events = statuses ∧
      (Unsaved result ↔ ¬fits (sheet.marked column statuses)) ∧
      (¬Unsaved result → result = .ok () ∧ kept (sheet.marked column statuses) after) := by
  induction ran generalizing sheet with
  | kept flush =>
      have fitting : fits sheet := by
        by_contra notFit
        rcases keeps.refuse held notFit with ⟨_, _, refused⟩
        cases flush.symm.trans refused
      rcases keeps.flush held fitting with ⟨_, flushed, isKept⟩
      cases flush.symm.trans flushed
      exact ⟨rfl, rfl, iff_of_false nofun (not_not_intro fitting), fun _ => ⟨rfl, isKept⟩⟩
  | unkept flush =>
      have notFit : ¬fits sheet := by
        intro fitting
        rcases keeps.flush held fitting with ⟨_, flushed, _⟩
        cases flush.symm.trans flushed
      exact ⟨rfl, rfl, iff_of_true ⟨_, rfl⟩ notFit, fun goesOn => absurd ⟨_, rfl⟩ goesOn⟩
  | cons write _ induction =>
      rcases keeps.write _ _ held with ⟨_, wrote, heldNow⟩
      cases write.symm.trans wrote
      rcases induction heldNow with ⟨statuses, early, rest⟩
      exact ⟨congrArg (_ :: ·) statuses, congrArg (_ :: ·) early, rest⟩
  | stopped write =>
      rcases keeps.write _ _ held with ⟨_, wrote, _⟩
      cases write.symm.trans wrote

theorem not_unsaved_of_verdict {record : α} {answer : Answer} {failure : Failure} {β : Type}
    (undecided : verdict record answer = .error failure) :
    ¬Unsaved (.error failure : Except Failure β) := by
  rintro ⟨error, same⟩
  cases same
  rcases verdict_cases record answer with ⟨_, _, _, broken⟩ | ⟨_, _, decided, _⟩
  · cases broken.symm.trans undecided
  · cases decided.symm.trans undecided

theorem not_unsaved_of_bulkVerdict {rows : List RowPosition} {answer : Answer} {failure : Failure}
    {β : Type} (undecided : bulkVerdict rows answer = .error failure) :
    ¬Unsaved (.error failure : Except Failure β) := by
  rintro ⟨error, same⟩
  cases same
  cases answer with
  | failed reason => cases undecided
  | cutOff status reason => cases undecided
  | replied status body =>
      change bulkOutcomes rows ⟨_, status, body⟩ = _ at undecided
      unfold bulkOutcomes at undecided
      split at undecided
      · split at undecided
        · split at undecided <;> cases undecided
        · cases undecided
      · cases undecided

theorem RowPosted.saves (keeps : sink.KeepsFitting column fits written kept)
    {entry : RowPosition × α} {answer : Answer} {result : Except Failure (RowPosition × Outcome)}
    (posted : dispatcher.RowPosted sink entry answer store events result after)
    (held : kept sheet store) :
    earlyStatusesIn events = statusesIn events ∧
      Saves column fits kept sheet [] (statusesIn events) (Unsaved result) after := by
  cases posted with
  | undecided decided => exact ⟨rfl, .nothing (not_unsaved_of_verdict decided) held⟩
  | decided _ _ ran =>
      rcases ran.saves keeps (keeps.written_of_kept held) with ⟨statuses, early, refused, isKept⟩
      rw [statusesIn_requested, statuses]
      exact ⟨early, .single ((unsaved_map_iff _).trans refused) fun goesOn =>
        (isKept fun unsaved => goesOn ((unsaved_map_iff _).mpr unsaved)).2⟩

theorem RowsPosted.saves (keeps : sink.KeepsFitting column fits written kept)
    {entries : List (RowPosition × α)} {answers left : List Answer}
    {result : Except Failure (List (RowPosition × Outcome))}
    (posted : dispatcher.RowsPosted sink entries answers store events result left after)
    (held : kept sheet store) :
    Saves column fits kept sheet [] (statusesIn events) (Unsaved result) after := by
  induction posted generalizing sheet with
  | nil => exact .nothing nofun held
  | @cons entry _ _ _ _ _ _ _ _ outcome _ first _ induction =>
      rcases first.of_ok rfl with ⟨_, _, status, _, one⟩
      rcases first.saves keeps held with ⟨_, saves⟩
      have goesOn : ¬Unsaved (.ok outcome : Except Failure (RowPosition × Outcome)) := nofun
      have heldNow := saves.kept goesOn
      rw [one] at saves heldNow
      have fitting : fits (sheet.marked column [(entry.1, status)]) := by
        by_contra notFit
        exact goesOn (saves.unsaved_iff.mpr ⟨_, List.cons_ne_nil _ _, List.nil_prefix,
          List.prefix_rfl, notFit⟩)
      rw [statusesIn_append, one, unsaved_map_iff]
      exact (induction heldNow).cons fitting
  | stopped first =>
      have saves := (first.saves keeps held).2
      rw [unsaved_error_iff] at saves ⊢
      exact saves

theorem RowsPosted.early (keeps : sink.KeepsFitting column fits written kept)
    {entries : List (RowPosition × α)} {answers left : List Answer}
    {result : Except Failure (List (RowPosition × Outcome))}
    (posted : dispatcher.RowsPosted sink entries answers store events result left after)
    (held : kept sheet store) : earlyStatusesIn events = (statusesIn events).take 1 := by
  cases posted with
  | nil => rfl
  | stopped first =>
      rw [(first.saves keeps held).1]
      rcases first.statuses with none | ⟨_, _, _, _, one⟩
      · rw [none]
        rfl
      · rw [one]
        rfl
  | cons first =>
      rcases first.completed with ⟨status, _, rfl⟩
      rfl

theorem BatchPosted.early (keeps : sink.KeepsFitting column fits written kept)
    {extraction : Extraction NewTransaction} {workers : Nat} {answer : Answer}
    {result : Except Failure (List (RowPosition × Outcome) × Totals)}
    (posted : dispatcher.BatchPosted sink extraction workers answer store events result after)
    (held : kept sheet store) : earlyStatusesIn events = statusesIn events := by
  cases posted with
  | undecided => rfl
  | decided _ ran =>
      rcases ran.saves keeps (keeps.written_of_kept held) with ⟨statuses, early, _⟩
      exact early.trans statuses.symm

theorem BatchPosted.saves (keeps : sink.KeepsFitting column fits written kept)
    {extraction : Extraction NewTransaction} {workers : Nat} {answer : Answer}
    {result : Except Failure (List (RowPosition × Outcome) × Totals)}
    (nonempty : extraction.rows ≠ [])
    (posted : dispatcher.BatchPosted sink extraction workers answer store events result after)
    (held : kept sheet store) :
    Saves column fits kept sheet (statusesIn events) (statusesIn events) (Unsaved result)
      after := by
  cases posted with
  | undecided decided => exact .nothing (not_unsaved_of_bulkVerdict decided) held
  | @decided outcomes _ _ _ _ decided ran =>
      rcases ran.saves keeps (keeps.written_of_kept held) with ⟨statuses, _, refused, isKept⟩
      rw [statusesIn_requested, statuses, unsaved_map_iff]
      refine ⟨refused.trans ⟨fun notFit => ⟨_, ?_, List.prefix_rfl, List.prefix_rfl, notFit⟩, ?_⟩,
        fun goesOn => (isKept goesOn).2⟩
      · rcases hasStatus_of_bulkVerdict decided with ⟨rows, told⟩
        intro silent
        rw [← rows, ← map_fst_statusesOf told, silent] at nonempty
        exact nonempty rfl
      · rintro ⟨sofar, _, whole, initial, notFit⟩
        rw [whole.eq_of_length_le initial.length_le]
        exact notFit

theorem RowsPosted.statuses_initial {entries : List (RowPosition × α)} {answers left : List Answer}
    {result : Except Failure (List (RowPosition × Outcome))}
    (posted : dispatcher.RowsPosted sink entries answers store events result left after) :
    (statusesIn events).map (·.1) <+: entries.map (·.1) := by
  rw [List.prefix_iff_getElem?]
  intro index inside
  rw [List.length_map] at inside
  rcases posted.status_at (List.getElem?_eq_getElem inside) with ⟨entry, _, placed, row, _⟩
  rw [List.getElem_map, List.getElem?_map, placed]
  exact congrArg some row

theorem BatchPosted.statuses_initial {extraction : Extraction NewTransaction} {workers : Nat}
    {answer : Answer} {result : Except Failure (List (RowPosition × Outcome) × Totals)}
    (posted : dispatcher.BatchPosted sink extraction workers answer store events result after) :
    statusesIn events = [] ∨ ∃ outcomes totals,
      bulkVerdict extraction.rows answer = .ok (outcomes, totals) ∧
      statusesIn events <+: statusesOf outcomes := by
  cases posted with
  | undecided => exact .inl rfl
  | decided decided ran => exact .inr ⟨_, _, decided, ran.inOrder⟩

theorem RowPosted.answered (keeps : sink.KeepsFitting column fits written kept)
    {entry : RowPosition × α} {answer : Answer} {result : Except Failure (RowPosition × Outcome)}
    {outcome : Outcome}
    (posted : dispatcher.RowPosted sink entry answer store events result after)
    (held : kept sheet store) (decided : verdict entry.2 answer = .ok outcome) :
    ∃ status, outcome.statusText? = some status ∧ (entry.1, status) ∈ statusesIn events := by
  cases posted with
  | undecided undecided => cases decided.symm.trans undecided
  | decided same told ran =>
      cases decided.symm.trans same
      rw [statusesIn_requested, (ran.saves keeps (keeps.written_of_kept held)).1]
      exact ⟨_, told, List.mem_cons_self⟩

theorem RowsPosted.answered (keeps : sink.KeepsFitting column fits written kept)
    {entries : List (RowPosition × α)} {answers left : List Answer}
    {result : Except Failure (List (RowPosition × Outcome))}
    (posted : dispatcher.RowsPosted sink entries answers store events result left after)
    (held : kept sheet store) {index : Nat} {entry : RowPosition × α} {outcome : Outcome}
    (placed : entries[index]? = some entry) (sent : index < (requestsIn events).length)
    (decided : verdict entry.2 (Answer.nth answers index) = .ok outcome) :
    ∃ status, outcome.statusText? = some status ∧ (entry.1, status) ∈ statusesIn events := by
  induction posted generalizing sheet index with
  | nil => cases placed
  | cons first _ induction =>
      rw [statusesIn_append]
      cases index with
      | zero =>
          cases placed
          rcases first.answered keeps held decided with ⟨status, told, member⟩
          exact ⟨status, told, List.mem_append_left _ member⟩
      | succ index =>
          have heldNow := (first.saves keeps held).2.kept nofun
          rw [requestsIn_append, first.requests, List.length_append] at sent
          rw [Answer.nth_succ] at decided
          have sentLater := Nat.lt_of_add_lt_add_right (Nat.add_comm 1 _ ▸ sent)
          rcases induction heldNow placed sentLater decided with ⟨status, told, member⟩
          exact ⟨status, told, List.mem_append_right _ member⟩
  | stopped first =>
      rw [first.requests] at sent
      cases Nat.lt_one_iff.mp sent
      cases placed
      exact first.answered keeps held decided

end Dispatcher

namespace PostedSheet

open Dispatcher

/-- An answer decides the outcome of a row: the answer to the request for the row alone, where so
many requests went out before the first row, or the first one for all rows together. -/
inductive Decided (answers : List Answer) (opening : Nat) :
    (kind : PostedSheet) → Extraction kind.Record → RowPosition → Outcome → Prop
  | alone {kind : PostedSheet} {extraction : Extraction kind.Record} {index : Nat}
      {entry : RowPosition × kind.Record} {outcome : Outcome}
      (placed : extraction.entries[index]? = some entry)
      (decided : verdict entry.2 (Answer.nth answers (opening + index)) = .ok outcome) :
      Decided answers opening kind extraction entry.1 outcome
  | together {extraction : Extraction NewTransaction} {row : RowPosition} {outcome : Outcome}
      {outcomes : List (RowPosition × Outcome)} {totals : Totals}
      (decided : bulkVerdict extraction.rows (Answer.next answers) = .ok (outcomes, totals))
      (member : (row, outcome) ∈ outcomes) :
      Decided answers opening .transactions extraction row outcome

variable {σ : Type} {kind : PostedSheet} {extraction : Extraction kind.Record}
variable {dispatcher : Dispatcher} {options : SyncOptions} {sink : StatusSink σ}
variable {answers : List Answer} {store after : σ} {events : List Event}
variable {result : Except Failure SyncReport}

theorem Decided.hasStatus {opening : Nat} {row : RowPosition} {outcome : Outcome}
    (decided : Decided answers opening kind extraction row outcome) : outcome.HasStatus := by
  cases decided with
  | alone _ decided => exact hasStatus_of_verdict decided
  | together decided member => exact (hasStatus_of_bulkVerdict decided).2 _ member

section Keeping

variable {column : Nat} {fits : Table → Prop} {written kept : Table → σ → Prop} {sheet : Table}

theorem WayPosted.saves (keeps : sink.KeepsFitting column fits written kept)
    (nonempty : extraction.rows ≠ [])
    (way : WayPosted dispatcher sink options answers store kind extraction events result after)
    (held : kept sheet store) :
    Saves column fits kept sheet (earlyStatusesIn events) (statusesIn events) (Unsaved result)
      after := by
  cases way with
  | each _ posted =>
      rw [posted.early keeps held, unsaved_map_iff]
      exact (posted.saves keeps held).first
  | all _ posted =>
      rw [posted.early keeps held, unsaved_map_iff]
      exact posted.saves keeps nonempty held
  | resent _ _ posted =>
      rw [statusesIn_requested, earlyStatusesIn_requested, posted.early keeps held, unsaved_map_iff]
      exact (posted.saves keeps held).first

theorem WayPosted.early_ne_nil (keeps : sink.KeepsFitting column fits written kept)
    (way : WayPosted dispatcher sink options answers store kind extraction events result after)
    (held : kept sheet store) (some : statusesIn events ≠ []) : earlyStatusesIn events ≠ [] := by
  cases way with
  | each _ posted =>
      rw [posted.early keeps held]
      simpa using some
  | all _ posted =>
      rw [posted.early keeps held]
      exact some
  | resent _ _ posted =>
      rw [statusesIn_requested] at some
      rw [earlyStatusesIn_requested, posted.early keeps held]
      simpa using some

theorem WayPosted.keeps (keeps : sink.KeepsFitting column (fun _ => True) written kept)
    (nonempty : extraction.rows ≠ [])
    (way : WayPosted dispatcher sink options answers store kind extraction events result after)
    (held : kept sheet store) : kept (sheet.marked column (statusesIn events)) after := by
  have saves := way.saves keeps nonempty held
  refine saves.kept fun unsaved => ?_
  rcases saves.unsaved_iff.mp unsaved with ⟨_, _, _, _, notFit⟩
  exact notFit trivial

/-- The answers have decided the outcome of a row: the one to the request for the row alone, or the
first one to a request for all rows together. So many requests went out before the first row, and so
many in all. -/
inductive Answered (answers : List Answer) (opening sent : Nat) :
    (kind : PostedSheet) → Extraction kind.Record → RowPosition → Outcome → Prop
  | alone {kind : PostedSheet} {extraction : Extraction kind.Record} {index : Nat}
      {entry : RowPosition × kind.Record} {outcome : Outcome}
      (placed : extraction.entries[index]? = some entry) (reached : opening + index < sent)
      (decided : verdict entry.2 (Answer.nth answers (opening + index)) = .ok outcome) :
      Answered answers opening sent kind extraction entry.1 outcome
  | together {extraction : Extraction NewTransaction} {row : RowPosition} {outcome : Outcome}
      {outcomes : List (RowPosition × Outcome)} {totals : Totals}
      (opened : opening = 1) (reached : 0 < sent)
      (decided : bulkVerdict extraction.rows (Answer.next answers) = .ok (outcomes, totals))
      (member : (row, outcome) ∈ outcomes) :
      Answered answers opening sent .transactions extraction row outcome

theorem Answered.decided {opening sent : Nat} {row : RowPosition} {outcome : Outcome}
    (answered : Answered answers opening sent kind extraction row outcome) :
    Decided answers opening kind extraction row outcome := by
  cases answered with
  | alone placed _ decided => exact .alone placed decided
  | together _ _ decided member => exact .together decided member

theorem WayPosted.answered (keeps : sink.KeepsFitting column fits written kept)
    (way : WayPosted dispatcher sink options answers store kind extraction events result after)
    (held : kept sheet store) {row : RowPosition} {outcome : Outcome}
    (answered : Answered answers (kind.opening dispatcher extraction options).length
      (requestsIn events).length kind extraction row outcome) :
    ∃ status, outcome.statusText? = some status ∧ (row, status) ∈ statusesIn events := by
  cases way with
  | each opening posted =>
      rw [opening] at answered
      cases answered with
      | alone placed reached decided =>
          rw [List.length_nil, Nat.zero_add] at reached decided
          exact posted.answered keeps held placed reached decided
      | together opened => cases opened
  | all bulk posted =>
      rw [posted.requests, opening, if_pos bulk] at answered
      cases answered with
      | alone _ reached => simp at reached
      | together _ _ decided member =>
          rcases (hasStatus_of_bulkVerdict decided).2 _ member with ⟨status, told, _⟩
          refine ⟨status, told, ?_⟩
          cases posted with
          | undecided undecided => cases decided.symm.trans undecided
          | decided same ran =>
              cases decided.symm.trans same
              rw [statusesIn_requested, (ran.saves keeps (keeps.written_of_kept held)).1]
              exact mem_statusesOf.mpr ⟨_, member, told⟩
  | @resent _ more _ _ _ _ bulk undecided posted =>
      rw [opening, if_pos bulk, List.length_singleton] at answered
      cases answered with
      | alone placed reached decided =>
          rw [Nat.add_comm] at reached
          rw [Nat.add_comm, Answer.nth_succ] at decided
          exact posted.answered keeps held placed (Nat.lt_of_succ_lt_succ reached) decided
      | together _ _ decided => cases decided.symm.trans undecided

end Keeping

theorem WayPosted.statuses_initial
    (way : WayPosted dispatcher sink options answers store kind extraction events result after) :
    (statusesIn events).map (·.1) <+: extraction.rows := by
  cases way with
  | each _ posted => exact posted.statuses_initial
  | resent _ _ posted => exact posted.statuses_initial
  | all _ posted =>
      rcases posted.statuses_initial with none | ⟨outcomes, totals, decided, initial⟩
      · rw [none]
        exact List.nil_prefix
      · rcases hasStatus_of_bulkVerdict decided with ⟨rows, told⟩
        rw [← rows, ← map_fst_statusesOf told]
        exact initial.map _

theorem WayPosted.decided
    (way : WayPosted dispatcher sink options answers store kind extraction events result after)
    {row : RowPosition} {status : String} (member : (row, status) ∈ statusesIn events) :
    ∃ outcome, outcome.statusText? = some status ∧
      Decided answers (kind.opening dispatcher extraction options).length kind extraction row
        outcome := by
  rcases List.mem_iff_getElem?.mp member with ⟨index, placed⟩
  cases way with
  | each opening posted =>
      rcases posted.status_at placed with ⟨entry, outcome, there, rfl, decided, told⟩
      refine ⟨outcome, told, .alone there ?_⟩
      rw [opening, List.length_nil, Nat.zero_add]
      exact decided
  | resent bulk _ posted =>
      rcases posted.status_at placed with ⟨entry, outcome, there, rfl, decided, told⟩
      refine ⟨outcome, told, .alone there ?_⟩
      rw [opening, if_pos bulk, List.length_singleton, Nat.add_comm, Answer.nth_succ]
      exact decided
  | all _ posted =>
      rcases posted.statuses_initial with none | ⟨outcomes, totals, decided, initial⟩
      · rw [none] at member
        cases member
      · rcases mem_statusesOf.mp (initial.subset member) with ⟨outcome, isOutcome, told⟩
        exact ⟨outcome, told, .together decided isOutcome⟩

end PostedSheet

end SheetPost
