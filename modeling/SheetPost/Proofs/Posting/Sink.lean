import SheetPost.Posting.Dispatch
import SheetPost.Proofs.Gateway.Journal
import SheetPost.Proofs.Posting.Status
import SheetPost.Proofs.Workbook.Marking

namespace SheetPost

namespace StatusSink

variable {σ : Type}

/-- The sink writes statuses into a column of the sheet that the store holds. -/
structure WritesInto (sink : StatusSink σ) (sheet : σ → Table) (column : Nat) : Prop where
  written : ∀ {row status store after}, sink.write row status store = (.ok (), after) →
    sheet after = (sheet store).set row column (.ofText status)
  failed : ∀ {row status store error after}, sink.write row status store = (.error error, after) →
    sheet after = sheet store ∨ sheet after = (sheet store).set row column (.ofText status)
  flushed : ∀ {store result after}, sink.flush store = (result, after) → sheet after = sheet store

structure Unfailing (sink : StatusSink σ) : Prop where
  write : ∀ {row status store error after}, sink.write row status store ≠ (.error error, after)
  flush : ∀ {store error after}, sink.flush store ≠ (.error error, after)

def intoTable (column : Nat) : StatusSink Table where
  write row status := modify (·.set row column (.ofText status))
  flush := pure ()

theorem intoTable_writesInto (column : Nat) : (intoTable column).WritesInto id column where
  written ran := by cases ran; rfl
  failed ran := by cases ran
  flushed ran := by cases ran; rfl

theorem intoTable_unfailing (column : Nat) : (intoTable column).Unfailing where
  write ran := by cases ran
  flush ran := by cases ran

end StatusSink

namespace Dispatcher

open Conversation Conversing

variable {σ : Type}

def sample : Dispatcher where
  client :=
    { authUrl := "http://localhost:8081"
      gatewayUrl := "http://localhost:8080"
      correlationIds := false
      requestLogging := false }
  session := ⟨"token", none⟩

/-! ## The two actions in a conversation -/

theorem writeStatus_ok {sink : StatusSink σ} {row : RowPosition} {status : String} {store : σ}
    {before : Conversation σ} (ran : sink.write row status before.store = (.ok (), store)) :
    ∃ after, writeStatus sink row status before = (.ok (), after) ∧
      after.answers = before.answers ∧ after.store = store ∧
      Adds before after [.statusWritten row status] :=
  ⟨_, bind_ok (onStore_apply _ ran), rfl, rfl, [.statusWritten row status], rfl, rfl⟩

theorem writeStatus_error {sink : StatusSink σ} {row : RowPosition} {status : String} {store : σ}
    {error : StoreError} {before : Conversation σ}
    (ran : sink.write row status before.store = (.error error, store)) :
    ∃ after, writeStatus sink row status before = (.error (.statusNotWritten error), after) ∧
      after.answers = before.answers ∧ after.store = store ∧ Adds before after [] :=
  ⟨_, bind_error (onStore_apply _ ran), rfl, rfl, [], (List.append_nil _).symm, rfl⟩

theorem flush_ok {sink : StatusSink σ} {store : σ} {before : Conversation σ}
    (ran : sink.flush before.store = (.ok (), store)) :
    ∃ after, flush sink before = (.ok (), after) ∧
      after.answers = before.answers ∧ after.store = store ∧ Adds before after [.flushed] :=
  ⟨_, bind_ok (onStore_apply _ ran), rfl, rfl, [.flushed], rfl, rfl⟩

theorem flush_error {sink : StatusSink σ} {store : σ} {error : StoreError}
    {before : Conversation σ} (ran : sink.flush before.store = (.error error, store)) :
    ∃ after, flush sink before = (.error (.statusNotWritten error), after) ∧
      after.answers = before.answers ∧ after.store = store ∧ Adds before after [] :=
  ⟨_, bind_error (onStore_apply _ ran), rfl, rfl, [], (List.append_nil _).symm, rfl⟩

/-! ## Writing all statuses -/

section Writes

variable (sink : StatusSink σ)

/-- What writing statuses one after the other and keeping them at the end can come to. -/
inductive RowsWritten : List (RowPosition × String) → σ →
    List Event → Except Failure Unit → σ → Prop
  | kept {store after : σ} (flush : sink.flush store = (.ok (), after)) :
      RowsWritten [] store [.flushed] (.ok ()) after
  | unkept {store after : σ} {error : StoreError}
      (flush : sink.flush store = (.error error, after)) :
      RowsWritten [] store [] (.error (.statusNotWritten error)) after
  | cons {row : RowPosition} {status : String} {statuses : List (RowPosition × String)}
      {store written after : σ} {events : List Event} {result : Except Failure Unit}
      (write : sink.write row status store = (.ok (), written))
      (rest : RowsWritten statuses written events result after) :
      RowsWritten ((row, status) :: statuses) store (.statusWritten row status :: events) result
        after
  | stopped {row : RowPosition} {status : String} {statuses : List (RowPosition × String)}
      {store after : σ} {error : StoreError}
      (write : sink.write row status store = (.error error, after)) :
      RowsWritten ((row, status) :: statuses) store [] (.error (.statusNotWritten error)) after

theorem writeAll_written (outcomes : List (RowPosition × Outcome)) (before : Conversation σ) :
    ∃ events result after,
      (outcomes.forM (writeOutcome sink) >>= fun _ => flush sink) before = (result, after) ∧
      RowsWritten sink (statusesOf outcomes) before.store events result after.store ∧
      after.answers = before.answers ∧ Adds before after events := by
  induction outcomes generalizing before with
  | nil =>
      cases flushed : sink.flush before.store with
      | mk result kept =>
          cases result with
          | error error =>
              rcases flush_error flushed with ⟨after, ran, answers, rfl, adds⟩
              exact ⟨_, _, after, ran, .unkept flushed, answers, adds⟩
          | ok value =>
              rcases flush_ok flushed with ⟨after, ran, answers, rfl, adds⟩
              exact ⟨_, _, after, ran, .kept flushed, answers, adds⟩
  | cons entry outcomes induction =>
      have step : ((entry :: outcomes).forM (writeOutcome sink) >>= fun _ => flush sink) =
          writeOutcome sink entry >>= fun _ =>
            outcomes.forM (writeOutcome sink) >>= fun _ => flush sink :=
        bind_assoc _ _ _
      rw [step]
      cases text : entry.2.statusText? with
      | none =>
          have ran : writeOutcome sink entry before = (.ok (), before) := by
            rw [writeOutcome, text]
            rfl
          have same : statusesOf (entry :: outcomes) = statusesOf outcomes := by
            rw [statusesOf, List.filterMap_cons, text]
            rfl
          rw [bind_ok ran, same]
          exact induction before
      | some status =>
          have same : statusesOf (entry :: outcomes) =
              (entry.1, status) :: statusesOf outcomes := by
            rw [statusesOf, List.filterMap_cons, text]
            rfl
          rw [writeOutcome, text, same]
          cases write : sink.write entry.1 status before.store with
          | mk result store =>
              cases result with
              | error error =>
                  rcases writeStatus_error write with ⟨after, ran, answers, rfl, adds⟩
                  exact ⟨_, _, after, bind_error ran, .stopped write, answers, adds⟩
              | ok value =>
                  rcases writeStatus_ok write with ⟨middle, ran, answers, rfl, adds⟩
                  rcases induction middle with
                    ⟨events, result, after, ranRest, written, answersRest, addsRest⟩
                  exact ⟨_, result, after, (bind_ok ran).trans ranRest, .cons write written,
                    answersRest.trans answers, adds.trans addsRest⟩

variable {sink} {statuses : List (RowPosition × String)} {store after : σ} {events : List Event}
variable {result : Except Failure Unit}

theorem RowsWritten.requests (written : RowsWritten sink statuses store events result after) :
    requestsIn events = [] := by
  induction written with
  | kept => rfl
  | unkept => rfl
  | cons _ _ induction => exact induction
  | stopped => rfl

theorem RowsWritten.inOrder (written : RowsWritten sink statuses store events result after) :
    statusesIn events <+: statuses := by
  induction written with
  | kept => exact List.nil_prefix
  | unkept => exact List.nil_prefix
  | cons _ _ induction => exact List.cons_prefix_cons.mpr ⟨rfl, induction⟩
  | stopped => exact List.nil_prefix

theorem RowsWritten.of_ok (written : RowsWritten sink statuses store events result after)
    (done : result = .ok ()) : statusesIn events = statuses := by
  induction written with
  | kept => rfl
  | unkept => cases done
  | cons _ _ induction => exact congrArg (_ :: ·) (induction done)
  | stopped => cases done

theorem RowsWritten.events_of_ok (written : RowsWritten sink statuses store events result after)
    (done : result = .ok ()) :
    events = statuses.map (fun entry => .statusWritten entry.1 entry.2) ++ [.flushed] := by
  induction written with
  | kept => rfl
  | unkept => cases done
  | cons _ _ induction => exact congrArg (_ :: ·) (induction done)
  | stopped => cases done

theorem RowsWritten.split {request : Request} {early late : List Event} {row : RowPosition}
    {status : String} (written : RowsWritten sink statuses store events result after)
    (split : .requested request :: events = early ++ .statusWritten row status :: late) :
    (row, status) ∈ statuses ∧ requestsIn early = [request] ∧ requestsIn late = [] := by
  cases early with
  | nil => cases split
  | cons event early =>
      rcases List.cons_eq_cons.mp split with ⟨rfl, rfl⟩
      have none : requestsIn (early ++ .statusWritten row status :: late) = [] :=
        written.requests
      rw [requestsIn_append] at none
      rcases List.append_eq_nil_iff.mp none with ⟨noneEarly, noneLate⟩
      refine ⟨?_, congrArg (request :: ·) noneEarly, noneLate⟩
      apply written.inOrder.subset
      exact mem_statusesIn.mpr (List.mem_append_right _ List.mem_cons_self)

theorem requested_ne_split (request : Request) {early late : List Event} {row : RowPosition}
    {status : String} : [.requested request] ≠ early ++ .statusWritten row status :: late := by
  intro split
  rcases early with _ | ⟨event, _ | _⟩ <;> cases split

theorem RowsWritten.sheet {view : σ → Table} {column : Nat} (into : sink.WritesInto view column)
    (written : RowsWritten sink statuses store events result after) :
    ∃ torn, view after = (view store).marked column (statusesIn events ++ torn) ∧
      statusesIn events ++ torn <+: statuses ∧
      (torn = [] ∨ ∃ error, result = .error (.statusNotWritten error)) := by
  induction written with
  | kept flush => exact ⟨[], into.flushed flush, List.nil_prefix, .inl rfl⟩
  | unkept flush => exact ⟨[], into.flushed flush, List.nil_prefix, .inl rfl⟩
  | cons write _ induction =>
      rcases induction with ⟨torn, same, initial, whole⟩
      refine ⟨torn, ?_, List.cons_prefix_cons.mpr ⟨rfl, initial⟩, whole⟩
      rw [same, into.written write]
      rfl
  | @stopped row status _ _ _ error write =>
      rcases into.failed write with same | done
      · exact ⟨[], same, List.nil_prefix, .inl rfl⟩
      · exact ⟨[(row, status)], done, List.cons_prefix_cons.mpr ⟨rfl, List.nil_prefix⟩,
          .inr ⟨error, rfl⟩⟩

theorem RowsWritten.of_error {failure : Failure}
    (written : RowsWritten sink statuses store events result after)
    (failed : result = .error failure) : ∃ error, failure = .statusNotWritten error := by
  induction written with
  | kept => cases failed
  | unkept =>
      cases failed
      exact ⟨_, rfl⟩
  | cons _ _ induction => exact induction failed
  | stopped =>
      cases failed
      exact ⟨_, rfl⟩

theorem RowsWritten.of_unfailing (unfailing : sink.Unfailing)
    (written : RowsWritten sink statuses store events result after) : result = .ok () := by
  induction written with
  | kept => rfl
  | unkept flush => exact absurd flush unfailing.flush
  | cons _ _ induction => exact induction
  | stopped write => exact absurd write unfailing.write

theorem RowsWritten.unique {other : List Event} {otherResult : Except Failure Unit} {later : σ}
    (written : RowsWritten sink statuses store events result after)
    (again : RowsWritten sink statuses store other otherResult later) :
    events = other ∧ result = otherResult ∧ after = later := by
  induction written generalizing other with
  | kept flush =>
      cases again with
      | kept flushAgain =>
          cases flush.symm.trans flushAgain
          exact ⟨rfl, rfl, rfl⟩
      | unkept flushAgain => cases flush.symm.trans flushAgain
  | unkept flush =>
      cases again with
      | kept flushAgain => cases flush.symm.trans flushAgain
      | unkept flushAgain =>
          cases flush.symm.trans flushAgain
          exact ⟨rfl, rfl, rfl⟩
  | cons write _ induction =>
      cases again with
      | cons writeAgain rest =>
          cases write.symm.trans writeAgain
          rcases induction rest with ⟨rfl, same⟩
          exact ⟨rfl, same⟩
      | stopped writeAgain => cases write.symm.trans writeAgain
  | stopped write =>
      cases again with
      | cons writeAgain => cases write.symm.trans writeAgain
      | stopped writeAgain =>
          cases write.symm.trans writeAgain
          exact ⟨rfl, rfl, rfl⟩

end Writes

end Dispatcher

end SheetPost
