import SheetPost.Proofs.Gateway.Lockstep
import SheetPost.Proofs.Posting.Modes

namespace SheetPost

open Conversing

variable {σ τ : Type} {related : σ → τ → Prop}

/-- Both sinks take a status, or both refuse it for the same reason, and the same for saving. -/
structure StatusSink.Alike (related : σ → τ → Prop) (sink : StatusSink σ) (other : StatusSink τ) :
    Prop where
  write : ∀ row status, Conversing.Alike related related (sink.write row status)
    (other.write row status)
  flush : Conversing.Alike related related sink.flush other.flush

namespace Dispatcher

variable {α : Type} [SheetRecord α] {client : Client} {session otherSession : Session}
variable {sink : StatusSink σ} {other : StatusSink τ}

theorem writeStatus_lockstep (alike : sink.Alike related other) (row : RowPosition)
    (status : String) :
    Lockstep related related (writeStatus sink row status) (writeStatus other row status) :=
  (Lockstep.onStore _ (alike.write row status)).bind fun _ => .record _

theorem flush_lockstep (alike : sink.Alike related other) :
    Lockstep related related (flush sink) (flush other) :=
  (Lockstep.onStore _ alike.flush).bind fun _ => .record _

theorem noteOutcome_lockstep (row : RowPosition) (outcome : Outcome) :
    Lockstep related related (noteOutcome row outcome) (noteOutcome row outcome) := by
  cases outcome with
  | accepted => exact .record _
  | rejected reason => exact .record _
  | alreadyProcessed => exact .of_result (.ok ())

theorem dispatchRow_lockstep (same : session.token = otherSession.token)
    (alike : sink.Alike related other) (entry : RowPosition × α) :
    Lockstep related related (dispatchRow ⟨client, session⟩ sink entry)
      (dispatchRow ⟨client, otherSession⟩ other entry) := by
  have sends : Lockstep related related (dispatchOne ⟨client, session⟩ entry.2)
      (dispatchOne ⟨client, otherSession⟩ entry.2) :=
    (client.execute_lockstep_of_token _ same).observing.bind fun _ => .of_result _
  refine sends.bind fun outcome => (noteOutcome_lockstep _ _).bind fun _ => ?_
  cases outcome.statusText? with
  | none => exact (Lockstep.of_result (.ok ())).bind fun _ => .of_result (.ok _)
  | some status =>
      refine (writeStatus_lockstep alike _ _).bind fun _ => ?_
      exact (flush_lockstep alike).bind fun _ => .of_result (.ok _)

theorem dispatchEach_lockstep (same : session.token = otherSession.token)
    (alike : sink.Alike related other) (extraction : Extraction α) :
    Lockstep related related (dispatchEach ⟨client, session⟩ extraction sink)
      (dispatchEach ⟨client, otherSession⟩ extraction other) :=
  (Lockstep.mapM (dispatchRow_lockstep same alike) extraction.entries).bind fun _ =>
    .of_result (.ok _)

theorem dispatchBulk_lockstep (same : session.token = otherSession.token)
    (alike : sink.Alike related other) (extraction : Extraction NewTransaction) (workers : Nat) :
    Lockstep related related (dispatchBulk ⟨client, session⟩ extraction workers sink)
      (dispatchBulk ⟨client, otherSession⟩ extraction workers other) := by
  refine (client.execute_lockstep_of_token _ same).bind fun reply => ?_
  refine (Lockstep.of_result _).bind fun decided => ?_
  have writes (entry : RowPosition × Outcome) :
      Lockstep related related (writeOutcome sink entry) (writeOutcome other entry) := by
    unfold writeOutcome
    cases entry.2.statusText? with
    | none => exact .of_result (.ok ())
    | some status => exact writeStatus_lockstep alike _ _
  refine (Lockstep.forM writes decided.1).bind fun _ => (flush_lockstep alike).bind fun _ => ?_
  refine Lockstep.bind ?_ fun _ => .of_result (.ok _)
  unfold noteTotals
  split
  · exact .of_result (.ok ())
  · exact .record _

theorem syncTransactions_lockstep (same : session.token = otherSession.token)
    (alike : sink.Alike related other) (extraction : Extraction NewTransaction)
    (options : SyncOptions) :
    Lockstep related related (syncTransactions ⟨client, session⟩ extraction options sink)
      (syncTransactions ⟨client, otherSession⟩ extraction options other) := by
  unfold syncTransactions
  split
  · refine (dispatchBulk_lockstep same alike extraction _).tryCatch fun failure => ?_
    split
    · refine (Lockstep.record _).bind fun _ => ?_
      exact (dispatchEach_lockstep same alike extraction).bind fun _ => .of_result (.ok _)
    · exact .of_result (.error failure)
  · exact dispatchEach_lockstep same alike extraction

end Dispatcher

theorem PostedSheet.dispatch_lockstep (kind : PostedSheet) {client : Client}
    {session otherSession : Session} (same : session.token = otherSession.token)
    {sink : StatusSink σ} {other : StatusSink τ} (alike : sink.Alike related other)
    (extraction : Extraction kind.Record) (options : SyncOptions) :
    Lockstep related related (kind.dispatch ⟨client, session⟩ extraction options sink)
      (kind.dispatch ⟨client, otherSession⟩ extraction options other) := by
  cases kind with
  | transactions => exact Dispatcher.syncTransactions_lockstep same alike extraction options
  | budgets => exact Dispatcher.dispatchEach_lockstep same alike extraction

end SheetPost
