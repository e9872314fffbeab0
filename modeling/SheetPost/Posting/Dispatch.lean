import SheetPost.Gateway.Client
import SheetPost.Posting.Extraction
import SheetPost.Posting.Reconciliation

/-!
# Dispatch

Records are sent one by one or all in one request. One by one, the outcome of a record is written
and kept before the next record is sent, so a run that is cut short loses nothing that is known. In
one request, nothing is written until the whole answer has been found consistent. Where the request
for all of them failed as a whole, the records may be sent again one by one.
-/

namespace SheetPost

/-- Where the statuses of rows go: one action writes the status of a row, the other keeps what has
been written. -/
structure StatusSink (σ : Type) where
  write : RowPosition → String → ExceptT StoreError (StateM σ) Unit
  flush : ExceptT StoreError (StateM σ) Unit

structure Dispatcher where
  client : Client
  session : Session

/-- Whether to send all transactions in one request, and what to do if that fails. -/
structure SyncOptions where
  bulk : Bool
  workers : Nat
  fallback : Bool

namespace Dispatcher

variable {α σ : Type} [SheetRecord α]

/-- Write the status of a row; it is in the journal only if it was written. -/
def writeStatus (sink : StatusSink σ) (row : RowPosition) (status : String) :
    Conversing Failure σ Unit := do
  Conversing.onStore .statusNotWritten (sink.write row status)
  Conversing.record (.statusWritten row status)

/-- Keep what has been written; it is in the journal only if that was done. -/
def flush (sink : StatusSink σ) : Conversing Failure σ Unit := do
  Conversing.onStore .statusNotWritten sink.flush
  Conversing.record .flushed

/-- What became of a record, by the reply to its request. A request that no reply came to is a
rejection; a reply that breaks off leaves open what became of the record and is a failure. -/
def outcomeOfResult : Except Failure Reply → Except Failure Outcome
  | .ok reply =>
      if reply.succeeded then .ok .accepted
      else .ok (.rejectedFor reply.body ("HTTP " ++ integerText reply.status))
  | .error (.transport reason) => .ok (.rejectedFor reason "no response from gateway")
  | .error failure => .error failure

def dispatchOne (dispatcher : Dispatcher) (record : α) : Conversing Failure σ Outcome := do
  let sending := dispatcher.client.execute (SheetRecord.create record) dispatcher.session
  let result ← Conversing.observing sending
  ExceptT.mk (pure (outcomeOfResult result))

def noteOutcome (row : RowPosition) : Outcome → Conversing Failure σ Unit
  | .accepted => Conversing.note .debug ("Row " ++ toString row ++ " accepted")
  | .rejected reason =>
      Conversing.note .warn ("Row " ++ toString row ++ " rejected: " ++ reason)
  | .alreadyProcessed => pure ()

/-- Send one record, write what became of it and keep that. -/
def dispatchRow (dispatcher : Dispatcher) (sink : StatusSink σ) (entry : RowPosition × α) :
    Conversing Failure σ (RowPosition × Outcome) := do
  let outcome ← dispatcher.dispatchOne entry.2
  noteOutcome entry.1 outcome
  match outcome.statusText? with
  | some status =>
      writeStatus sink entry.1 status
      flush sink
  | none => pure ()
  return (entry.1, outcome)

def dispatchEach (dispatcher : Dispatcher) (extraction : Extraction α) (sink : StatusSink σ) :
    Conversing Failure σ SyncReport := do
  let outcomes ← extraction.entries.mapM (dispatcher.dispatchRow sink)
  return (SyncReport.mk .single outcomes none).withAlreadyProcessed extraction.alreadyProcessed

def bulkOutcomes (rows : List RowPosition) (reply : Reply) :
    Except Failure (List (RowPosition × Outcome) × Totals) :=
  if reply.succeeded then
    match BulkReply.ofText? reply.body with
    | some bulk =>
        match reconcile rows bulk with
        | .ok outcomes => .ok (outcomes, ⟨bulk.accepted, bulk.rejected⟩)
        | .error violation => .error (.protocolViolation violation)
    | none => .error (.invalidResponse (.malformed .bulkImport))
  else .error (.batchFailure reply.status reply.body)

def writeOutcome (sink : StatusSink σ) (entry : RowPosition × Outcome) :
    Conversing Failure σ Unit :=
  match entry.2.statusText? with
  | some status => writeStatus sink entry.1 status
  | none => pure ()

def noteTotals (reported own : Totals) : Conversing Failure σ Unit :=
  if reported = own then pure ()
  else
    Conversing.note .warn
      ("Gateway totals (accepted " ++ integerText reported.accepted ++ ", rejected " ++
        integerText reported.rejected ++ ") disagree with per-row results (accepted " ++
        integerText own.accepted ++ ", rejected " ++ integerText own.rejected ++ ")")

def dispatchBulk (dispatcher : Dispatcher) (extraction : Extraction NewTransaction)
    (workers : Nat) (sink : StatusSink σ) : Conversing Failure σ SyncReport := do
  let reply ← dispatcher.client.execute (.bulkImport extraction.records workers) dispatcher.session
  let (outcomes, totals) ← ExceptT.mk (pure (bulkOutcomes extraction.rows reply))
  outcomes.forM (writeOutcome sink)
  flush sink
  let report :=
    (SyncReport.mk .bulk outcomes (some totals)).withAlreadyProcessed extraction.alreadyProcessed
  noteTotals totals report.totals
  return report

/-- Whether a bulk import failed without any of it having been taken in: the whole was refused, or
nothing came back. -/
def allowsFallback : Failure → Bool
  | .batchFailure .. | .transport _ => true
  | _ => false

def syncTransactions (dispatcher : Dispatcher) (extraction : Extraction NewTransaction)
    (options : SyncOptions) (sink : StatusSink σ) : Conversing Failure σ SyncReport :=
  if options.bulk then
    tryCatch (dispatcher.dispatchBulk extraction options.workers sink) fun failure =>
      if options.fallback && allowsFallback failure then do
        Conversing.note .warn
          (failure.message ++ "; resending " ++ integerText extraction.entries.length ++
            " records one by one")
        let report ← dispatcher.dispatchEach extraction sink
        return { report with mode := .bulkFallback }
      else throw failure
  else dispatcher.dispatchEach extraction sink

end Dispatcher

end SheetPost
