import SheetPost.Proofs.Posting.Batch
import SheetPost.Proofs.Posting.Extraction

namespace SheetPost

def Request.Submits (request : Request) (sheet : Table) (rows : List RowPosition) : Prop :=
  ∃ bodies, request.body = some (.list bodies) ∧ bodies.length = rows.length ∧
    ∀ (index : Nat) (row : RowPosition), rows[index]? = some row →
      ∃ cells, sheet.rows[row.above]? = some cells ∧
        ∃ transaction : NewTransaction, SheetRecord.ofRow? cells = some transaction ∧
          bodies[index]? = some transaction.body

/-- The cells in the status column of these rows say what a reply says about their places. -/
structure Table.Attributes (sheet : Table) (rows : List RowPosition) (reply : BulkReply) :
    Prop where
  complained : ∀ (index : Nat) (row : RowPosition), rows[index]? = some row →
    ∀ complaint ∈ reply.complaints, complaint.index = index →
      sheet.get row (SheetRecord.statusColumn NewTransaction) =
        .text (if blank complaint.reason then
            "rejected by gateway (item " ++ integerText index ++ ")"
          else complaint.reason)
  unnamed : ∀ (index : Nat) (row : RowPosition), rows[index]? = some row →
    (∀ complaint ∈ reply.complaints, complaint.index ≠ index) →
      sheet.get row (SheetRecord.statusColumn NewTransaction) = .text "OK"

namespace Extraction

theorem submits_batch (dispatcher : Dispatcher) (sheet : Table) (skipProcessed : Bool)
    (workers : Nat) :
    (dispatcher.batch (extract NewTransaction sheet skipProcessed).records workers).Submits sheet
      (extract NewTransaction sheet skipProcessed).rows := by
  refine ⟨(extract NewTransaction sheet skipProcessed).records.map (·.body), rfl, ?_, ?_⟩
  · simp [records, rows]
  · intro index row placed
    rw [rows, List.getElem?_map] at placed
    rcases Option.map_eq_some_iff.mp placed with ⟨entry, there, rfl⟩
    rcases row_of_mem (List.mem_of_getElem? there) with ⟨_, cells, found, made⟩
    refine ⟨cells, found, entry.2, made, ?_⟩
    rw [List.getElem?_map, records, List.getElem?_map, there]
    rfl

end Extraction

theorem attributes_marked {sheet : Table} {rows : List RowPosition} {reply : BulkReply}
    {outcomes : List (RowPosition × Outcome)} (nodup : rows.Nodup)
    (reconciled : reconcile rows reply = .ok outcomes) :
    (sheet.marked (SheetRecord.statusColumn NewTransaction) (statusesOf outcomes)).Attributes rows
      reply := by
  have told := hasStatus_of_reconciled reconciled
  have nodupStatuses : ((statusesOf outcomes).map (·.1)).Nodup := by
    rw [map_fst_statusesOf told, reconciled_rows reconciled]
    exact nodup
  have cellOf : ∀ {index : Nat} {row : RowPosition} {outcome : Outcome} {status : String},
      outcomes[index]? = some (row, outcome) → outcome.statusText? = some status →
        (sheet.marked (SheetRecord.statusColumn NewTransaction) (statusesOf outcomes)).get row
          (SheetRecord.statusColumn NewTransaction) = .text status := by
    intro index row outcome status there text
    have member := List.mem_of_getElem? there
    rcases told _ member with ⟨_, same, visible⟩
    cases text.symm.trans same
    rw [Table.get_marked_of_mem _ _ nodupStatuses (mem_statusesOf.mpr ⟨outcome, member, text⟩),
      Cell.ofText_of_not_blank visible]
  constructor
  · intro index row placed complaint member named
    rcases reconciled_getElem? reconciled placed with ⟨outcome, there, complained, _⟩
    rw [complained complaint member named, complaintOutcome, Outcome.rejectedFor_eq] at there
    exact cellOf there rfl
  · intro index row placed unnamed
    rcases reconciled_getElem? reconciled placed with ⟨outcome, there, _, accepted⟩
    rw [accepted unnamed] at there
    exact cellOf there rfl

namespace Dispatcher

open Conversation Conversing

theorem outcomes_of_report (rows : List RowPosition)
    (result : Except Failure (List (RowPosition × Outcome) × Totals)) :
    (result.map fun decided =>
      (SyncReport.mk .bulk decided.1 (some decided.2)).withAlreadyProcessed rows).map
        (·.outcomes) =
      (result.map (·.1)).map fun outcomes =>
        ((SyncReport.mk .bulk outcomes none).withAlreadyProcessed rows).outcomes := by
  cases result <;> rfl

/-- Whatever a good answer to a bulk import says, each record goes out at the place of its row, each
row is told what was said about its place, and nothing else in the sheet changes. What the answer
counts has no part in any of this. -/
theorem dispatchBulk_attributes {σ : Type} (dispatcher : Dispatcher) {sink : StatusSink σ}
    {view : σ → Table} (into : sink.WritesInto view (SheetRecord.statusColumn NewTransaction))
    (skipProcessed : Bool) (workers : Nat) (before : Conversation σ) {body : String}
    {reply : BulkReply} {outcomes : List (RowPosition × Outcome)}
    (answered : before.answers.head? = some (.replied 200 body))
    (read : BulkReply.ofText? body = some reply)
    (reconciled : reconcile (extract NewTransaction (view before.store) skipProcessed).rows reply =
      .ok outcomes) :
    let extraction := extract NewTransaction (view before.store) skipProcessed
    ∃ result after request,
      dispatcher.dispatchBulk extraction workers sink before = (result, after) ∧
      requestsIn after.journal = requestsIn before.journal ++ [request] ∧
      request.Submits (view before.store) extraction.rows ∧
      (∀ report, result = .ok report → (view after.store).Attributes extraction.rows reply) ∧
      (∀ row column,
        row ∉ extraction.rows ∨ column ≠ SheetRecord.statusColumn NewTransaction →
          (view after.store).get row column = (view before.store).get row column) ∧
      (sink.Unfailing → ∃ report, result = .ok report) ∧
      ∀ otherBody otherReply (other : Conversation σ),
        other.answers.head? = some (.replied 200 otherBody) →
        BulkReply.ofText? otherBody = some otherReply →
        otherReply.complaints = reply.complaints → other.store = before.store →
          ∃ otherResult otherAfter,
            dispatcher.dispatchBulk extraction workers sink other = (otherResult, otherAfter) ∧
            requestsIn otherAfter.journal = requestsIn other.journal ++ [request] ∧
            otherAfter.store = after.store ∧
            otherResult.map (·.outcomes) = result.map (·.outcomes) := by
  intro extraction
  have decided := bulkVerdict_reconciled read reconciled
  rw [← Answer.next_of_head? answered] at decided
  rcases dispatcher.dispatchBulk_posted sink extraction workers before with
    ⟨events, result, after, ran, posted, _, adds⟩
  rcases posted.sheet into with ⟨torn, same, initial, whole⟩
  refine ⟨_, after, dispatcher.batch extraction.records workers, ran, ?_,
    Extraction.submits_batch dispatcher _ _ workers, ?_, ?_, ?_, ?_⟩
  · rw [adds.requests, posted.requests]
  · intro report returned
    rcases map_eq_ok_iff.mp returned with ⟨found, done, _⟩
    rcases whole found done with ⟨rfl, statuses, decidedAs⟩
    cases decided.symm.trans decidedAs
    rw [same, List.append_nil, statuses]
    exact attributes_marked (Extraction.rows_nodup _ _) reconciled
  · intro row column apart
    rw [same]
    exact Table.get_marked_other _ _
      (apart.imp_left fun notMember member => notMember (initial.subset member))
  · intro unfailing
    rw [posted.of_unfailing unfailing, decided]
    exact ⟨_, rfl⟩
  · intro otherBody otherReply other otherAnswered otherRead complaints stores
    have decidedOther := bulkVerdict_reconciled otherRead
      ((reconcile_congr _ complaints).trans reconciled)
    rw [← Answer.next_of_head? otherAnswered] at decidedOther
    rcases dispatcher.dispatchBulk_posted sink extraction workers other with
      ⟨_, otherResult, otherAfter, otherRan, otherPosted, _, otherAdds⟩
    rw [stores] at otherPosted
    rcases otherPosted.unique decidedOther posted decided with ⟨_, sameOutcomes, sameStore⟩
    refine ⟨_, otherAfter, otherRan, ?_, sameStore, ?_⟩
    · rw [otherAdds.requests, otherPosted.requests]
    · rw [outcomes_of_report, outcomes_of_report, sameOutcomes]

/-- Rows that make no record and rows already accepted stand between the ones that are sent. -/
def sparseSheet : Table where
  name := "Transactions"
  rows := [
    [.text "Amount", .text "Category"],
    [.text "12.5", .text "food", .empty, .text "2024-05-01", .text " OK"],
    [.text "0"],
    [.text "3", .text "rent", .text "May", .text "soon"],
    [],
    [.text "1e3", .text "car", .empty, .text "2024-05-02", .text "old"]]

theorem dispatchBulk_attributes_sparse :
    ∃ result after request,
      sample.dispatchBulk (extract NewTransaction sparseSheet true) 4 (.intoTable 4)
          ⟨[.replied 200 "\x7b\"accepted\":7,\"errors\":[\x7b\"index\":1,\"error\":\" \"\x7d]\x7d"],
            [], sparseSheet⟩ = (result, after) ∧
      requestsIn after.journal = [request] ∧ request.Submits sparseSheet [⟨3⟩, ⟨5⟩] ∧
      after.store.get ⟨1⟩ 4 = .text " OK" ∧ after.store.get ⟨3⟩ 4 = .text "OK" ∧
      after.store.get ⟨5⟩ 4 = .text "rejected by gateway (item 1)" := by
  have rows : (extract NewTransaction sparseSheet true).rows = [⟨3⟩, ⟨5⟩] := by decide +kernel
  have reconciled : reconcile (extract NewTransaction sparseSheet true).rows ⟨7, 0, [⟨1, " "⟩]⟩ =
      .ok [(⟨3⟩, .accepted), (⟨5⟩, .rejected "rejected by gateway (item 1)")] := by
    rw [rows]
    rfl
  rcases dispatchBulk_attributes sample (StatusSink.intoTable_writesInto 4) true 4
      ⟨[.replied 200 "\x7b\"accepted\":7,\"errors\":[\x7b\"index\":1,\"error\":\" \"\x7d]\x7d"], [],
        sparseSheet⟩ rfl (by decide +kernel) reconciled with
    ⟨result, after, request, ran, requests, submits, told, other, returns, _⟩
  rcases returns (StatusSink.intoTable_unfailing 4) with ⟨report, returned⟩
  have attributes := told report returned
  change request.Submits sparseSheet (extract NewTransaction sparseSheet true).rows at submits
  change after.store.Attributes (extract NewTransaction sparseSheet true).rows _ at attributes
  rw [rows] at submits attributes
  refine ⟨result, after, request, ran, requests, submits, ?_, ?_, ?_⟩
  · refine other ⟨1⟩ 4 (.inl ?_)
    change ⟨1⟩ ∉ (extract NewTransaction sparseSheet true).rows
    rw [rows]
    decide
  · exact attributes.unnamed 0 ⟨3⟩ rfl (by decide)
  · exact attributes.complained 1 ⟨5⟩ rfl ⟨1, " "⟩ (by decide) rfl

end Dispatcher

end SheetPost
