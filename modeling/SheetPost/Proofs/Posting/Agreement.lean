import SheetPost.Proofs.Posting.Attribution
import SheetPost.Proofs.Posting.Rounds

namespace SheetPost

def Outcome.ofObjection : Option String → Outcome
  | some reason => rejected reason
  | none => accepted

inductive Answer.Tells : Option String → Answer → Prop
  | taken (body : String) : Tells none (.replied 201 body)
  | refused {status : Nat} (reason : String) (other : status ≠ 201) :
      Tells (some reason) (.replied status reason)

/-- The complaints of a reply, in whatever order, name each record that is objected to once, with
the reason, and no other. -/
structure BulkReply.Tells (reply : BulkReply) (objections : List (Option String)) : Prop where
  named : ∀ complaint, complaint ∈ reply.complaints ↔
    ∃ place : Nat, complaint.index = place ∧ objections[place]? = some (some complaint.reason)
  once : (reply.complaints.map (·.index)).Nodup

def assigned (rows : List RowPosition) (objections : List (Option String)) :
    List (RowPosition × Outcome) :=
  rows.zip (objections.map Outcome.ofObjection)

section Assigned

variable {rows : List RowPosition} {objections : List (Option String)}
variable {outcomes : List (RowPosition × Outcome)}

theorem assigned_getElem? {index : Nat} {row : RowPosition} {objection : Option String}
    (placed : rows[index]? = some row) (objected : objections[index]? = some objection) :
    (assigned rows objections)[index]? = some (row, .ofObjection objection) := by
  apply List.getElem?_zip_eq_some.mpr
  simp [placed, objected]

theorem eq_assigned (lengths : objections.length = rows.length)
    (same : outcomes.map (·.1) = rows)
    (told : ∀ (index : Nat) row objection, rows[index]? = some row →
      objections[index]? = some objection →
        outcomes[index]? = some (row, Outcome.ofObjection objection)) :
    outcomes = assigned rows objections := by
  have count : outcomes.length = rows.length := by
    rw [← same, List.length_map]
  have countAssigned : (assigned rows objections).length = rows.length := by
    simp [assigned, lengths]
  apply List.ext_getElem?
  intro index
  by_cases inside : index < rows.length
  · have placed := List.getElem?_eq_getElem inside
    have objected := List.getElem?_eq_getElem (lengths ▸ inside)
    rw [told index _ _ placed objected, assigned_getElem? placed objected]
  · rw [List.getElem?_eq_none (by omega), List.getElem?_eq_none (by omega)]

end Assigned

/-! ## In one request -/

theorem BulkReply.Tells.consistent {reply : BulkReply} {objections : List (Option String)}
    (tells : reply.Tells objections) : reply.Consistent objections.length := by
  refine ⟨fun complaint member => ?_, tells.once⟩
  rcases (tells.named complaint).mp member with ⟨place, same, objected⟩
  have inside := (List.getElem?_eq_some_iff.mp objected).1
  omega

theorem reconcile_of_tells {rows : List RowPosition} {reply : BulkReply}
    {objections : List (Option String)} (lengths : objections.length = rows.length)
    (visible : ∀ reason, some reason ∈ objections → blank reason = false)
    (tells : reply.Tells objections) :
    reconcile rows reply = .ok (assigned rows objections) := by
  rcases reconciled_iff.mpr (lengths ▸ tells.consistent) with ⟨outcomes, reconciled⟩
  rw [reconciled]
  refine congrArg Except.ok (eq_assigned lengths (reconciled_rows reconciled) ?_)
  intro index row objection placed objected
  rcases reconciled_getElem? reconciled placed with ⟨outcome, there, complained, unnamed⟩
  rw [there]
  cases objection with
  | some reason =>
      have member : ⟨index, reason⟩ ∈ reply.complaints :=
        (tells.named _).mpr ⟨index, rfl, objected⟩
      have seen := visible reason (List.mem_of_getElem? objected)
      rw [complained _ member rfl, complaintOutcome, Outcome.rejectedFor, seen]
      rfl
  | none =>
      rw [unnamed]
      · rfl
      · -- A complaint about this place would tell of an objection.
        intro complaint member named
        rcases (tells.named complaint).mp member with ⟨place, same, objectedThere⟩
        have placeIs : place = index := by omega
        subst placeIs
        cases objected.symm.trans objectedThere

namespace Dispatcher

open Conversation Conversing

variable {σ : Type}

/-! ## One by one -/

theorem verdict_of_tells (record : NewTransaction) {objection : Option String} {answer : Answer}
    (visible : ∀ reason, objection = some reason → blank reason = false)
    (tells : answer.Tells objection) : verdict record answer = .ok (.ofObjection objection) := by
  cases tells with
  | taken body => rfl
  | @refused status reason other =>
      have refused : (SheetRecord.create record).succeeds status = false := by
        simpa [SheetRecord.create, Operation.succeeds, Operation.successStatuses] using other
      have seen := visible reason rfl
      simp [verdict, Client.classify, outcomeOfResult, refused, Outcome.rejectedFor, seen,
        Outcome.ofObjection]

section Told

variable {dispatcher : Dispatcher} {sink : StatusSink σ} {answers left : List Answer}
variable {entries : List (RowPosition × NewTransaction)} {objections : List (Option String)}
variable {store after : σ} {events : List Event}
variable {result : Except Failure (List (RowPosition × Outcome))}

theorem RowsPosted.of_tells (unfailing : sink.Unfailing)
    (lengths : objections.length = entries.length)
    (visible : ∀ reason, some reason ∈ objections → blank reason = false)
    (tells : ∀ (index : Nat) objection, objections[index]? = some objection →
      (Answer.nth answers index).Tells objection)
    (posted : dispatcher.RowsPosted sink entries answers store events result left after) :
    result = .ok (assigned (entries.map (·.1)) objections) := by
  rcases posted.of_unfailing unfailing with ⟨⟨outcomes, returned⟩, _⟩ |
    ⟨index, status, reason, inside, brokenOff, _⟩
  · rw [returned]
    refine congrArg Except.ok (eq_assigned (by simpa using lengths) (posted.of_ok returned).1 ?_)
    intro index row objection placed objected
    rw [List.getElem?_map] at placed
    rcases Option.map_eq_some_iff.mp placed with ⟨entry, there, rfl⟩
    rcases posted.outcome_at returned there with ⟨outcome, same, decided⟩
    have seen : ∀ reason, objection = some reason → blank reason = false :=
      fun reason same => visible reason (same ▸ List.mem_of_getElem? objected)
    have told := verdict_of_tells entry.2 seen (tells index objection objected)
    cases decided.symm.trans told
    exact same
  · have told := tells index _ (List.getElem?_eq_getElem (lengths ▸ inside))
    rw [brokenOff] at told
    generalize objections[index] = objection at told
    cases told

end Told

/-! ## Both -/

/-- Where they are told of the same objections, the two ways of posting return the same outcomes and
leave the same sheet, and what the one sends as a list the other sends item by item. -/
theorem dispatchBulk_agrees_dispatchEach (dispatcher : Dispatcher) {sink : StatusSink σ}
    {view : σ → Table} (unfailing : sink.Unfailing)
    (into : sink.WritesInto view (SheetRecord.statusColumn NewTransaction)) (skipProcessed : Bool)
    (workers : Nat) (before beforeEach : Conversation σ)
    (sheets : view beforeEach.store = view before.store) {objections : List (Option String)}
    (lengths : objections.length =
      (extract NewTransaction (view before.store) skipProcessed).entries.length)
    (visible : ∀ reason, some reason ∈ objections → blank reason = false)
    {body : String} {reply : BulkReply}
    (answered : before.answers.head? = some (.replied 200 body))
    (read : BulkReply.ofText? body = some reply) (tells : reply.Tells objections)
    (tellsEach : ∀ (index : Nat) objection, objections[index]? = some objection →
      (Answer.nth beforeEach.answers index).Tells objection) :
    let extraction := extract NewTransaction (view before.store) skipProcessed
    ∃ report after reportEach afterEach,
      dispatcher.dispatchBulk extraction workers sink before = (.ok report, after) ∧
      dispatcher.dispatchEach extraction sink beforeEach = (.ok reportEach, afterEach) ∧
      view after.store = view afterEach.store ∧
      report.outcomes = reportEach.outcomes ∧
      (∀ (index : Nat) row objection, extraction.rows[index]? = some row →
        objections[index]? = some objection →
          (row, Outcome.ofObjection objection) ∈ report.outcomes) ∧
      ∃ request requests bodies,
        requestsIn after.journal = requestsIn before.journal ++ [request] ∧
        requestsIn afterEach.journal = requestsIn beforeEach.journal ++ requests ∧
        request.body = some (.list bodies) ∧ requests.map (·.body) = bodies.map some := by
  intro extraction
  rcases dispatcher.dispatchBulk_posted sink extraction workers before with
    ⟨events, result, after, ran, posted, _, adds⟩
  rcases dispatcher.dispatchEach_posted sink extraction beforeEach with
    ⟨eventsEach, resultEach, afterEach, ranEach, postedEach, addsEach⟩
  have rows : objections.length = extraction.rows.length := by
    simpa [Extraction.rows] using lengths
  have decided := bulkVerdict_reconciled read (reconcile_of_tells rows visible tells)
  rw [← Answer.next_of_head? answered, ← posted.of_unfailing unfailing] at decided
  have decidedEach : resultEach = .ok (assigned extraction.rows objections) :=
    postedEach.of_tells unfailing lengths visible tellsEach
  subst decided decidedEach
  refine ⟨_, after, _, afterEach, ran, ranEach, ?_, rfl, ?_,
    dispatcher.batch extraction.records workers,
    extraction.entries.map fun entry => dispatcher.creation entry.2,
    extraction.records.map (·.body), ?_, ?_, rfl, ?_⟩
  · rw [posted.marked into rfl, postedEach.marked into rfl, sheets]
  · intro index row objection placed objected
    apply SyncReport.mem_withAlreadyProcessed.mpr (.inl _)
    exact List.mem_of_getElem? (assigned_getElem? placed objected)
  · rw [adds.requests, posted.requests]
  · rw [addsEach.requests, (postedEach.of_ok rfl).2.2.1]
  · rw [Extraction.records, List.map_map, List.map_map, List.map_map]
    rfl

theorem dispatchBulk_agrees_dispatchEach_permuted :
    let extraction := extract NewTransaction sparseSheet false
    let errors :=
      "[\x7b\"index\":2,\"error\":\"bad date\"\x7d,\x7b\"index\":0,\"error\":\"twice\"\x7d]"
    ∃ report after reportEach afterEach,
      sample.dispatchBulk extraction 4 (.intoTable 4)
        ⟨[.replied 200 ("\x7b\"errors\":" ++ errors ++ "\x7d")], [], sparseSheet⟩ =
          (.ok report, after) ∧
      sample.dispatchEach extraction (.intoTable 4)
        ⟨[.replied 409 "twice", .replied 201 "", .replied 500 "bad date"], [], sparseSheet⟩ =
          (.ok reportEach, afterEach) ∧
      after.store = afterEach.store ∧ report.outcomes = reportEach.outcomes ∧
      (⟨1⟩, .rejected "twice") ∈ report.outcomes ∧ (⟨3⟩, .accepted) ∈ report.outcomes ∧
      (⟨5⟩, .rejected "bad date") ∈ report.outcomes := by
  intro extraction errors
  let objections : List (Option String) := [some "twice", none, some "bad date"]
  have rows : extraction.rows = [⟨1⟩, ⟨3⟩, ⟨5⟩] := by decide +kernel
  have lengths : objections.length = extraction.entries.length :=
    (congrArg List.length rows).symm.trans (List.length_map _)
  have read : BulkReply.ofText? ("\x7b\"errors\":" ++ errors ++ "\x7d") =
      some ⟨0, 0, [⟨2, "bad date"⟩, ⟨0, "twice"⟩]⟩ := by
    decide +kernel
  have visible : ∀ reason, some reason ∈ objections → blank reason = false := by
    intro reason member
    simp only [objections, List.mem_cons, List.not_mem_nil, Option.some.injEq] at member
    rcases member with rfl | impossible | rfl | impossible
    · decide
    · cases impossible
    · decide
    · cases impossible
  have tells : (⟨0, 0, [⟨2, "bad date"⟩, ⟨0, "twice"⟩]⟩ : BulkReply).Tells objections := by
    refine ⟨fun complaint => ⟨?_, ?_⟩, by decide⟩
    · intro member
      simp only [List.mem_cons, List.not_mem_nil, or_false] at member
      rcases member with rfl | rfl
      · exact ⟨2, rfl, rfl⟩
      · exact ⟨0, rfl, rfl⟩
    · rcases complaint with ⟨index, reason⟩
      rintro ⟨place, same, objected⟩
      cases same
      rcases place with _ | _ | _ | place <;> cases objected
      · exact List.mem_cons_of_mem _ List.mem_cons_self
      · exact List.mem_cons_self
  have tellsEach : ∀ (index : Nat) objection, objections[index]? = some objection →
      (Answer.nth [.replied 409 "twice", .replied 201 "", .replied 500 "bad date"] index).Tells
        objection := by
    intro index objection placed
    rcases index with _ | _ | _ | index <;> cases placed
    · exact .refused "twice" (by decide)
    · exact .taken ""
    · exact .refused "bad date" (by decide)
  rcases dispatchBulk_agrees_dispatchEach sample (StatusSink.intoTable_unfailing 4)
    (StatusSink.intoTable_writesInto 4) false 4
    ⟨[.replied 200 ("\x7b\"errors\":" ++ errors ++ "\x7d")], [], sparseSheet⟩
    ⟨[.replied 409 "twice", .replied 201 "", .replied 500 "bad date"], [], sparseSheet⟩ rfl lengths
    visible rfl read tells tellsEach with
    ⟨report, after, reportEach, afterEach, ran, ranEach, stores, outcomes, told, _⟩
  refine ⟨report, after, reportEach, afterEach, ran, ranEach, stores, outcomes, ?_, ?_, ?_⟩
  · exact told 0 ⟨1⟩ _ (congrArg (·[0]?) rows) rfl
  · exact told 1 ⟨3⟩ _ (congrArg (·[1]?) rows) rfl
  · exact told 2 ⟨5⟩ _ (congrArg (·[2]?) rows) rfl

end Dispatcher

end SheetPost
