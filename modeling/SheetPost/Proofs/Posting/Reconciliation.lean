import SheetPost.Posting.Reconciliation
import SheetPost.Proofs.Posting.Status

namespace SheetPost

theorem addComplaint_ok {submitted : Nat} {reasons taken : Reasons} {complaint : BulkComplaint}
    (added : addComplaint submitted reasons complaint = .ok taken) :
    ∃ index : Nat, complaint.index = index ∧ index < submitted ∧ reasons.lookup index = none ∧
      taken = (index, complaint.reason) :: reasons := by
  unfold addComplaint at added
  split at added
  · cases added
  · next inside =>
      simp only at added
      split at added
      · cases added
      · next fresh =>
          cases added
          refine ⟨complaint.index.toNat, by omega, by omega, ?_, rfl⟩
          exact Option.not_isSome_iff_eq_none.mp fresh

/-- The invariant of gathering: a place has a reason exactly if it had one at the start or a
complaint names it. -/
theorem lookup_gathered {submitted : Nat} {reasons gathered : Reasons}
    {complaints : List BulkComplaint}
    (ran : complaints.foldlM (addComplaint submitted) reasons = .ok gathered)
    (index : Nat) (reason : String) :
    gathered.lookup index = some reason ↔
      reasons.lookup index = some reason ∨ ⟨index, reason⟩ ∈ complaints := by
  induction complaints generalizing reasons with
  | nil =>
      cases ran
      simp
  | cons complaint complaints induction =>
      rw [List.foldlM_cons] at ran
      cases first : addComplaint submitted reasons complaint with
      | error violation =>
          rw [first] at ran
          cases ran
      | ok taken =>
          rw [first] at ran
          rcases addComplaint_ok first with ⟨place, named, _, fresh, rfl⟩
          rw [induction ran, List.lookup_cons, List.mem_cons]
          rcases complaint with ⟨found, complained⟩
          subst named
          by_cases same : index = place
          · subst same
            simp [fresh, eq_comm]
          · have apart : (index == place) = false := beq_false_of_ne same
            have other : (⟨index, reason⟩ : BulkComplaint) ≠ ⟨place, complained⟩ := fun equal =>
              same (Int.ofNat_inj.mp (congrArg (·.index) equal))
            simp [apart, other]

theorem reconcile_ok {rows : List RowPosition} {reply : BulkReply}
    {outcomes : List (RowPosition × Outcome)} (ran : reconcile rows reply = .ok outcomes) :
    ∃ reasons, gatherReasons rows.length reply.complaints = .ok reasons ∧
      outcomes = rows.zipIdx.map fun entry => (entry.1, outcomeAt reasons entry.2) := by
  unfold reconcile at ran
  cases gathered : gatherReasons rows.length reply.complaints with
  | error violation =>
      rw [gathered] at ran
      cases ran
  | ok reasons =>
      rw [gathered] at ran
      cases ran
      exact ⟨reasons, rfl, rfl⟩

/-- Each complaint names a place of the batch, and no place is named twice. -/
structure BulkReply.Consistent (reply : BulkReply) (submitted : Nat) : Prop where
  inside : ∀ complaint ∈ reply.complaints, 0 ≤ complaint.index ∧ complaint.index < submitted
  once : (reply.complaints.map (·.index)).Nodup

theorem addComplaint_inside {submitted : Nat} {reasons : Reasons} {complaint : BulkComplaint}
    (inside : 0 ≤ complaint.index ∧ complaint.index < submitted)
    (fresh : reasons.lookup complaint.index.toNat = none) :
    addComplaint submitted reasons complaint =
      .ok ((complaint.index.toNat, complaint.reason) :: reasons) := by
  have notOutside : ¬(complaint.index < 0 ∨ (submitted : Int) ≤ complaint.index) := by omega
  simp [addComplaint, notOutside, fresh]

theorem gathered_iff {submitted : Nat} {reasons : Reasons} {complaints : List BulkComplaint} :
    (∃ gathered, complaints.foldlM (addComplaint submitted) reasons = .ok gathered) ↔
      (∀ complaint ∈ complaints, (0 ≤ complaint.index ∧ complaint.index < submitted) ∧
        reasons.lookup complaint.index.toNat = none) ∧
      (complaints.map (·.index)).Nodup := by
  induction complaints generalizing reasons with
  | nil => simp [pure, Except.pure]
  | cons complaint complaints induction =>
      rw [List.foldlM_cons, List.forall_mem_cons, List.map_cons, List.nodup_cons]
      constructor
      · rintro ⟨gathered, ran⟩
        cases first : addComplaint submitted reasons complaint with
        | error violation =>
            rw [first] at ran
            cases ran
        | ok taken =>
            rw [first] at ran
            rcases addComplaint_ok first with ⟨place, named, inside, fresh, rfl⟩
            rcases induction.mp ⟨gathered, ran⟩ with ⟨later, once⟩
            refine ⟨⟨⟨⟨by omega, by omega⟩, by rw [named]; exact fresh⟩, ?_⟩, ?_, once⟩
            · intro other member
              have free := (later other member).2
              rw [List.lookup_cons] at free
              refine ⟨(later other member).1, ?_⟩
              split at free
              · cases free
              · exact free
            · intro again
              rcases List.mem_map.mp again with ⟨other, member, same⟩
              have free := (later other member).2
              rw [same, named] at free
              simp at free
      · rintro ⟨⟨⟨inside, fresh⟩, later⟩, apart, once⟩
        rw [addComplaint_inside inside fresh]
        apply induction.mpr
        refine ⟨fun other member => ⟨(later other member).1, ?_⟩, once⟩
        -- The places of later complaints are still free once this one is taken.
        have different : other.index.toNat ≠ complaint.index.toNat := by
          intro equal
          have otherInside := (later other member).1
          have same : other.index = complaint.index := by omega
          exact apart (same ▸ List.mem_map_of_mem member)
        rw [List.lookup_cons, beq_false_of_ne different]
        exact (later other member).2

theorem reconciled_iff {rows : List RowPosition} {reply : BulkReply} :
    (∃ outcomes, reconcile rows reply = .ok outcomes) ↔ reply.Consistent rows.length := by
  have gathers : (∃ outcomes, reconcile rows reply = .ok outcomes) ↔
      ∃ reasons, gatherReasons rows.length reply.complaints = .ok reasons := by
    constructor
    · rintro ⟨outcomes, ran⟩
      rcases reconcile_ok ran with ⟨reasons, gathered, _⟩
      exact ⟨reasons, gathered⟩
    · rintro ⟨reasons, gathered⟩
      rw [reconcile, gathered]
      exact ⟨_, rfl⟩
  rw [gathers, gatherReasons, gathered_iff]
  constructor
  · rintro ⟨inside, once⟩
    exact ⟨fun complaint member => (inside complaint member).1, once⟩
  · rintro ⟨inside, once⟩
    exact ⟨fun complaint member => ⟨inside complaint member, rfl⟩, once⟩

theorem reconcile_congr (rows : List RowPosition) {reply other : BulkReply}
    (same : reply.complaints = other.complaints) : reconcile rows reply = reconcile rows other := by
  rw [reconcile, reconcile, same]

def complaintOutcome (index : Nat) (reason : String) : Outcome :=
  .rejectedFor reason ("rejected by gateway (item " ++ integerText index ++ ")")

section Reconciled

variable {rows : List RowPosition} {reply : BulkReply} {outcomes : List (RowPosition × Outcome)}

theorem reconciled_rows (ran : reconcile rows reply = .ok outcomes) :
    outcomes.map (·.1) = rows := by
  rcases reconcile_ok ran with ⟨reasons, _, rfl⟩
  rw [List.map_map]
  exact List.zipIdx_map_fst 0 rows

theorem reconciled_getElem? (ran : reconcile rows reply = .ok outcomes) {index : Nat}
    {row : RowPosition} (placed : rows[index]? = some row) :
    ∃ outcome, outcomes[index]? = some (row, outcome) ∧
      (∀ complaint ∈ reply.complaints, complaint.index = index →
        outcome = complaintOutcome index complaint.reason) ∧
      ((∀ complaint ∈ reply.complaints, complaint.index ≠ index) → outcome = .accepted) := by
  rcases reconcile_ok ran with ⟨reasons, gathered, rfl⟩
  have reasonOf := lookup_gathered gathered index
  refine ⟨outcomeAt reasons index, ?_, ?_, ?_⟩
  · rw [List.getElem?_map, List.getElem?_zipIdx, placed]
    simp
  · rintro ⟨place, reason⟩ member rfl
    rw [outcomeAt, (reasonOf reason).mpr (.inr member)]
    rfl
  · intro unnamed
    have free : reasons.lookup index = none := by
      cases found : reasons.lookup index with
      | none => rfl
      | some reason =>
          rcases (reasonOf reason).mp found with impossible | member
          · cases impossible
          · exact absurd rfl (unnamed _ member)
    rw [outcomeAt, free]

theorem hasStatus_of_reconciled (ran : reconcile rows reply = .ok outcomes) :
    ∀ entry ∈ outcomes, entry.2.HasStatus := by
  rcases reconcile_ok ran with ⟨reasons, _, rfl⟩
  intro entry member
  rcases List.mem_map.mp member with ⟨place, _, rfl⟩
  change (outcomeAt reasons place.2).HasStatus
  unfold outcomeAt
  split
  · apply Outcome.hasStatus_rejectedFor
    rw [blank_append, blank_append]
    rfl
  · exact Outcome.hasStatus_accepted

end Reconciled

end SheetPost
