import SheetPost.Posting.Dispatch
import SheetPost.Proofs.Posting.Reconciliation

namespace SheetPost

def itemFallback (index : Nat) : String :=
  "rejected by gateway (item " ++ integerText index ++ ")"

theorem itemFallback_visible (index : Nat) : blank (itemFallback index) = false := by
  have front : blank "rejected by gateway (item " = false := by decide +kernel
  unfold itemFallback
  rw [blank_append, blank_append, front]
  rfl

namespace BulkReply

/-- What the complaints say about the record at a place of the batch. -/
structure Judges (reply : BulkReply) (index : Nat) (outcome : Outcome) : Prop where
  reasoned : ∀ complaint ∈ reply.complaints, complaint.index = index →
    blank complaint.reason = false → outcome = .rejected complaint.reason
  unreasoned : ∀ complaint ∈ reply.complaints, complaint.index = index →
    blank complaint.reason = true → outcome = .rejected (itemFallback index)
  unnamed : (∀ complaint ∈ reply.complaints, complaint.index ≠ index) → outcome = .accepted

variable {reply other : BulkReply} {index : Nat} {outcome : Outcome}

theorem named_or_unnamed (reply : BulkReply) (index : Nat) :
    (∃ complaint ∈ reply.complaints, complaint.index = index) ∨
      ∀ complaint ∈ reply.complaints, complaint.index ≠ index := by
  by_cases named : ∃ complaint ∈ reply.complaints, complaint.index = index
  · exact .inl named
  · exact .inr fun complaint member same => named ⟨complaint, member, same⟩

theorem Judges.unique {second : Outcome} (judges : reply.Judges index outcome)
    (judgesToo : reply.Judges index second) : outcome = second := by
  rcases reply.named_or_unnamed index with ⟨complaint, member, about⟩ | unnamed
  · cases reason : blank complaint.reason with
    | false =>
        rw [judges.reasoned complaint member about reason,
          judgesToo.reasoned complaint member about reason]
    | true =>
        rw [judges.unreasoned complaint member about reason,
          judgesToo.unreasoned complaint member about reason]
  · rw [judges.unnamed unnamed, judgesToo.unnamed unnamed]

theorem Judges.permute (permuted : other.complaints.Perm reply.complaints)
    (judges : reply.Judges index outcome) : other.Judges index outcome where
  reasoned complaint member := judges.reasoned complaint (permuted.mem_iff.mp member)
  unreasoned complaint member := judges.unreasoned complaint (permuted.mem_iff.mp member)
  unnamed none := judges.unnamed fun complaint member =>
    none complaint (permuted.mem_iff.mpr member)

theorem Judges.isRejected_iff (judges : reply.Judges index outcome) :
    outcome.isRejected = true ↔ (index : Int) ∈ reply.complaints.map (·.index) := by
  rw [List.mem_map]
  rcases reply.named_or_unnamed index with ⟨complaint, member, about⟩ | unnamed
  · have rejected : outcome.isRejected = true := by
      cases reason : blank complaint.reason with
      | false => rw [judges.reasoned complaint member about reason]; rfl
      | true => rw [judges.unreasoned complaint member about reason]; rfl
    exact iff_of_true rejected ⟨complaint, member, about⟩
  · rw [judges.unnamed unnamed]
    exact iff_of_false Bool.false_ne_true fun ⟨complaint, member, about⟩ =>
      unnamed complaint member about

theorem Consistent.permute {submitted : Nat}
    (permuted : other.complaints.Perm reply.complaints) (consistent : reply.Consistent submitted) :
    other.Consistent submitted where
  inside complaint member := consistent.inside complaint (permuted.mem_iff.mp member)
  once := (permuted.map (·.index)).nodup_iff.mpr consistent.once

theorem Consistent.count_named {submitted : Nat} (consistent : reply.Consistent submitted) :
    (List.range submitted).countP (fun index : Nat =>
      (index : Int) ∈ reply.complaints.map (·.index)) = reply.complaints.length := by
  have listed : (((List.range submitted).filter fun index : Nat =>
      (index : Int) ∈ reply.complaints.map (·.index)).map Int.ofNat).Perm
        (reply.complaints.map (·.index)) := by
    refine (List.perm_ext_iff_of_nodup ?_ consistent.once).mpr fun place => ?_
    · exact List.Pairwise.map _ (fun _ _ apart same => apart (Int.ofNat.inj same))
        (List.nodup_range.filter _)
    · rw [List.mem_map]
      constructor
      · rintro ⟨index, member, rfl⟩
        exact of_decide_eq_true (List.mem_filter.mp member).2
      · intro named
        rcases List.mem_map.mp named with ⟨complaint, member, rfl⟩
        have inside := consistent.inside complaint member
        have natural : Int.ofNat complaint.index.toNat = complaint.index :=
          Int.toNat_of_nonneg inside.1
        refine ⟨complaint.index.toNat, List.mem_filter.mpr ⟨?_, decide_eq_true ?_⟩, natural⟩
        · exact List.mem_range.mpr (by omega)
        · exact natural.symm ▸ named
  rw [List.countP_eq_length_filter, ← List.length_map Int.ofNat, listed.length_eq, List.length_map]

end BulkReply

section Reconciled

variable {rows : List RowPosition} {reply : BulkReply} {outcomes : List (RowPosition × Outcome)}

theorem judges_complaintOutcome {index : Nat} {outcome : Outcome}
    (named : ∀ complaint ∈ reply.complaints, complaint.index = index →
      outcome = complaintOutcome index complaint.reason)
    (unnamed : (∀ complaint ∈ reply.complaints, complaint.index ≠ index) → outcome = .accepted) :
    reply.Judges index outcome where
  reasoned complaint member about visible := by
    rw [named complaint member about, complaintOutcome, Outcome.rejectedFor_eq, visible]
    rfl
  unreasoned complaint member about isBlank := by
    rw [named complaint member about, complaintOutcome, Outcome.rejectedFor_eq, isBlank]
    rfl
  unnamed := unnamed

theorem reconciled_judges (ran : reconcile rows reply = .ok outcomes) {index : Nat}
    {row : RowPosition} (placed : rows[index]? = some row) :
    ∃ outcome, outcomes[index]? = some (row, outcome) ∧ reply.Judges index outcome := by
  rcases reconciled_getElem? ran placed with ⟨outcome, there, named, unnamed⟩
  exact ⟨outcome, there, judges_complaintOutcome named unnamed⟩

theorem length_reconciled (ran : reconcile rows reply = .ok outcomes) :
    outcomes.length = rows.length := by
  rw [← reconciled_rows ran, List.length_map]

theorem reconciled_unique {other : BulkReply} {outcomesOther : List (RowPosition × Outcome)}
    (permuted : other.complaints.Perm reply.complaints)
    (ran : reconcile rows reply = .ok outcomes)
    (ranOther : reconcile rows other = .ok outcomesOther) : outcomesOther = outcomes := by
  apply List.ext_getElem?
  intro index
  cases placed : rows[index]? with
  | none =>
      have outside : rows.length ≤ index := List.getElem?_eq_none_iff.mp placed
      have size := length_reconciled ran
      have sizeOther := length_reconciled ranOther
      rw [List.getElem?_eq_none (by omega), List.getElem?_eq_none (by omega)]
  | some row =>
      rcases reconciled_judges ran placed with ⟨outcome, there, judges⟩
      rcases reconciled_judges ranOther placed with ⟨outcomeOther, thereOther, judgesOther⟩
      rw [there, thereOther, judgesOther.unique (judges.permute permuted)]

theorem reconcile_permuted {other : BulkReply}
    (permuted : other.complaints.Perm reply.complaints) :
    (reconcile rows other).toOption = (reconcile rows reply).toOption := by
  cases ran : reconcile rows reply with
  | ok outcomes =>
      have consistent := reconciled_iff.mp ⟨outcomes, ran⟩
      rcases reconciled_iff.mpr (consistent.permute permuted) with ⟨outcomesOther, ranOther⟩
      rw [ranOther, reconciled_unique permuted ran ranOther]
  | error violation =>
      cases ranOther : reconcile rows other with
      | error violationOther => rfl
      | ok outcomesOther =>
          have consistent := reconciled_iff.mp ⟨outcomesOther, ranOther⟩
          rcases reconciled_iff.mpr (consistent.permute permuted.symm) with ⟨outcomes, ranToo⟩
          cases ran.symm.trans ranToo

theorem count_rejected (ran : reconcile rows reply = .ok outcomes) :
    outcomes.countP (·.2.isRejected) = reply.complaints.length := by
  have decided : ∀ index (inside : index < outcomes.length),
      outcomes[index].2.isRejected =
        decide ((index : Int) ∈ reply.complaints.map (·.index)) := by
    intro index inside
    have placed := List.getElem?_eq_getElem (length_reconciled ran ▸ inside)
    rcases reconciled_judges ran placed with ⟨outcome, there, judges⟩
    have same := (List.getElem?_eq_getElem inside).symm.trans there
    rw [Option.some.inj same, Bool.eq_iff_iff, decide_eq_true_iff]
    exact judges.isRejected_iff
  have verdicts : outcomes.map (·.2.isRejected) = (List.range rows.length).map fun index : Nat =>
      decide ((index : Int) ∈ reply.complaints.map (·.index)) := by
    apply List.ext_getElem (by simp [length_reconciled ran])
    intro index inside _
    simpa using decided index (by simpa using inside)
  calc outcomes.countP (·.2.isRejected)
      = (outcomes.map (·.2.isRejected)).countP id := by rw [List.countP_map]; rfl
    _ = (List.range rows.length).countP fun index : Nat =>
          (index : Int) ∈ reply.complaints.map (·.index) := by rw [verdicts, List.countP_map]; rfl
    _ = reply.complaints.length := (reconciled_iff.mp ⟨outcomes, ran⟩).count_named

end Reconciled

/-- A reply is taken if and only if its complaints name places of the batch, each once; then there
is one outcome for each row in the order of the rows, decided by the complaint about its place, as
many of them rejections as there are complaints, and the order of the complaints has no part in it.
Any other reply is a violation of the protocol. -/
theorem reconcile_exact (rows : List RowPosition) (reply : BulkReply) :
    ((∃ outcomes, reconcile rows reply = .ok outcomes) ↔ reply.Consistent rows.length) ∧
      (¬reply.Consistent rows.length → ∃ violation, reconcile rows reply = .error violation ∧
        ∀ status body, BulkReply.ofText? body = some reply →
          Dispatcher.bulkOutcomes rows ⟨true, status, body⟩ =
            .error (.protocolViolation violation)) ∧
      (∀ outcomes, reconcile rows reply = .ok outcomes →
        outcomes.length = rows.length ∧ outcomes.map (·.1) = rows ∧
        (∀ index row, rows[index]? = some row →
          ∃ outcome, outcomes[index]? = some (row, outcome) ∧ reply.Judges index outcome) ∧
        outcomes.countP (·.2.isRejected) = reply.complaints.length) ∧
      (∀ index, blank (itemFallback index) = false) ∧
      ∀ other : BulkReply, other.complaints.Perm reply.complaints →
        (reconcile rows other).toOption = (reconcile rows reply).toOption := by
  refine ⟨reconciled_iff, fun inconsistent => ?_, fun outcomes ran => ?_, itemFallback_visible,
    fun other permuted => reconcile_permuted permuted⟩
  · cases ran : reconcile rows reply with
    | ok outcomes => exact absurd (reconciled_iff.mp ⟨outcomes, ran⟩) inconsistent
    | error violation =>
        refine ⟨violation, rfl, fun status body read => ?_⟩
        rw [Dispatcher.bulkOutcomes, if_pos rfl, read]
        dsimp only
        rw [ran]
  · exact ⟨length_reconciled ran, reconciled_rows ran,
      fun index row placed => reconciled_judges ran placed, count_rejected ran⟩

/-- Two complaints in descending order about a batch of three rows, one of them without a reason. -/
def twoComplaints : BulkReply :=
  ⟨0, 9, [⟨2, "limit reached"⟩, ⟨0, " "⟩]⟩

theorem reconcile_exact_descending :
    ∃ outcomes, reconcile [⟨1⟩, ⟨3⟩, ⟨4⟩] twoComplaints = .ok outcomes ∧
      outcomes[0]? = some (⟨1⟩, .rejected "rejected by gateway (item 0)") ∧
      outcomes[1]? = some (⟨3⟩, .accepted) ∧
      outcomes.countP (·.2.isRejected) = 2 ∧
      (reconcile [⟨1⟩, ⟨3⟩, ⟨4⟩] ⟨0, 9, [⟨0, " "⟩, ⟨2, "limit reached"⟩]⟩).toOption =
        some outcomes := by
  rcases reconcile_exact [⟨1⟩, ⟨3⟩, ⟨4⟩] twoComplaints with ⟨taken, _, exactly, _, permuted⟩
  have consistent : twoComplaints.Consistent 3 := ⟨by decide, by decide⟩
  rcases taken.mpr consistent with ⟨outcomes, ran⟩
  rcases exactly outcomes ran with ⟨_, _, placed, count⟩
  rcases placed 0 ⟨1⟩ rfl with ⟨first, isFirst, judgesFirst⟩
  rcases placed 1 ⟨3⟩ rfl with ⟨second, isSecond, judgesSecond⟩
  have swapped : ([⟨0, " "⟩, ⟨2, "limit reached"⟩] : List BulkComplaint).Perm
      twoComplaints.complaints := List.Perm.swap _ _ _
  refine ⟨outcomes, ran, ?_, ?_, count, ?_⟩
  · rw [isFirst, judgesFirst.unreasoned ⟨0, " "⟩ (by decide) rfl (by decide)]
    rfl
  · rw [isSecond, judgesSecond.unnamed (by decide)]
  · rw [permuted ⟨0, 9, [⟨0, " "⟩, ⟨2, "limit reached"⟩]⟩ swapped, ran]
    rfl

end SheetPost
