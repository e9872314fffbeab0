import SheetPost.Posting.Outcome
import SheetPost.Workbook.Cell

namespace SheetPost

theorem blank_append (first second : String) :
    blank (first ++ second) = (blank first && blank second) := by
  rw [blank, String.toList_append, List.all_append]
  rfl

namespace Cell

theorem ofText_of_not_blank {value : String} (visible : blank value = false) :
    ofText value = text value := by
  rw [ofText, if_neg]
  rintro rfl
  cases visible

end Cell

namespace Outcome

def HasStatus (outcome : Outcome) : Prop :=
  ∃ status, outcome.statusText? = some status ∧ blank status = false

theorem hasStatus_accepted : accepted.HasStatus :=
  ⟨okText, rfl, by decide⟩

theorem rejectedFor_eq (reason fallback : String) :
    rejectedFor reason fallback = rejected (if blank reason then fallback else reason) := by
  unfold rejectedFor
  split <;> rfl

theorem hasStatus_rejectedFor {fallback : String} (reason : String)
    (visible : blank fallback = false) : (rejectedFor reason fallback).HasStatus := by
  rw [rejectedFor_eq]
  refine ⟨_, rfl, ?_⟩
  split
  · exact visible
  · next seen => exact Bool.not_eq_true _ ▸ seen

end Outcome

def statusesOf (outcomes : List (RowPosition × Outcome)) : List (RowPosition × String) :=
  outcomes.filterMap fun entry => entry.2.statusText?.map fun status => (entry.1, status)

theorem mem_statusesOf {outcomes : List (RowPosition × Outcome)} {row : RowPosition}
    {status : String} :
    (row, status) ∈ statusesOf outcomes ↔
      ∃ outcome, (row, outcome) ∈ outcomes ∧ outcome.statusText? = some status := by
  rw [statusesOf, List.mem_filterMap]
  constructor
  · rintro ⟨⟨place, outcome⟩, member, same⟩
    rcases Option.map_eq_some_iff.mp same with ⟨_, told, equal⟩
    cases equal
    exact ⟨outcome, member, told⟩
  · rintro ⟨outcome, member, told⟩
    exact ⟨(row, outcome), member, by rw [told]; rfl⟩

theorem map_fst_statusesOf {outcomes : List (RowPosition × Outcome)}
    (told : ∀ entry ∈ outcomes, entry.2.HasStatus) :
    (statusesOf outcomes).map (·.1) = outcomes.map (·.1) := by
  induction outcomes with
  | nil => rfl
  | cons entry outcomes induction =>
      rcases List.forall_mem_cons.mp told with ⟨⟨status, text, _⟩, toldRest⟩
      rw [statusesOf, List.filterMap_cons, text, Option.map_some, List.map_cons, List.map_cons,
        ← induction toldRest, statusesOf]

namespace SyncReport

theorem mem_withAlreadyProcessed {report : SyncReport} {rows : List RowPosition}
    {entry : RowPosition × Outcome} :
    entry ∈ (report.withAlreadyProcessed rows).outcomes ↔
      entry ∈ report.outcomes ∨ ∃ row ∈ rows, (row, Outcome.alreadyProcessed) = entry := by
  rw [withAlreadyProcessed, List.mem_mergeSort, List.mem_append, List.mem_map]

end SyncReport

end SheetPost
