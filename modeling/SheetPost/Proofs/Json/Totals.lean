import Mathlib.Data.List.Sort
import Mathlib.Data.String.Basic
import SheetPost.Proofs.Json.Spelling
import SheetPost.Proofs.Results

namespace SheetPost.Reading

def Ascending (totals : List (String × Number)) : Prop :=
  totals.Pairwise fun first later => first.1 < later.1

theorem lookup_cons (entry : String × Number) (entries : List (String × Number)) (name : String) :
    (entry :: entries).lookup name =
      if name = entry.1 then some entry.2 else entries.lookup name := by
  by_cases found : name = entry.1
  · have test : (name == entry.1) = true := by simp [found]
    rw [List.lookup_cons, test, if_pos found]
  · have test : (name == entry.1) = false := by simp [found]
    rw [List.lookup_cons, test, if_neg found]

/-! ## Putting an entry in its place -/

theorem mem_putTotal {entry other : String × Number} {sorted : List (String × Number)}
    (member : other ∈ putTotal entry sorted) : other = entry ∨ other ∈ sorted := by
  induction sorted with
  | nil => exact .inl (List.mem_singleton.mp member)
  | cons head tail induction =>
      unfold putTotal at member
      split at member
      · rcases List.mem_cons.mp member with isEntry | inTail
        · exact .inl isEntry
        · exact .inr (List.mem_cons_of_mem _ inTail)
      split at member
      · exact List.mem_cons.mp member
      · rcases List.mem_cons.mp member with isHead | inTail
        · exact .inr (List.mem_cons.mpr (.inl isHead))
        · exact (induction inTail).imp id (List.mem_cons_of_mem _)

theorem Ascending.putTotal {sorted : List (String × Number)} (ascending : Ascending sorted)
    (entry : String × Number) : Ascending (putTotal entry sorted) := by
  induction sorted with
  | nil => exact List.pairwise_singleton _ _
  | cons head tail induction =>
      have ⟨least, tailAscending⟩ := List.pairwise_cons.mp ascending
      unfold Reading.putTotal
      split
      · next same =>
          refine List.pairwise_cons.mpr ⟨fun other member => ?_, tailAscending⟩
          rw [same]
          exact least other member
      split
      · next less =>
          refine List.pairwise_cons.mpr ⟨fun other member => ?_, ascending⟩
          rcases List.mem_cons.mp member with rfl | inTail
          · exact less
          · exact lt_trans less (least other inTail)
      · next different notLess =>
          have greater : head.1 < entry.1 :=
            lt_of_le_of_ne (not_lt.mp notLess) fun same => different same.symm
          refine List.pairwise_cons.mpr ⟨fun other member => ?_, induction tailAscending⟩
          rcases mem_putTotal member with rfl | inTail
          · exact greater
          · exact least other inTail

theorem lookup_putTotal (entry : String × Number) (sorted : List (String × Number))
    (name : String) :
    (putTotal entry sorted).lookup name = (entry :: sorted).lookup name := by
  induction sorted with
  | nil => rfl
  | cons head tail induction =>
      unfold putTotal
      split
      · next same =>
          rw [lookup_cons, lookup_cons, lookup_cons, same]
          split <;> rfl
      split
      · rfl
      · next different _ =>
          rw [lookup_cons, induction, lookup_cons, lookup_cons, lookup_cons]
          by_cases found : name = entry.1
          · have apart : name ≠ head.1 := found ▸ different
            rw [if_neg apart, if_pos found, if_pos found]
          · rw [if_neg found, if_neg found]

/-! ## All entries -/

def sortedTotals (entries : List (String × Number)) : List (String × Number) :=
  entries.foldl (fun sorted total => putTotal total sorted) []

theorem ascending_sortedTotals (entries : List (String × Number)) :
    Ascending (sortedTotals entries) := by
  have all (sorted : List (String × Number)) (ascending : Ascending sorted) :
      Ascending (entries.foldl (fun sorted total => putTotal total sorted) sorted) := by
    induction entries generalizing sorted with
    | nil => exact ascending
    | cons entry entries induction => exact induction _ (ascending.putTotal entry)
  exact all [] .nil

theorem lookup_sortedTotals (entries : List (String × Number)) (name : String) :
    (sortedTotals entries).lookup name = entries.reverse.lookup name := by
  have all (sorted : List (String × Number)) :
      (entries.foldl (fun sorted total => putTotal total sorted) sorted).lookup name =
        (entries.reverse ++ sorted).lookup name := by
    induction entries generalizing sorted with
    | nil => rfl
    | cons entry entries induction =>
        rw [List.foldl_cons, induction, List.reverse_cons, List.append_assoc,
          List.lookup_append, List.lookup_append, lookup_putTotal]
        rfl
  rw [sortedTotals, all [], List.append_nil]

theorem Ascending.mem_iff {totals : List (String × Number)} (ascending : Ascending totals)
    (name : String) (total : Number) :
    (name, total) ∈ totals ↔ totals.lookup name = some total := by
  induction totals with
  | nil => simp
  | cons head tail induction =>
      have ⟨least, tailAscending⟩ := List.pairwise_cons.mp ascending
      have ⟨headName, headTotal⟩ := head
      by_cases found : name = headName
      · subst found
        have once : (name, total) ∉ tail := fun inTail => absurd (least _ inTail) (lt_irrefl _)
        simp [once, eq_comm]
      · simp [lookup_cons, found, induction tailAscending]

theorem Ascending.eq_of_lookup {first second : List (String × Number)}
    (firstAscending : Ascending first) (secondAscending : Ascending second)
    (same : ∀ name, first.lookup name = second.lookup name) : first = second := by
  have irreflexive : Std.Irrefl fun first later : String × Number => first.1 < later.1 :=
    ⟨fun _ => lt_irrefl _⟩
  have antisymmetric : Std.Antisymm fun first later : String × Number => first.1 < later.1 :=
    ⟨fun _ _ less greater => absurd less (lt_asymm greater)⟩
  refine firstAscending.eq_of_mem_iff secondAscending fun entry => ?_
  rw [firstAscending.mem_iff, secondAscending.mem_iff, same]

/-! ## Reading the totals of a record -/

def entry? (field : String × Literal) : Option (String × Number) :=
  field.2.number?.map fun number => (field.1, number)

theorem names?_readField (fields : List (String × Literal)) :
    names? (fields.map Json.readField) =
      some (fields.map fun field => (field.1, number field.2)) := by
  induction fields with
  | nil => rfl
  | cons field fields induction => simp [Json.readField, names?, ← induction]

theorem totals?_readField (fields : List (String × Literal)) :
    (record (fields.map Json.readField)).totals? = (fields.mapM entry?).map sortedTotals := by
  have same : (fields.map fun field => (field.1, number field.2)).mapM
      (fun entry => entry.2.number?.map fun value => (entry.1, value)) = fields.mapM entry? := by
    rw [List.mapM_map]
    rfl
  rw [totals?, names?_readField]
  simp only [Option.bind_eq_bind, Option.bind_some, same]
  cases fields.mapM entry? <;> rfl

theorem isFinite_of_mem_entries {fields : List (String × Literal)}
    {entries : List (String × Number)} (read : fields.mapM entry? = some entries)
    {entry : String × Number} (member : entry ∈ entries) : entry.2.isFinite = true := by
  have ⟨field, _, isEntry⟩ := exists_of_mem_mapM read member
  have ⟨value, isNumber, same⟩ := Option.map_eq_some_iff.mp isEntry
  rw [← same]
  exact Literal.number?_isFinite isNumber

end SheetPost.Reading
