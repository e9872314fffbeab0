import SheetPost.Proofs.Workbook.Writing

namespace SheetPost

theorem modifyFilled_eq_modify {α : Type} (filler : α) (change : α → α) {position : Nat}
    {values : List α} (inside : position < values.length) :
    modifyFilled filler change position values = values.modify position change := by
  induction position generalizing values with
  | zero =>
      cases values with
      | nil => cases inside
      | cons head tail => rfl
  | succ position induction =>
      cases values with
      | nil => cases inside
      | cons head tail =>
          rw [modifyFilled, induction (Nat.lt_of_succ_lt_succ inside), List.modify_succ_cons]

namespace Table

theorem rows_set {table : Table} {row : RowPosition} (column : Nat) (cell : Cell)
    (inside : row.above < table.rows.length) :
    (table.set row column cell).rows =
      table.rows.modify row.above (modifyFilled .empty (fun _ => cell) column) :=
  modifyFilled_eq_modify _ _ inside

def marked (table : Table) (column : Nat) (statuses : List (RowPosition × String)) : Table :=
  statuses.foldl (fun table entry => table.set entry.1 column (.ofText entry.2)) table

theorem marked_cons (table : Table) (column : Nat) (entry : RowPosition × String)
    (statuses : List (RowPosition × String)) :
    table.marked column (entry :: statuses) =
      (table.set entry.1 column (.ofText entry.2)).marked column statuses := rfl

theorem marked_append (table : Table) (column : Nat)
    (statuses more : List (RowPosition × String)) :
    table.marked column (statuses ++ more) = (table.marked column statuses).marked column more :=
  List.foldl_append

theorem marked_eq_written (table : Table) (column : Nat) (statuses : List (RowPosition × String)) :
    table.marked column statuses =
      table.written (statuses.map fun entry => ⟨entry.1, column, .text entry.2⟩) := by
  rw [written, List.foldl_map]
  rfl

theorem name_marked (table : Table) (column : Nat) (statuses : List (RowPosition × String)) :
    (table.marked column statuses).name = table.name := by
  rw [marked_eq_written, name_written]

theorem get_marked_other (table : Table) {column otherColumn : Nat} {row : RowPosition}
    (statuses : List (RowPosition × String))
    (apart : row ∉ statuses.map (·.1) ∨ otherColumn ≠ column) :
    (table.marked column statuses).get row otherColumn = table.get row otherColumn := by
  have unwritten : lastWrite? (statuses.map fun entry => ⟨entry.1, column, .text entry.2⟩) row
      otherColumn = none := by
    refine lastWrite?_eq_none_iff.mpr fun write member here => ?_
    rcases List.mem_map.mp member with ⟨entry, isEntry, rfl⟩
    rcases apart with absent | different
    · exact absent (here.1 ▸ List.mem_map_of_mem isEntry)
    · exact different here.2.symm
  rw [marked_eq_written, get_written, unwritten]

theorem get_marked_of_mem (table : Table) (column : Nat) {row : RowPosition} {status : String}
    {statuses : List (RowPosition × String)} (nodup : (statuses.map (·.1)).Nodup)
    (member : (row, status) ∈ statuses) :
    (table.marked column statuses).get row column = .ofText status := by
  induction statuses generalizing table with
  | nil => cases member
  | cons entry statuses induction =>
      have parts := List.nodup_cons.mp nodup
      rcases List.mem_cons.mp member with equal | member
      · subst equal
        rw [marked_cons, get_marked_other _ _ (.inl parts.1), get_set_same]
      · exact induction _ parts.2 member

end Table

end SheetPost
