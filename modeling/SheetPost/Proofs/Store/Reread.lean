import SheetPost.Proofs.Csv.RoundTrip
import SheetPost.Proofs.Workbook.Marking

namespace SheetPost

def Cell.reread (cell : Cell) : Cell :=
  .ofText cell.shown

theorem Cell.shown_reread (cell : Cell) : cell.reread.shown = cell.shown :=
  Cell.shown_ofText cell.shown

namespace Table

def rereadRow (cells : List Cell) : List Cell :=
  if cells = [] then [.empty] else cells.map Cell.reread

/-- What is left of a text that loses its mark of byte order at the front of a file. A text that is
written in quotes loses nothing. -/
def frontless? (text : String) : Option String :=
  match text.toList with
  | '\uFEFF' :: rest => if Csv.needsQuotes rest then none else some (String.ofList rest)
  | _ => none

def reread (table : Table) : Table where
  name := table.name
  rows := match table.rows with
    | (cell :: cells) :: rows =>
        match frontless? cell.shown with
        | none => table.rows.map rereadRow
        | some text =>
            if text = "" ∧ cells = [] then rows.map rereadRow
            else (.ofText text :: cells.map Cell.reread) :: rows.map rereadRow
    | _ => table.rows.map rereadRow

def ofFields (fields : List (List Char)) : List Cell :=
  (Csv.readBack fields).map fun field => .ofText (String.ofList field)

def fieldsOf (cells : List Cell) : List (List Char) :=
  cells.map fun cell => cell.shown.toList

theorem ofFields_cons (field : List Char) (cells : List Cell) :
    ofFields (field :: fieldsOf cells) =
      .ofText (String.ofList field) :: cells.map Cell.reread := by
  have back : (fun cell : Cell => Cell.ofText (String.ofList cell.shown.toList)) = Cell.reread := by
    funext cell
    rw [String.ofList_toList]
    rfl
  rw [ofFields, Csv.readBack, if_neg (List.cons_ne_nil _ _), List.map_cons, fieldsOf, List.map_map]
  exact congrArg (_ :: cells.map ·) back

theorem ofFields_fieldsOf (cells : List Cell) : ofFields (fieldsOf cells) = rereadRow cells := by
  cases cells with
  | nil => rfl
  | cons cell cells =>
      refine (ofFields_cons cell.shown.toList cells).trans ?_
      rw [String.ofList_toList]
      rfl

theorem reread_eq (table : Table) :
    table.reread =
      ⟨table.name, (Csv.reread (table.rows.map (·.map (·.shown)))).map (·.map Cell.ofText)⟩ := by
  have read : ∀ rows : List (List Cell),
      (Csv.reread (rows.map (·.map (·.shown)))).map (·.map Cell.ofText) =
        (Csv.withoutMark (rows.map fieldsOf)).map ofFields := by
    intro rows
    simp only [Csv.reread, List.map_map]
    congr 1
    · funext fields
      exact List.map_map
    · congr 2
      funext cells
      exact List.map_map
  have whole : ∀ rows : List (List Cell), (rows.map fieldsOf).map ofFields = rows.map rereadRow :=
    fun rows => List.map_map.trans (List.map_congr_left fun cells _ => ofFields_fieldsOf cells)
  rw [read]
  rcases table with ⟨name, _ | ⟨_ | ⟨cell, cells⟩, rows⟩⟩
  · rfl
  · exact congrArg (Table.mk name) (whole ([] :: rows)).symm
  · refine congrArg (Table.mk name) ?_
    change (match frontless? cell.shown with
      | none => ((cell :: cells) :: rows).map rereadRow
      | some text => _) = (Csv.withoutMark ((cell.shown.toList :: fieldsOf cells) ::
        rows.map fieldsOf)).map ofFields
    have kept := whole ((cell :: cells) :: rows)
    change ((cell.shown.toList :: fieldsOf cells) :: rows.map fieldsOf).map ofFields = _ at kept
    by_cases marked : ∃ rest, cell.shown.toList = '\uFEFF' :: rest ∧ Csv.needsQuotes rest = false
    · rcases marked with ⟨rest, text, plain⟩
      have found : frontless? cell.shown = some (String.ofList rest) := by
        rw [frontless?, text]
        exact if_neg (by rw [plain]; decide)
      rw [found, text, Csv.withoutMark, plain]
      by_cases alone : rest = [] ∧ cells = []
      · rcases alone with ⟨rfl, rfl⟩
        exact (whole rows).symm
      · have more : ¬(String.ofList rest = "" ∧ cells = []) := by
          rwa [String.ofList_eq_empty_iff]
        have moreFields : ¬(rest = [] ∧ fieldsOf cells = []) := by
          rwa [fieldsOf, List.map_eq_nil_iff]
        simp only [if_neg more, if_neg moreFields, Bool.false_eq_true, if_false]
        rw [List.map_cons, ofFields_cons, whole]
    · have found : frontless? cell.shown = none := by
        unfold frontless?
        split
        · next rest text =>
            cases quotes : Csv.needsQuotes rest with
            | true => rfl
            | false => exact absurd ⟨rest, text, quotes⟩ marked
        · rfl
      have unmarked : ¬Csv.Marked ((cell.shown.toList :: fieldsOf cells) :: rows.map fieldsOf) := by
        rintro ⟨field, fields, rest, same, plain⟩
        exact marked ⟨field, (List.cons_eq_cons.mp (List.cons_eq_cons.mp same).1).1, plain⟩
      rw [found, Csv.withoutMark_of_not_marked unmarked]
      exact kept.symm

/-! ## Tables that come back as they are -/

/-- The table could have been read from a file: every row has a cell, every cell is a text or empty,
and no mark of byte order stands at the front. -/
structure AsRead (table : Table) : Prop where
  filled : ∀ cells ∈ table.rows, cells ≠ []
  texts : ∀ cells ∈ table.rows, ∀ cell ∈ cells, cell.reread = cell
  front : (table.get ⟨0⟩ 0).shown.toList.head? ≠ some '\uFEFF'

variable {table : Table}

theorem AsRead.rereadRow (asRead : table.AsRead) {cells : List Cell} (member : cells ∈ table.rows) :
    rereadRow cells = cells := by
  rw [Table.rereadRow, if_neg (asRead.filled cells member)]
  exact (List.map_congr_left (asRead.texts cells member)).trans (List.map_id _)

theorem frontless?_of_head? {text : String} (front : text.toList.head? ≠ some '\uFEFF') :
    frontless? text = none := by
  unfold frontless?
  split
  · next characters =>
      rw [characters] at front
      exact absurd rfl front
  · rfl

theorem reread_of_head? (front : (table.get ⟨0⟩ 0).shown.toList.head? ≠ some '\uFEFF') :
    table.reread = ⟨table.name, table.rows.map Table.rereadRow⟩ := by
  rcases table with ⟨name, _ | ⟨_ | ⟨cell, cells⟩, more⟩⟩
  · rfl
  · rfl
  · refine congrArg (Table.mk name) ?_
    have found : frontless? cell.shown = none := frontless?_of_head? front
    change (match frontless? cell.shown with
      | none => ((cell :: cells) :: more).map Table.rereadRow
      | some text => _) = _
    rw [found]

theorem AsRead.reread (asRead : table.AsRead) : table.reread = table := by
  have rows : table.rows.map Table.rereadRow = table.rows :=
    (List.map_congr_left fun _ member => asRead.rereadRow member).trans (List.map_id _)
  rw [reread_of_head? asRead.front, rows]

theorem getElem?_rereadRow (cells : List Cell) (column : Nat) :
    (Table.rereadRow cells)[column]?.getD .empty = (cells[column]?.getD .empty).reread := by
  have none : Cell.empty.reread = .empty := rfl
  unfold Table.rereadRow
  split
  · next bare =>
      subst bare
      cases column <;> simp [none]
  · rw [List.getElem?_map]
    cases cells[column]? <;> simp [none]

theorem get_map_rereadRow (name : String) (rows : List (List Cell)) (row : RowPosition)
    (column : Nat) :
    (Table.mk name (rows.map Table.rereadRow)).get row column =
      ((Table.mk name rows).get row column).reread := by
  have outside : (Table.rereadRow [])[column]?.getD .empty = .empty :=
    getElem?_rereadRow [] column
  rw [get, get, List.getElem?_map]
  cases rows[row.above]? with
  | none => rfl
  | some cells => exact getElem?_rereadRow cells column

theorem get_reread (front : (table.get ⟨0⟩ 0).shown.toList.head? ≠ some '\uFEFF')
    (row : RowPosition) (column : Nat) :
    table.reread.get row column = (table.get row column).reread := by
  rw [reread_of_head? front, get_map_rereadRow]

/-- The first row holds a mark of byte order and nothing else. -/
def HeadedByMark (table : Table) : Prop :=
  ∃ cell, table.rows.head? = some [cell] ∧ cell.shown = "\uFEFF"

theorem of_frontless? {text rest : String} (found : frontless? text = some rest) :
    text.toList.head? = some '\uFEFF' ∧ (rest = "" → text = "\uFEFF") := by
  unfold frontless? at found
  split at found
  · next tail characters =>
      refine ⟨by rw [characters]; rfl, fun none => ?_⟩
      have ⟨_, isRest⟩ := Option.ite_none_left_eq_some.mp found
      rw [none, Option.some.injEq, String.ofList_eq_empty_iff] at isRest
      rw [isRest] at characters
      exact String.toList_inj.mp characters
  · cases found

/-- A cell with a text that does not begin with the mark comes back by itself, one row higher up if
the first row is lost. -/
theorem exists_get_reread {row : RowPosition} {column : Nat}
    (filled : (table.get row column).shown ≠ "")
    (plain : (table.get row column).shown.toList.head? ≠ some '\uFEFF') :
    ∃ place, (place = row ∨ table.HeadedByMark ∧ place.above + 1 = row.above) ∧
      table.reread.get place column = (table.get row column).reread := by
  rcases table with ⟨name, _ | ⟨_ | ⟨cell, cells⟩, more⟩⟩
  · exact ⟨row, .inl rfl, get_map_rereadRow name [] row column⟩
  · exact ⟨row, .inl rfl, get_map_rereadRow name ([] :: more) row column⟩
  · cases found : frontless? cell.shown with
    | none =>
        refine ⟨row, .inl rfl, ?_⟩
        simp only [reread, found]
        exact get_map_rereadRow name ((cell :: cells) :: more) row column
    | some text =>
        have ⟨front, alone⟩ := of_frontless? found
        rcases row with ⟨_ | above⟩
        -- In the first row only the first cell has lost something, and it began with the mark.
        · cases column with
          | zero => exact absurd front plain
          | succ column =>
              have notAlone : ¬(text = "" ∧ cells = []) := by
                intro ⟨_, bare⟩
                subst bare
                exact filled rfl
              refine ⟨⟨0⟩, .inl rfl, ?_⟩
              simp only [reread, found, if_neg notAlone]
              simp only [get, List.getElem?_cons_zero, List.getElem?_cons_succ, Option.getD_some,
                List.getElem?_map]
              cases cells[column]? <;> rfl
        · have below (name : String) :
              (Table.mk name (more.map rereadRow)).get ⟨above⟩ column =
                ((Table.mk name more).get ⟨above⟩ column).reread :=
            get_map_rereadRow name more ⟨above⟩ column
          by_cases lost : text = "" ∧ cells = []
          · refine ⟨⟨above⟩, .inr ⟨⟨cell, ?_, alone lost.1⟩, rfl⟩, ?_⟩
            · rw [lost.2]
              rfl
            · simp only [reread, found, if_pos lost]
              exact below name
          · refine ⟨⟨above + 1⟩, .inl rfl, ?_⟩
            simp only [reread, found, if_neg lost]
            exact below name

theorem AsRead.get_reread (asRead : table.AsRead) (row : RowPosition) (column : Nat) :
    (table.get row column).reread = table.get row column := by
  rw [← Table.get_reread asRead.front, asRead.reread]

theorem ofText_reread (text : String) : (Cell.ofText text).reread = .ofText text := by
  rw [Cell.reread, Cell.shown_ofText]

theorem forall_mem_modifyFilled {α : Type} (holds : α → Prop) {filler : α} {change : α → α}
    (ofFiller : holds filler) (ofChange : ∀ value, holds value → holds (change value))
    (position : Nat) {values : List α} (all : ∀ value ∈ values, holds value) :
    ∀ value ∈ modifyFilled filler change position values, holds value := by
  induction position generalizing values with
  | zero =>
      cases values with
      | nil => exact List.forall_mem_singleton.mpr (ofChange _ ofFiller)
      | cons head tail =>
          rw [List.forall_mem_cons] at all
          exact List.forall_mem_cons.mpr ⟨ofChange _ all.1, all.2⟩
  | succ position induction =>
      cases values with
      | nil => exact List.forall_mem_cons.mpr ⟨ofFiller, induction all⟩
      | cons head tail =>
          rw [List.forall_mem_cons] at all
          exact List.forall_mem_cons.mpr ⟨all.1, induction all.2⟩

theorem forall_mem_modify {α : Type} {holds : α → Prop} {change : α → α}
    (ofChange : ∀ value, holds value → holds (change value)) (position : Nat) {values : List α}
    (all : ∀ value ∈ values, holds value) :
    ∀ value ∈ values.modify position change, holds value := by
  intro value member
  rcases List.mem_iff_getElem?.mp member with ⟨place, found⟩
  rw [List.getElem?_modify] at found
  rcases Option.map_eq_some_iff.mp found with ⟨old, isOld, rfl⟩
  have ofOld := all old (List.mem_of_getElem? isOld)
  split
  · exact ofChange old ofOld
  · exact ofOld

theorem AsRead.set (asRead : table.AsRead) {row : RowPosition} (below : 0 < row.above)
    (inside : row.above < table.rows.length) (column : Nat) (text : String) :
    (table.set row column (.ofText text)).AsRead := by
  refine ⟨?_, ?_, ?_⟩
  · rw [rows_set column _ inside]
    refine forall_mem_modify (fun cells _ => ?_) _ asRead.filled
    exact List.ne_nil_of_length_pos (by rw [length_modifyFilled]; omega)
  · rw [rows_set column _ inside]
    refine forall_mem_modify (fun cells texts => ?_) _ asRead.texts
    exact forall_mem_modifyFilled (fun cell : Cell => cell.reread = cell) rfl
      (fun _ _ => ofText_reread text) column texts
  · have apart : (⟨0⟩ : RowPosition) ≠ row := by
      rintro rfl
      exact Nat.lt_irrefl 0 below
    rw [get_set_other _ _ (.inl apart)]
    exact asRead.front

theorem AsRead.marked (asRead : table.AsRead) (column : Nat)
    {statuses : List (RowPosition × String)}
    (data : ∀ entry ∈ statuses, 0 < entry.1.above ∧ entry.1.above < table.rows.length) :
    (table.marked column statuses).AsRead := by
  induction statuses generalizing table with
  | nil => exact asRead
  | cons entry statuses induction =>
      rw [List.forall_mem_cons] at data
      rcases data with ⟨⟨below, inside⟩, later⟩
      refine induction (asRead.set below inside column entry.2) fun other member => ?_
      rw [rows_set column _ inside, List.length_modify]
      exact later other member

theorem asRead_of_records {name : String} {records : List (List String)}
    (filled : ∀ record ∈ records, record ≠ [])
    (front : ((Table.mk name (records.map (·.map Cell.ofText))).get ⟨0⟩ 0).shown.toList.head? ≠
      some '\uFEFF') :
    (Table.mk name (records.map (·.map Cell.ofText))).AsRead := by
  refine ⟨?_, ?_, front⟩
  · intro cells member none
    rcases List.mem_map.mp member with ⟨record, isRecord, rfl⟩
    exact filled record isRecord (List.map_eq_nil_iff.mp none)
  · intro cells member cell isCell
    rcases List.mem_map.mp member with ⟨record, _, rfl⟩
    rcases List.mem_map.mp isCell with ⟨text, _, rfl⟩
    exact ofText_reread text

end Table

end SheetPost
