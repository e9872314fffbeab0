import SheetPost.Proofs.Spreadsheet.Reading

namespace SheetPost

theorem Table.exists_of_get {table : Table} {row column : Nat}
    (held : table.get ⟨row⟩ column ≠ .empty) :
    ∃ cells, table.rows[row]? = some cells ∧ cells[column]? = some (table.get ⟨row⟩ column) := by
  unfold get at held ⊢
  dsimp only at held ⊢
  cases foundRow : table.rows[row]? with
  | none =>
      rw [foundRow] at held
      exact absurd rfl held
  | some cells =>
      rw [foundRow, Option.getD_some] at held
      refine ⟨cells, rfl, ?_⟩
      rw [Option.getD_some]
      cases found : cells[column]? with
      | none =>
          rw [found] at held
          exact absurd rfl held
      | some cell => rfl

theorem Table.get_of_getElem? {table : Table} {row column : Nat} {cells : List Cell} {cell : Cell}
    (foundRow : table.rows[row]? = some cells) (found : cells[column]? = some cell) :
    table.get ⟨row⟩ column = cell := by
  rw [get, foundRow, Option.getD_some, found, Option.getD_some]

theorem Table.forall_get {table : Table} {holds : Cell → Prop} (empty : holds .empty)
    (each : ∀ cells ∈ table.rows, ∀ cell ∈ cells, holds cell) (row column : Nat) :
    holds (table.get ⟨row⟩ column) := by
  by_cases held : table.get ⟨row⟩ column = .empty
  · rw [held]
    exact empty
  · rcases exists_of_get held with ⟨cells, isRow, isCell⟩
    exact each cells (List.mem_of_getElem? isRow) _ (List.mem_of_getElem? isCell)

namespace Book

/-! ## Cells -/

def placeOf (row column : Nat) : Nat × Nat :=
  (row % 4294967296, column % 65536)

def InSheet (place : Nat × Nat) : Prop :=
  place.1 < rowLimit ∧ place.2 < columnLimit

variable {row column : Nat} {cell : Cell} {result : Option ((Nat × Nat) × StoredCell)}

theorem storeAt?_eq_ok_iff :
    storeAt? row column cell = .ok result ↔
      ∃ stored?, storedCell? cell = .ok stored? ∧
        (stored? ≠ none → InSheet (placeOf row column)) ∧
        stored?.map (placeOf row column, ·) = result := by
  unfold storeAt?
  cases storedCell? cell with
  | error error => simp [bind, Except.bind]
  | ok stored? =>
      cases stored? with
      | none => simp [bind, Except.bind, pure, Except.pure]
      | some stored =>
          have limits : rowLimit ≤ (placeOf row column).1 ∨ columnLimit ≤ (placeOf row column).2 ↔
              ¬InSheet (placeOf row column) := by
            unfold InSheet
            omega
          change (if rowLimit ≤ (placeOf row column).1 ∨ columnLimit ≤ (placeOf row column).2
            then _ else _) = _ ↔ _
          by_cases inside : InSheet (placeOf row column)
          · rw [if_neg (by simpa only [limits, not_not] using inside)]
            constructor
            · rintro ⟨⟩
              exact ⟨some stored, rfl, fun _ => inside, rfl⟩
            · rintro ⟨_, ⟨⟩, _, rfl⟩
              rfl
          · rw [if_pos (limits.mpr inside)]
            refine ⟨nofun, ?_⟩
            rintro ⟨_, ⟨⟩, isInside, _⟩
            exact absurd (isInside nofun) inside

def storedRow (row : List Cell × Nat) :
    Except StoreError (List (Option ((Nat × Nat) × StoredCell))) :=
  row.1.zipIdx.mapM fun cell => storeAt? row.2 cell.2 cell.1

/-! ## Sheets -/

variable {table : Table} {sheet : StoredSheet}

theorem storedSheet_eq_ok_iff :
    storedSheet table = .ok sheet ↔
      isSheetName table.name = true ∧
        ∃ rows, table.rows.zipIdx.mapM storedRow = .ok rows ∧
          ⟨table.name, (rows.flatMap id).filterMap id⟩ = sheet := by
  unfold storedSheet
  cases named : isSheetName table.name with
  | false =>
      refine ⟨nofun, ?_⟩
      rintro ⟨⟨⟩, _⟩
  | true =>
      change (table.rows.zipIdx.mapM storedRow).bind
        (fun rows => .ok (StoredSheet.mk table.name ((rows.flatMap id).filterMap id))) = _ ↔ _
      cases table.rows.zipIdx.mapM storedRow with
      | error error => exact ⟨nofun, fun ⟨_, _, same, _⟩ => nomatch same⟩
      | ok rows => simp [Except.bind]

theorem storedSheet_succeeds_iff :
    (∃ sheet, storedSheet table = .ok sheet) ↔
      isSheetName table.name = true ∧
        ∀ row column, ∃ result, storeAt? row column (table.get ⟨row⟩ column) = .ok result := by
  have rows : (∃ sheet, storedSheet table = .ok sheet) ↔
      isSheetName table.name = true ∧ ∃ rows, table.rows.zipIdx.mapM storedRow = .ok rows := by
    simp only [storedSheet_eq_ok_iff]
    exact ⟨fun ⟨_, named, rows, ran, _⟩ => ⟨named, rows, ran⟩,
      fun ⟨named, rows, ran⟩ => ⟨_, named, rows, ran, rfl⟩⟩
  rw [rows, mapM_succeeds_iff]
  simp only [storedRow, mapM_succeeds_iff]
  refine and_congr_right fun _ => ⟨fun each row column => ?_, fun each row isRow cell isCell => ?_⟩
  · by_cases held : table.get ⟨row⟩ column = .empty
    · exact ⟨none, storeAt?_eq_ok_iff.mpr ⟨none, by rw [held]; rfl, nofun, rfl⟩⟩
    · rcases Table.exists_of_get held with ⟨cells, isRow, isCell⟩
      exact each (cells, row) (List.mk_mem_zipIdx_iff_getElem?.mpr isRow) (_, column)
        (List.mk_mem_zipIdx_iff_getElem?.mpr isCell)
  · have same := Table.get_of_getElem? (List.mem_zipIdx_iff_getElem?.mp isRow)
      (List.mem_zipIdx_iff_getElem?.mp isCell)
    rw [← same]
    exact each row.2 cell.2

theorem mem_cells_iff (written : storedSheet table = .ok sheet) {place : Nat × Nat}
    {stored : StoredCell} :
    (place, stored) ∈ sheet.cells ↔
      ∃ row column, storedCell? (table.get ⟨row⟩ column) = .ok (some stored) ∧
        placeOf row column = place := by
  rcases storedSheet_eq_ok_iff.mp written with ⟨_, rows, ran, rfl⟩
  have listed : (place, stored) ∈ (rows.flatMap id).filterMap id ↔
      ∃ results ∈ rows, some (place, stored) ∈ results := by
    simp
  rw [listed]
  constructor
  · rintro ⟨results, isRow, isStored⟩
    rcases mem_of_mapM ran isRow with ⟨⟨cells, row⟩, foundRow, ranRow⟩
    rcases mem_of_mapM ranRow isStored with ⟨⟨cell, column⟩, found, ranCell⟩
    rcases storeAt?_eq_ok_iff.mp ranCell with ⟨stored?, told, _, same⟩
    rcases Option.map_eq_some_iff.mp same with ⟨_, rfl, pair⟩
    rcases Prod.mk.inj pair with ⟨isPlace, rfl⟩
    refine ⟨row, column, ?_, isPlace⟩
    rw [Table.get_of_getElem? (List.mk_mem_zipIdx_iff_getElem?.mp foundRow)
      (List.mk_mem_zipIdx_iff_getElem?.mp found)]
    exact told
  · rintro ⟨row, column, told, rfl⟩
    have held : table.get ⟨row⟩ column ≠ .empty := by
      intro empty
      rw [empty] at told
      cases told
    rcases Table.exists_of_get held with ⟨cells, foundRow, found⟩
    rcases exists_of_mapM ran (List.mk_mem_zipIdx_iff_getElem?.mpr foundRow) with
      ⟨results, isRow, ranRow⟩
    rcases exists_of_mapM ranRow (List.mk_mem_zipIdx_iff_getElem?.mpr found) with
      ⟨result, isResult, ranCell⟩
    rcases storeAt?_eq_ok_iff.mp ranCell with ⟨_, toldAgain, _, rfl⟩
    cases told.symm.trans toldAgain
    exact ⟨results, isRow, isResult⟩

/-- The cells that hold something lie so near that they are stored at their own places. -/
def InPlace (table : Table) : Prop :=
  ∀ row column, table.get ⟨row⟩ column ≠ .empty → row < 4294967296 ∧ column < 65536

theorem storedCell?_of_inPlace (written : storedSheet table = .ok sheet) (inPlace : InPlace table)
    (row column : Nat) :
    storedCell? (table.get ⟨row⟩ column) = .ok (sheet.stored? row column) := by
  have succeeds := (storedSheet_succeeds_iff.mp ⟨sheet, written⟩).2 row column
  rcases succeeds with ⟨result, ran⟩
  rcases storeAt?_eq_ok_iff.mp ran with ⟨stored?, told, _, _⟩
  have held {row column : Nat} {stored : StoredCell}
      (isStored : storedCell? (table.get ⟨row⟩ column) = .ok (some stored)) :
      placeOf row column = (row, column) := by
    have near := inPlace row column fun empty => by
      rw [empty] at isStored
      cases isStored
    rw [placeOf, Nat.mod_eq_of_lt near.1, Nat.mod_eq_of_lt near.2]
  rw [told]
  cases found : sheet.stored? row column with
  | some stored =>
      rcases (mem_cells_iff written).mp (StoredSheet.mem_of_stored found) with
        ⟨otherRow, otherColumn, isStored, same⟩
      rw [held isStored] at same
      cases same
      exact told.symm.trans isStored
  | none =>
      cases stored? with
      | none => rfl
      | some stored =>
          have member := (mem_cells_iff written).mpr ⟨row, column, told, rfl⟩
          rw [held told] at member
          have absent := List.lookup_eq_none_iff.mp found _ (List.mem_reverse.mpr member)
          simp at absent

theorem inSheet_of_stored (written : storedSheet table = .ok sheet) {row column : Nat}
    {stored : StoredCell} (found : sheet.stored? row column = some stored) :
    InSheet (row, column) := by
  rcases (mem_cells_iff written).mp (StoredSheet.mem_of_stored found) with
    ⟨otherRow, otherColumn, isStored, same⟩
  rcases (storedSheet_succeeds_iff.mp ⟨sheet, written⟩).2 otherRow otherColumn with ⟨result, ran⟩
  rcases storeAt?_eq_ok_iff.mp ran with ⟨stored?, told, inside, _⟩
  cases told.symm.trans isStored
  exact same ▸ inside nofun

end Book

end SheetPost
