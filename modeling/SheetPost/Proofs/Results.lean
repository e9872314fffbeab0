namespace SheetPost

variable {ε α β : Type} {step : α → Except ε β}

theorem map_eq_ok_iff {result : Except ε α} {change : α → β} {value : β} :
    result.map change = .ok value ↔ ∃ first, result = .ok first ∧ change first = value := by
  cases result <;> simp [Except.map]

theorem map_eq_error_iff {result : Except ε α} {change : α → β} {error : ε} :
    result.map change = .error error ↔ result = .error error := by
  cases result <;> simp [Except.map]

theorem mapM_eq_ok_iff {values : List α} {results : List β} :
    values.mapM step = .ok results ↔ values.map step = results.map .ok := by
  induction values generalizing results with
  | nil => cases results <;> simp [pure, Except.pure]
  | cons value values induction =>
      rw [List.mapM_cons, List.map_cons]
      cases first : step value with
      | error error => cases results <;> simp [bind, Except.bind]
      | ok result =>
          cases rest : values.mapM step with
          | error error =>
              have unequal (others : List β) : values.map step ≠ others.map .ok := by
                intro same
                cases rest.symm.trans (induction.mpr same)
              cases results <;> simp [bind, Except.bind, unequal]
          | ok others =>
              have same := induction.mp rest
              cases results with
              | nil => simp [bind, Except.bind, pure, Except.pure]
              | cons head tail =>
                  simp [bind, Except.bind, pure, Except.pure, same,
                    List.map_inj_right (fun _ _ => Except.ok.inj)]

theorem find?_of_mapM {key : α → String} {keyOf : β → String} {values : List α} {results : List β}
    (ran : values.mapM step = .ok results)
    (kept : ∀ value result, step value = .ok result → keyOf result = key value) (name : String) :
    (values.find? (key · == name)).map step = (results.find? (keyOf · == name)).map .ok := by
  have listed := mapM_eq_ok_iff.mp ran
  clear ran
  induction values generalizing results with
  | nil =>
      cases results with
      | nil => rfl
      | cons head tail => cases listed
  | cons value values induction =>
      cases results with
      | nil => cases listed
      | cons result results =>
          rcases List.cons_eq_cons.mp listed with ⟨first, rest⟩
          rw [List.find?_cons, List.find?_cons, kept value result first]
          cases key value == name with
          | true => exact congrArg some first
          | false => exact induction rest

theorem getElem?_of_mapM {values : List α} {results : List β}
    (ran : values.mapM step = .ok results) (index : Nat) :
    values[index]?.map step = results[index]?.map .ok := by
  rw [← List.getElem?_map, mapM_eq_ok_iff.mp ran, List.getElem?_map]

theorem mem_of_mapM {values : List α} {results : List β} (ran : values.mapM step = .ok results)
    {result : β} (member : result ∈ results) : ∃ value ∈ values, step value = .ok result := by
  have listed := List.mem_map_of_mem (f := Except.ok (ε := ε)) member
  rw [← mapM_eq_ok_iff.mp ran] at listed
  exact List.mem_map.mp listed

theorem exists_of_mapM {values : List α} {results : List β} (ran : values.mapM step = .ok results)
    {value : α} (member : value ∈ values) : ∃ result ∈ results, step value = .ok result := by
  have listed := List.mem_map_of_mem (f := step) member
  rw [mapM_eq_ok_iff.mp ran] at listed
  rcases List.mem_map.mp listed with ⟨result, isResult, same⟩
  exact ⟨result, isResult, same.symm⟩

theorem map_of_mapM {γ : Type} {key : α → γ} {keyOf : β → γ} {values : List α} {results : List β}
    (ran : values.mapM step = .ok results)
    (kept : ∀ value ∈ values, ∀ result, step value = .ok result → keyOf result = key value) :
    results.map keyOf = values.map key := by
  have listed := mapM_eq_ok_iff.mp ran
  clear ran
  induction values generalizing results with
  | nil =>
      cases results with
      | nil => rfl
      | cons head tail => cases listed
  | cons value values induction =>
      cases results with
      | nil => cases listed
      | cons result results =>
          rcases List.cons_eq_cons.mp listed with ⟨first, rest⟩
          rw [List.map_cons, List.map_cons, kept value List.mem_cons_self result first,
            induction (fun other member => kept other (List.mem_cons_of_mem _ member)) rest]

theorem mapM_succeeds_iff {values : List α} :
    (∃ results, values.mapM step = .ok results) ↔
      ∀ value ∈ values, ∃ result, step value = .ok result := by
  constructor
  · rintro ⟨results, ran⟩ value member
    rcases exists_of_mapM ran member with ⟨result, _, same⟩
    exact ⟨result, same⟩
  · intro each
    induction values with
    | nil => exact ⟨[], rfl⟩
    | cons value values induction =>
        rcases each value List.mem_cons_self with ⟨result, first⟩
        rcases induction fun other member => each other (List.mem_cons_of_mem _ member) with
          ⟨results, rest⟩
        refine ⟨result :: results, mapM_eq_ok_iff.mpr ?_⟩
        rw [List.map_cons, first, mapM_eq_ok_iff.mp rest, List.map_cons]

theorem results_of_range {count : Nat} {step : Nat → Except ε β} {results : List β}
    (ran : (List.range count).mapM step = .ok results) (filler : β) (index : Nat) :
    (index < count → step index = .ok (results[index]?.getD filler)) ∧
      (count ≤ index → results[index]? = none) := by
  have placed := getElem?_of_mapM ran index
  constructor
  · intro inside
    rw [List.getElem?_range inside] at placed
    cases found : results[index]? with
    | none =>
        rw [found] at placed
        cases placed
    | some result =>
        rw [found] at placed
        exact Option.some.inj placed
  · intro outside
    rw [List.getElem?_eq_none (by simpa using outside)] at placed
    exact Option.map_eq_none_iff.mp placed.symm

theorem exists_of_mem_mapM {read? : α → Option β} {values : List α} {found : List β}
    (read : values.mapM read? = some found) {result : β} (member : result ∈ found) :
    ∃ value ∈ values, read? value = some result := by
  induction values generalizing found with
  | nil =>
      cases read
      cases member
  | cons value values induction =>
      rw [List.mapM_cons] at read
      rcases Option.bind_eq_some_iff.mp read with ⟨first, isFirst, later⟩
      rcases Option.bind_eq_some_iff.mp later with ⟨rest, isRest, same⟩
      cases same
      rcases List.mem_cons.mp member with rfl | isLater
      · exact ⟨value, List.mem_cons_self, isFirst⟩
      · rcases induction isRest isLater with ⟨other, isOther, readOther⟩
        exact ⟨other, List.mem_cons_of_mem _ isOther, readOther⟩

theorem mapM_reads_iff {read? : α → Option β} {values : List α} :
    (∃ found, values.mapM read? = some found) ↔
      ∀ value ∈ values, ∃ result, read? value = some result := by
  induction values with
  | nil => simp
  | cons value values induction =>
      rw [List.forall_mem_cons, ← induction, List.mapM_cons]
      cases read? value with
      | none => simp
      | some first =>
          cases values.mapM read? with
          | none => simp
          | some rest => simp

end SheetPost
