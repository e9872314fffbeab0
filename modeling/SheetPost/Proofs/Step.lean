namespace SheetPost.Step

variable {ε δ σ α β : Type} {before middle : σ}

theorem bind_ok {first : ExceptT ε (StateM σ) α} {next : α → ExceptT ε (StateM σ) β} {value : α}
    (ran : first before = (.ok value, middle)) : (first >>= next) before = next value middle := by
  change (match first before with
    | (result, reached) => ExceptT.bindCont next result reached) = _
  rw [ran]
  rfl

theorem bind_error {first : ExceptT ε (StateM σ) α} {next : α → ExceptT ε (StateM σ) β} {error : ε}
    (failed : first before = (.error error, middle)) :
    (first >>= next) before = (.error error, middle) := by
  change (match first before with
    | (result, reached) => ExceptT.bindCont next result reached) = _
  rw [failed]
  rfl

theorem adapt_apply {step : ExceptT ε (StateM σ) α} {result : Except ε α} (wrap : ε → δ)
    (ran : step before = (result, middle)) :
    step.adapt wrap before = (result.mapError wrap, middle) := by
  change ((step before).1.mapError wrap, (step before).2) = _
  rw [ran]

end SheetPost.Step
