import SheetPost.Command.Run
import SheetPost.Proofs.Gateway.Journal

namespace SheetPost

namespace Conversing

open Conversation

variable {ε σ α β : Type}

def Remarks (step : Conversing ε σ α) : Prop :=
  ∀ before, Remarked before (step before).2

theorem Remarks.of_ran {step : Conversing ε σ α} {before after : Conversation σ}
    {result : Except ε α} (remarks : Remarks step) (ran : step before = (result, after)) :
    Remarked before after := by
  have remarked := remarks before
  rw [ran] at remarked
  exact remarked

theorem Remarks.of_result (result : Except ε α) :
    Remarks (ExceptT.mk (pure result) : Conversing ε σ α) :=
  fun before => .refl before

theorem Remarks.note (level : Level) (text : String) :
    Remarks (note level text : Conversing ε σ Unit) :=
  fun _ => ⟨rfl, rfl, [.noted level text], rfl, rfl⟩

theorem Remarks.bind {first : Conversing ε σ α} {next : α → Conversing ε σ β}
    (remarks : Remarks first) (later : ∀ value, Remarks (next value)) :
    Remarks (first >>= next) := by
  intro before
  have remarked := remarks before
  cases ran : first before with
  | mk result middle =>
      rw [ran] at remarked
      cases result with
      | error error =>
          rw [bind_error ran]
          exact remarked
      | ok value =>
          rw [bind_ok ran]
          exact remarked.trans (later value middle)

theorem Remarks.get_bind {next : Conversation σ → Conversing ε σ α}
    (later : ∀ conversation, Remarks (next conversation)) : Remarks (get >>= next) :=
  fun before => later before before

/-- The step makes notes and prints lines at most, and it does not fail. -/
def Tells (step : Conversing ε σ Unit) : Prop :=
  ∀ before, ∃ after, step before = (.ok (), after) ∧ Remarked before after

theorem Tells.remarks {step : Conversing ε σ Unit} (tells : Tells step) : Remarks step := by
  intro before
  rcases tells before with ⟨after, ran, remarked⟩
  rw [ran]
  exact remarked

theorem Tells.nothing : Tells (pure () : Conversing ε σ Unit) :=
  fun before => ⟨before, rfl, .refl before⟩

theorem Tells.note (level : Level) (text : String) :
    Tells (note level text : Conversing ε σ Unit) :=
  fun before => note_apply level text before

theorem Tells.print (line : String) : Tells (print line : Conversing ε σ Unit) :=
  fun _ => ⟨_, rfl, rfl, rfl, [.printed (line ++ "\n")], rfl, rfl⟩

theorem Tells.forM {step : α → Conversing ε σ Unit} (tells : ∀ value, Tells (step value))
    (values : List α) : Tells (values.forM step) := by
  induction values with
  | nil => exact .nothing
  | cons value values induction =>
      intro before
      rcases tells value before with ⟨middle, ran, remarked⟩
      rcases induction middle with ⟨after, ranLater, remarkedLater⟩
      exact ⟨after, (bind_ok ran).trans ranLater, remarked.trans remarkedLater⟩

end Conversing

open Conversation Conversing

theorem Settings.load_remarks (named? usual? : Option String) :
    Remarks (Settings.load named? usual?) := by
  refine .get_bind fun conversation => (Remarks.of_result _).bind fun path? => ?_
  cases path? with
  | none => exact (Remarks.note _ _).bind fun _ => .of_result (.ok _)
  | some path =>
      refine (Remarks.of_result _).bind fun settings => ?_
      exact (Remarks.note _ _).bind fun _ => .of_result (.ok _)

theorem Settings.resolve_remarks (named? usual? : Option String)
    (environment : String → Option String) :
    Remarks (Settings.resolve named? usual? environment) :=
  (Settings.load_remarks named? usual?).bind fun _ =>
    (Remarks.of_result _).bind fun _ => .of_result (.ok _)

theorem Invocation.frame_remarks (invocation : Invocation) (around : Surroundings) :
    Remarks (invocation.frame around) :=
  (Settings.resolve_remarks _ _ _).bind fun _ => .of_result (.ok _)

theorem Invocation.run_of_frame {invocation : Invocation} {around : Surroundings}
    {before middle : Conversation Disk} {frame : Frame}
    (found : invocation.frame around before = (.ok frame, middle)) :
    ∃ noted, Remarked before noted ∧
      invocation.run around before = frame.run invocation.command noted := by
  rcases note_apply (ε := Problem) .debug ("Using workbook " ++ frame.settings.workbook) middle
    with ⟨noted, ranNote, note⟩
  exact ⟨noted, ((invocation.frame_remarks around).of_ran found).trans note,
    (bind_ok found).trans (bind_ok ranNote)⟩

namespace Frame

theorem print_tells (lines : List String) : Tells (print lines) :=
  .forM .print lines

theorem print_remarks (lines : List String) : Remarks (print lines) :=
  (print_tells lines).remarks

theorem session_remarks (workbook : Workbook) : Remarks (session workbook) := by
  unfold session
  split
  · exact .of_result (.ok _)
  · exact .of_result (.error _)

theorem load_apply {frame : Frame} {before : Conversation Disk} {workbook : Workbook}
    (loads : frame.store.load before.store = .ok workbook) :
    frame.load before = (.ok workbook, before) := by
  have got : (get : Running (Conversation Disk)) before = (.ok before, before) := rfl
  dsimp only [load]
  rw [bind_ok got, loads]
  rfl

theorem load_error {frame : Frame} {before : Conversation Disk} {error : StoreError}
    (fails : frame.store.load before.store = .error error) :
    ∃ problem, frame.load before = (.error problem, before) := by
  have got : (get : Running (Conversation Disk)) before = (.ok before, before) := rfl
  dsimp only [load]
  rw [bind_ok got, fails]
  exact ⟨_, rfl⟩

theorem load_remarks (frame : Frame) : Remarks frame.load := by
  refine .get_bind fun conversation => ?_
  cases frame.store.load conversation.store with
  | ok workbook => exact .of_result (.ok workbook)
  | error error => exact .of_result (.error _)

theorem load_ok {frame : Frame} {before after : Conversation Disk} {workbook : Workbook}
    (ran : frame.load before = (.ok workbook, after)) :
    frame.store.load before.store = .ok workbook ∧ after = before := by
  cases loads : frame.store.load before.store with
  | ok found =>
      cases (load_apply loads).symm.trans ran
      exact ⟨rfl, rfl⟩
  | error error =>
      rcases load_error loads with ⟨problem, failed⟩
      cases failed.symm.trans ran

end Frame

end SheetPost
