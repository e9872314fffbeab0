import SheetPost.Gateway.Summary
import SheetPost.Proofs.Gateway.Journal

/-!
# Two conversations in lockstep

What a run keeps may differ from what another one keeps, and the two may still do the same. A step
of the one and a step of the other go in lockstep if, with the same answers to come, they have the
same result, add the same to their journals and leave the same answers. What they keep has to stand
in some relation before, and it stands in a relation afterwards.
-/

namespace SheetPost

namespace Conversing

open Conversation

variable {ε δ σ τ α β : Type}

/-- Two conversations have gone on, each from an earlier moment, and have done the same since. -/
structure Abreast (related : σ → τ → Prop) (left leftAfter : Conversation σ)
    (right rightAfter : Conversation τ) : Prop where
  answers : leftAfter.answers = rightAfter.answers
  stores : related leftAfter.store rightAfter.store
  journal : ∃ added, leftAfter.journal = left.journal ++ added ∧
    rightAfter.journal = right.journal ++ added

/-- The two steps do the same. The stores stand in the first relation before, and in the second one
afterwards, whether the steps succeed or fail. -/
def Lockstep (first last : σ → τ → Prop) (step : Conversing ε σ α) (other : Conversing ε τ α) :
    Prop :=
  ∀ left right, left.answers = right.answers → first left.store right.store →
    ∃ result leftAfter rightAfter, step left = (result, leftAfter) ∧
      other right = (result, rightAfter) ∧ Abreast last left leftAfter right rightAfter

def Alike (first last : σ → τ → Prop) (action : ExceptT δ (StateM σ) α)
    (other : ExceptT δ (StateM τ) α) : Prop :=
  ∀ left right, first left right → ∃ result leftAfter rightAfter,
    action left = (result, leftAfter) ∧ other right = (result, rightAfter) ∧
      last leftAfter rightAfter

variable {first middle last related : σ → τ → Prop}

theorem Abreast.trans {left leftMiddle leftAfter : Conversation σ}
    {right rightMiddle rightAfter : Conversation τ}
    (before : Abreast middle left leftMiddle right rightMiddle)
    (later : Abreast last leftMiddle leftAfter rightMiddle rightAfter) :
    Abreast last left leftAfter right rightAfter := by
  rcases before.journal with ⟨added, leftJournal, rightJournal⟩
  rcases later.journal with ⟨more, leftLater, rightLater⟩
  refine ⟨later.answers, later.stores, added ++ more, ?_, ?_⟩
  · rw [leftLater, leftJournal, List.append_assoc]
  · rw [rightLater, rightJournal, List.append_assoc]

theorem Abreast.weaken {left leftAfter : Conversation σ} {right rightAfter : Conversation τ}
    (abreast : Abreast middle left leftAfter right rightAfter)
    (weaker : ∀ left right, middle left right → last left right) :
    Abreast last left leftAfter right rightAfter :=
  ⟨abreast.answers, weaker _ _ abreast.stores, abreast.journal⟩

theorem Lockstep.weaken {step : Conversing ε σ α} {other : Conversing ε τ α}
    (steps : Lockstep first middle step other)
    (weaker : ∀ left right, middle left right → last left right) :
    Lockstep first last step other := by
  intro left right answers stores
  rcases steps left right answers stores with ⟨_, _, _, ran, ranToo, abreast⟩
  exact ⟨_, _, _, ran, ranToo, abreast.weaken weaker⟩

/-! ## Single steps -/

theorem Lockstep.of_result (result : Except ε α) :
    Lockstep related related (ExceptT.mk (pure result)) (ExceptT.mk (pure result)) :=
  fun left right answers stores =>
    ⟨result, left, right, rfl, rfl, answers, stores, [], by simp, by simp⟩

theorem Lockstep.record (event : Event) :
    Lockstep related related (record event : Conversing ε σ Unit) (record event) :=
  fun _ _ answers stores => ⟨_, _, _, rfl, rfl, answers, stores, [event], rfl, rfl⟩

theorem Lockstep.send (request : Request) :
    Lockstep related related (send request : Conversing ε σ Answer) (send request) := by
  rintro ⟨answers, journal, store⟩ ⟨_, journalToo, storeToo⟩ rfl stores
  cases answers with
  | nil => exact ⟨_, _, _, rfl, rfl, rfl, stores, [.requested request], rfl, rfl⟩
  | cons answer answers => exact ⟨_, _, _, rfl, rfl, rfl, stores, [.requested request], rfl, rfl⟩

theorem Lockstep.onStore (wrap : δ → ε) {action : ExceptT δ (StateM σ) α}
    {other : ExceptT δ (StateM τ) α} (alike : Alike first last action other) :
    Lockstep first last (onStore wrap action) (onStore wrap other) := by
  intro left right answers stores
  rcases alike left.store right.store stores with
    ⟨result, leftAfter, rightAfter, ran, ranToo, storesAfter⟩
  exact ⟨_, _, _, onStore_apply wrap ran, onStore_apply wrap ranToo, answers, storesAfter, [],
    by simp, by simp⟩

/-! ## Steps put together -/

theorem Lockstep.bind_weaken {step : Conversing ε σ α} {other : Conversing ε τ α}
    {next : α → Conversing ε σ β} {nextToo : α → Conversing ε τ β}
    (steps : Lockstep first middle step other)
    (later : ∀ value, Lockstep middle last (next value) (nextToo value))
    (weaker : ∀ left right, middle left right → last left right) :
    Lockstep first last (step >>= next) (other >>= nextToo) := by
  intro left right answers stores
  rcases steps left right answers stores with ⟨result, _, _, ran, ranToo, abreast⟩
  cases result with
  | error error => exact ⟨_, _, _, bind_error ran, bind_error ranToo, abreast.weaken weaker⟩
  | ok value =>
      rcases later value _ _ abreast.answers abreast.stores with
        ⟨_, _, _, ranLater, ranLaterToo, abreastLater⟩
      exact ⟨_, _, _, (bind_ok ran).trans ranLater, (bind_ok ranToo).trans ranLaterToo,
        abreast.trans abreastLater⟩

theorem Lockstep.bind {step : Conversing ε σ α} {other : Conversing ε τ α}
    {next : α → Conversing ε σ β} {nextToo : α → Conversing ε τ β}
    (steps : Lockstep first last step other)
    (later : ∀ value, Lockstep last last (next value) (nextToo value)) :
    Lockstep first last (step >>= next) (other >>= nextToo) :=
  steps.bind_weaken later fun _ _ => id

theorem Lockstep.failingAs (wrap : δ → ε) {step : Conversing δ σ α} {other : Conversing δ τ α}
    (steps : Lockstep first last step other) :
    Lockstep first last (failingAs wrap step : Conversing ε σ α) (failingAs wrap other) := by
  intro left right answers stores
  rcases steps left right answers stores with ⟨_, _, _, ran, ranToo, abreast⟩
  exact ⟨_, _, _, failingAs_apply wrap ran, failingAs_apply wrap ranToo, abreast⟩

theorem Lockstep.observing {step : Conversing δ σ α} {other : Conversing δ τ α}
    (steps : Lockstep first last step other) :
    Lockstep first last (observing step : Conversing ε σ (Except δ α)) (observing other) := by
  intro left right answers stores
  rcases steps left right answers stores with ⟨_, _, _, ran, ranToo, abreast⟩
  exact ⟨_, _, _, observing_apply ran, observing_apply ranToo, abreast⟩

theorem Lockstep.tryCatch {step : Conversing ε σ α} {other : Conversing ε τ α}
    {handler : ε → Conversing ε σ α} {handlerToo : ε → Conversing ε τ α}
    (steps : Lockstep first last step other)
    (handles : ∀ error, Lockstep last last (handler error) (handlerToo error)) :
    Lockstep first last (tryCatch step handler) (tryCatch other handlerToo) := by
  intro left right answers stores
  rcases steps left right answers stores with ⟨result, _, _, ran, ranToo, abreast⟩
  cases result with
  | ok value => exact ⟨_, _, _, tryCatch_ok ran, tryCatch_ok ranToo, abreast⟩
  | error error =>
      rcases handles error _ _ abreast.answers abreast.stores with
        ⟨_, _, _, ranLater, ranLaterToo, abreastLater⟩
      exact ⟨_, _, _, (tryCatch_error ran).trans ranLater, (tryCatch_error ranToo).trans ranLaterToo,
        abreast.trans abreastLater⟩

theorem Lockstep.forM {step : α → Conversing ε σ Unit} {other : α → Conversing ε τ Unit}
    (steps : ∀ value, Lockstep related related (step value) (other value)) (values : List α) :
    Lockstep related related (values.forM step) (values.forM other) := by
  induction values with
  | nil => exact .of_result (.ok ())
  | cons value values induction => exact (steps value).bind fun _ => induction

theorem Lockstep.mapM {step : α → Conversing ε σ β} {other : α → Conversing ε τ β}
    (steps : ∀ value, Lockstep related related (step value) (other value)) (values : List α) :
    Lockstep related related (values.mapM step) (values.mapM other) := by
  induction values with
  | nil => exact .of_result (.ok [])
  | cons value values induction =>
      rw [List.mapM_cons, List.mapM_cons]
      exact (steps value).bind fun result => induction.bind fun results => .of_result (.ok _)

end Conversing

namespace Client

open Conversing

variable {ε σ τ : Type} {related : σ → τ → Prop}

theorem noteRequest_lockstep (client : Client) (level : Level) (text : String) :
    Lockstep related related (client.noteRequest level text : Conversing ε σ Unit)
      (client.noteRequest level text) := by
  unfold noteRequest
  split
  · exact .record _
  · exact .of_result (.ok ())

theorem noteReply_lockstep (client : Client) (operation : Operation)
    (result : Except Failure Reply) :
    Lockstep related related (client.noteReply operation result : Conversing ε σ Unit)
      (client.noteReply operation result) := by
  cases result with
  | error failure => exact .record _
  | ok reply =>
      exact (client.noteRequest_lockstep _ _).bind fun _ => client.noteRequest_lockstep _ _

theorem bearer?_congr (operation : Operation) {session other : Option Session}
    (same : session.map (·.token) = other.map (·.token)) :
    bearer? operation session = bearer? operation other := by
  unfold bearer?
  cases session <;> cases other <;> simp_all

theorem execute_lockstep (client : Client) (operation : Operation)
    {session other : Option Session} (same : session.map (·.token) = other.map (·.token)) :
    Lockstep related related (client.execute operation session : Conversing Failure σ Reply)
      (client.execute operation other) := by
  unfold execute
  rw [bearer?_congr operation same]
  refine (Lockstep.of_result _).bind fun bearer => ?_
  refine (client.noteRequest_lockstep _ _).bind fun _ => ?_
  refine (Lockstep.send _).bind fun answer => ?_
  exact (client.noteReply_lockstep _ _).bind fun _ => .of_result _

theorem execute_lockstep_of_token (client : Client) (operation : Operation)
    {session other : Session} (same : session.token = other.token) :
    Lockstep related related (client.execute operation (some session) : Conversing Failure σ Reply)
      (client.execute operation (some other)) :=
  client.execute_lockstep operation (congrArg some same)

theorem fetchSummary_lockstep (client : Client) {session other : Session}
    (same : session.token = other.token) (first last : Date) :
    Lockstep related related
      (client.fetchSummary session first last : Conversing Failure σ (List CategoryTotal))
      (client.fetchSummary other first last) := by
  refine (client.execute_lockstep_of_token _ same).bind fun reply => ?_
  split
  · refine (Lockstep.of_result _).bind fun totals => ?_
    exact (Lockstep.record _).bind fun _ => .of_result (.ok _)
  · exact .of_result (.error _)

end Client

end SheetPost
