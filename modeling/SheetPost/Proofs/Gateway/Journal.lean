import SheetPost.Gateway.Client
import SheetPost.Proofs.Results
import SheetPost.Proofs.Step

namespace SheetPost

namespace Event

def isEffect : Event → Bool
  | requested _ | statusWritten .. | flushed => true
  | noted .. | printed _ => false

def isFlush : Event → Bool
  | flushed => true
  | requested _ | statusWritten .. | noted .. | printed _ => false

def request? : Event → Option Request
  | requested request => some request
  | _ => none

def status? : Event → Option (RowPosition × String)
  | statusWritten row status => some (row, status)
  | _ => none

end Event

def requestsIn (events : List Event) : List Request :=
  events.filterMap Event.request?

def statusesIn (events : List Event) : List (RowPosition × String) :=
  events.filterMap Event.status?

def effectsIn (events : List Event) : List Event :=
  events.filter Event.isEffect

@[simp] theorem requestsIn_append (events more : List Event) :
    requestsIn (events ++ more) = requestsIn events ++ requestsIn more :=
  List.filterMap_append

@[simp] theorem statusesIn_append (events more : List Event) :
    statusesIn (events ++ more) = statusesIn events ++ statusesIn more :=
  List.filterMap_append

theorem statusesIn_requested (request : Request) (events : List Event) :
    statusesIn (.requested request :: events) = statusesIn events := rfl

@[simp] theorem effectsIn_append (events more : List Event) :
    effectsIn (events ++ more) = effectsIn events ++ effectsIn more :=
  List.filter_append ..

theorem requestsIn_effectsIn (events : List Event) :
    requestsIn (effectsIn events) = requestsIn events := by
  have same : (fun event : Event => if event.isEffect then event.request? else none) =
      Event.request? := by
    funext event
    cases event <;> rfl
  rw [requestsIn, effectsIn, List.filterMap_filter, same, requestsIn]

theorem statusesIn_effectsIn (events : List Event) :
    statusesIn (effectsIn events) = statusesIn events := by
  have same : (fun event : Event => if event.isEffect then event.status? else none) =
      Event.status? := by
    funext event
    cases event <;> rfl
  rw [statusesIn, effectsIn, List.filterMap_filter, same, statusesIn]

theorem mem_statusesIn {events : List Event} {row : RowPosition} {status : String} :
    (row, status) ∈ statusesIn events ↔ Event.statusWritten row status ∈ events := by
  constructor
  · intro member
    rcases List.mem_filterMap.mp member with ⟨event, found, same⟩
    cases event <;> cases same
    exact found
  · intro member
    exact List.mem_filterMap.mpr ⟨_, member, rfl⟩

theorem append_eq_append_cons {α : Type} {first second early late : List α} {value : α}
    (split : first ++ second = early ++ value :: late) :
    (∃ rest, early = first ++ rest ∧ second = rest ++ value :: late) ∨
      ∃ rest, first = early ++ value :: rest ∧ late = rest ++ second := by
  rcases List.append_eq_append_iff.mp split with inSecond | ⟨middle, same, joined⟩
  · exact .inl inSecond
  · cases middle with
    | nil =>
        rw [List.append_nil] at same
        exact .inl ⟨[], by rw [same, List.append_nil], joined.symm⟩
    | cons head middle =>
        rcases List.cons_eq_cons.mp joined with ⟨rfl, rest⟩
        exact .inr ⟨middle, same, rest⟩

namespace Conversation

variable {σ : Type}

/-- The second conversation goes on from the first one and has done these things since. -/
def Adds (before after : Conversation σ) (events : List Event) : Prop :=
  ∃ added, after.journal = before.journal ++ added ∧ effectsIn added = events

namespace Adds

variable {before middle after : Conversation σ} {events more : List Event}

theorem refl (before : Conversation σ) : Adds before before [] :=
  ⟨[], (List.append_nil _).symm, rfl⟩

theorem trans (first : Adds before middle events) (second : Adds middle after more) :
    Adds before after (events ++ more) := by
  rcases first with ⟨added, journal, rfl⟩
  rcases second with ⟨addedLater, journalLater, rfl⟩
  exact ⟨added ++ addedLater, by rw [journalLater, journal, List.append_assoc],
    effectsIn_append _ _⟩

theorem unique (adds : Adds before after events) (again : Adds before after more) :
    events = more := by
  rcases adds with ⟨added, journal, rfl⟩
  rcases again with ⟨addedAgain, journalAgain, rfl⟩
  rw [List.append_cancel_left (journal.symm.trans journalAgain)]

theorem requests (adds : Adds before after events) :
    requestsIn after.journal = requestsIn before.journal ++ requestsIn events := by
  rcases adds with ⟨added, journal, rfl⟩
  rw [journal, requestsIn_append, requestsIn_effectsIn]

end Adds

/-- Nothing has happened but notes and printed lines. -/
structure Remarked (before after : Conversation σ) : Prop where
  answers : after.answers = before.answers
  store : after.store = before.store
  adds : Adds before after []

theorem Remarked.refl (before : Conversation σ) : Remarked before before :=
  ⟨rfl, rfl, .refl before⟩

theorem Remarked.trans {before middle after : Conversation σ} (first : Remarked before middle)
    (second : Remarked middle after) : Remarked before after :=
  ⟨second.answers.trans first.answers, second.store.trans first.store,
    first.adds.trans second.adds⟩

end Conversation

namespace Answer

/-- The answer that the next request gets. Where none is left, none arrives. -/
def next (answers : List Answer) : Answer :=
  answers.headD (.failed "no scripted response")

theorem next_of_head? {answers : List Answer} {answer : Answer}
    (head : answers.head? = some answer) : next answers = answer := by
  rw [next, List.headD_eq_head?_getD, head]
  rfl

def nth (answers : List Answer) (number : Nat) : Answer :=
  next (answers.drop number)

theorem nth_succ (answers : List Answer) (number : Nat) :
    nth answers (number + 1) = nth answers.tail number := by
  rw [nth, nth, List.drop_tail]

def isCutOff : Answer → Bool
  | cutOff .. => true
  | replied .. | failed _ => false

end Answer

namespace Conversing

open Conversation

variable {ε σ α β γ : Type}

/-! ## Running a step after a step -/

theorem bind_ok {first : Conversing ε σ α} {next : α → Conversing ε σ β}
    {before middle : Conversation σ} {value : α} (ran : first before = (.ok value, middle)) :
    (first >>= next) before = next value middle :=
  Step.bind_ok ran

theorem bind_error {first : Conversing ε σ α} {next : α → Conversing ε σ β}
    {before middle : Conversation σ} {error : ε} (ran : first before = (.error error, middle)) :
    (first >>= next) before = (.error error, middle) :=
  Step.bind_error ran

theorem bind_cases {first : Conversing ε σ α} {next : α → Conversing ε σ β}
    {before after : Conversation σ} {result : Except ε β}
    (ran : (first >>= next) before = (result, after)) :
    (∃ error, first before = (.error error, after) ∧ result = .error error) ∨
      ∃ value middle, first before = (.ok value, middle) ∧ next value middle = (result, after) := by
  cases ranFirst : first before with
  | mk resultFirst middle =>
      cases resultFirst with
      | error error =>
          cases (bind_error ranFirst).symm.trans ran
          exact .inl ⟨error, rfl, rfl⟩
      | ok value => exact .inr ⟨value, middle, rfl, (bind_ok ranFirst).symm.trans ran⟩

theorem bind_decided {first : Conversing ε σ α} {judge : α → Except ε β}
    {next : β → Conversing ε σ γ} {before middle : Conversation σ} {result : Except ε α} {value : β}
    (ran : first before = (result, middle)) (decided : result.bind judge = .ok value) :
    (first >>= fun told => ExceptT.mk (pure (judge told)) >>= next) before =
      next value middle := by
  cases result with
  | error error => cases decided
  | ok told => exact (bind_ok ran).trans (bind_ok (congrArg (·, middle) decided))

theorem bind_undecided {first : Conversing ε σ α} {judge : α → Except ε β}
    {next : β → Conversing ε σ γ} {before middle : Conversation σ} {result : Except ε α} {error : ε}
    (ran : first before = (result, middle)) (undecided : result.bind judge = .error error) :
    (first >>= fun told => ExceptT.mk (pure (judge told)) >>= next) before =
      (.error error, middle) := by
  cases result with
  | error failed =>
      cases undecided
      exact bind_error ran
  | ok told => exact (bind_ok ran).trans (bind_error (congrArg (·, middle) undecided))

theorem tryCatch_ok {action : Conversing ε σ α} {handler : ε → Conversing ε σ α}
    {before after : Conversation σ} {value : α} (ran : action before = (.ok value, after)) :
    tryCatch action handler before = (.ok value, after) := by
  simp only [tryCatch, tryCatchThe, MonadExceptOf.tryCatch, ExceptT.tryCatch, ExceptT.mk, bind,
    StateT.bind, ran]
  rfl

theorem tryCatch_error {action : Conversing ε σ α} {handler : ε → Conversing ε σ α}
    {before middle : Conversation σ} {error : ε} (ran : action before = (.error error, middle)) :
    tryCatch action handler before = handler error middle := by
  simp only [tryCatch, tryCatchThe, MonadExceptOf.tryCatch, ExceptT.tryCatch, ExceptT.mk, bind,
    StateT.bind, ran]

theorem observing_apply {δ : Type} {action : Conversing δ σ α} {before after : Conversation σ}
    {result : Except δ α} (ran : action before = (result, after)) :
    (observing action : Conversing ε σ (Except δ α)) before = (.ok result, after) := by
  change ((.ok (action before).1, (action before).2) : Except ε (Except δ α) × _) = _
  rw [ran]

theorem failingAs_apply {δ : Type} (wrap : δ → ε) {action : Conversing δ σ α}
    {before after : Conversation σ} {result : Except δ α} (ran : action before = (result, after)) :
    failingAs wrap action before = (result.mapError wrap, after) :=
  Step.adapt_apply wrap ran

/-! ## Single steps -/

theorem note_apply (level : Level) (text : String) (before : Conversation σ) :
    ∃ after, (note level text : Conversing ε σ Unit) before = (.ok (), after) ∧
      Remarked before after :=
  ⟨_, rfl, rfl, rfl, [.noted level text], rfl, rfl⟩

theorem send_apply (request : Request) (before : Conversation σ) :
    ∃ after, (send request : Conversing ε σ Answer) before =
        (.ok (Answer.next before.answers), after) ∧
      after.answers = before.answers.tail ∧ after.store = before.store ∧
      Adds before after [.requested request] := by
  rcases before with ⟨answers, journal, store⟩
  cases answers with
  | nil => exact ⟨_, rfl, rfl, rfl, [.requested request], rfl, rfl⟩
  | cons answer answers => exact ⟨_, rfl, rfl, rfl, [.requested request], rfl, rfl⟩

theorem onStore_apply {δ : Type} (wrap : δ → ε) {action : ExceptT δ (StateM σ) α}
    {before : Conversation σ} {result : Except δ α} {store : σ}
    (ran : action before.store = (result, store)) :
    onStore wrap action before = (result.mapError wrap, { before with store }) := by
  change (match action before.store with
    | (result, store) => (result.mapError wrap, { before with store })) = _
  rw [ran]

end Conversing

/-! ## An exchange with a service -/

namespace Client

open Conversation Conversing

variable {ε σ : Type}

theorem noteRequest_apply (client : Client) (level : Level) (text : String)
    (before : Conversation σ) :
    ∃ after, (client.noteRequest level text : Conversing ε σ Unit) before = (.ok (), after) ∧
      Remarked before after := by
  unfold noteRequest
  split
  · exact note_apply level text before
  · exact ⟨before, rfl, .refl before⟩

theorem noteReply_apply (client : Client) (operation : Operation) (result : Except Failure Reply)
    (before : Conversation σ) :
    ∃ after, (client.noteReply operation result : Conversing ε σ Unit) before = (.ok (), after) ∧
      Remarked before after := by
  cases result with
  | error failure => exact note_apply _ _ before
  | ok reply =>
      rcases client.noteRequest_apply (ε := ε) .debug
        (noteHead operation ++ " -> " ++ integerText reply.status ++ " in <t>ms") before
        with ⟨middle, ran, first⟩
      rcases client.noteRequest_apply (ε := ε) .trace ("[<id>] response body: " ++ reply.body)
        middle with ⟨after, ranLater, second⟩
      exact ⟨after, (bind_ok ran).trans ranLater, first.trans second⟩

def sessionRequest (client : Client) (operation : Operation) (session : Session) : Request :=
  client.request operation (if operation.requiresSession then some session.token else none)

theorem execute_sends (client : Client) {operation : Operation} {session : Option Session}
    {bearer : Option String} (carried : bearer? operation session = .ok bearer)
    (before : Conversation σ) :
    ∃ after, client.execute operation session before =
        (classify operation (Answer.next before.answers), after) ∧
      after.answers = before.answers.tail ∧ after.store = before.store ∧
      Adds before after [.requested (client.request operation bearer)] := by
  have ranBearer : (ExceptT.mk (pure (bearer? operation session)) :
      Conversing Failure σ (Option String)) before = (.ok bearer, before) := by
    rw [carried]
    rfl
  rcases client.noteRequest_apply (ε := Failure) .debug
    (noteHead operation ++ " (" ++ operation.name ++ ")") before with ⟨noted, ranNote, note⟩
  rcases send_apply (ε := Failure) (client.request operation bearer) noted with
    ⟨sent, ranSend, sentAnswers, sentStore, sentAdds⟩
  rcases client.noteReply_apply (ε := Failure) operation
    (classify operation (Answer.next noted.answers)) sent with ⟨after, ranReply, reply⟩
  refine ⟨after, ?_, ?_, ?_, ?_⟩
  · refine (bind_ok ranBearer).trans ((bind_ok ranNote).trans ?_)
    refine (bind_ok ranSend).trans ((bind_ok ranReply).trans ?_)
    rw [note.answers]
    rfl
  · rw [reply.answers, sentAnswers, note.answers]
  · rw [reply.store, sentStore, note.store]
  · exact (note.adds.trans sentAdds).trans reply.adds

theorem bearer?_session (operation : Operation) (session : Session) :
    bearer? operation (some session) =
      .ok (if operation.requiresSession then some session.token else none) := by
  unfold bearer?
  split <;> rfl

theorem execute_apply (client : Client) (operation : Operation) (session : Session)
    (before : Conversation σ) :
    ∃ after, client.execute operation (some session) before =
        (classify operation (Answer.next before.answers), after) ∧
      after.answers = before.answers.tail ∧ after.store = before.store ∧
      Adds before after [.requested (client.sessionRequest operation session)] :=
  client.execute_sends (bearer?_session operation session) before

end Client

end SheetPost
