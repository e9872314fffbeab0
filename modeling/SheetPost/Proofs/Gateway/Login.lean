import SheetPost.Gateway.Login
import SheetPost.Proofs.Gateway.Journal
import SheetPost.Proofs.Text.Trimming

namespace SheetPost

open Conversation Conversing

def Answer.token? : Answer → Option String
  | .replied 200 body => (Reading.ofText? body).bind accessToken?
  | _ => none

theorem Session.of?_eq_some_iff {token : String} {email : Option String} {session : Session} :
    Session.of? token email = some session ↔ trim token ≠ "" ∧ session = ⟨trim token, email⟩ := by
  unfold Session.of?
  split
  · next isBlank => exact ⟨nofun, fun made => absurd isBlank made.1⟩
  · next visible =>
      rw [Option.some.injEq, eq_comm]
      exact ⟨fun made => ⟨visible, made⟩, fun made => made.2⟩

/-! ## The session of an answer -/

namespace Client

theorem classify_ok {operation : Operation} {answer : Answer} {reply : Reply}
    (classified : classify operation answer = .ok reply) :
    answer = .replied reply.status reply.body ∧
      reply.succeeded = operation.succeeds reply.status := by
  cases answer with
  | replied status body =>
      cases classified
      exact ⟨rfl, rfl⟩
  | failed reason => cases classified
  | cutOff status reason => cases classified

def sessionOfAnswer (credentials : Credentials) (answer : Answer) : Except Failure Session :=
  (classify (.login credentials) answer).bind (sessionOfReply credentials)

variable {credentials : Credentials}

/-- A login succeeds with status 200 alone, and with a body that holds a token that is not blank. -/
theorem sessionOfAnswer_eq_ok_iff {answer : Answer} {session : Session} :
    sessionOfAnswer credentials answer = .ok session ↔
      ∃ token, answer.token? = some token ∧ trim token ≠ "" ∧
        session = ⟨trim token, some credentials.email⟩ := by
  cases answer with
  | failed reason => simp [sessionOfAnswer, classify, Except.bind, Answer.token?]
  | cutOff status reason => simp [sessionOfAnswer, classify, Except.bind, Answer.token?]
  | replied status body =>
      by_cases good : status = 200
      · subst good
        have succeeded : Operation.succeeds (.login credentials) 200 = true := rfl
        rw [sessionOfAnswer, classify, Except.bind, sessionOfReply, if_pos succeeded, Answer.token?]
        cases (Reading.ofText? body).bind accessToken? with
        | none => simp
        | some token =>
            simp only [Option.some.injEq, exists_eq_left', ← Session.of?_eq_some_iff]
            cases Session.of? token (some credentials.email) <;> simp
      · have failed : Operation.succeeds (.login credentials) status = false := by
          simpa [Operation.succeeds, Operation.successStatuses] using good
        have without : (Answer.replied status body).token? = none := by
          unfold Answer.token?
          split
          · next same =>
              cases same
              exact absurd rfl good
          · rfl
        simp [sessionOfAnswer, classify, Except.bind, sessionOfReply, failed, without]

/-! ## A login as a step -/

variable {σ : Type}

theorem login_apply (client : Client) (credentials : Credentials) (before : Conversation σ) :
    ∃ after, client.login credentials before =
        (sessionOfAnswer credentials (Answer.next before.answers), after) ∧
      after.store = before.store := by
  have carried : bearer? (.login credentials) none = .ok none := rfl
  have ⟨sent, ran, _, store, _⟩ := client.execute_sends carried before
  refine ⟨sent, ?_, store⟩
  unfold sessionOfAnswer
  cases classified : classify (.login credentials) (Answer.next before.answers) with
  | error failure =>
      rw [classified] at ran
      exact bind_error ran
  | ok reply =>
      rw [classified] at ran
      exact bind_ok ran

theorem loginAndStore_apply (client : Client) (credentials : Credentials) (sheet : Table)
    (before : Conversation σ) :
    ∃ after, client.loginAndStore credentials sheet before =
        ((sessionOfAnswer credentials (Answer.next before.answers)).map fun session =>
          (session, AuthSheet.storeSession session sheet), after) ∧
      after.store = before.store := by
  have ⟨asked, ran, store⟩ := client.login_apply credentials before
  cases granted : sessionOfAnswer credentials (Answer.next before.answers) with
  | error failure =>
      rw [granted] at ran
      exact ⟨asked, bind_error ran, store⟩
  | ok session =>
      rw [granted] at ran
      have ⟨noted, ranNote, note⟩ := note_apply (ε := Failure) .info
        ("Logged in as " ++ credentials.email) asked
      exact ⟨noted, (bind_ok ran).trans (bind_ok ranNote), note.store.trans store⟩

def loginInPlace (client : Client) : Conversing Failure Table Session := do
  let sheet := (← get).store
  let (session, stored) ← client.loginAndStore (AuthSheet.credentials sheet) sheet
  modify fun conversation => { conversation with store := stored }
  return session

theorem loginInPlace_apply (client : Client) (before : Conversation Table) :
    ∃ after, client.loginInPlace before =
        (sessionOfAnswer (AuthSheet.credentials before.store) (Answer.next before.answers), after) ∧
      after.store =
        match sessionOfAnswer (AuthSheet.credentials before.store) (Answer.next before.answers) with
        | .ok session => AuthSheet.storeSession session before.store
        | .error _ => before.store := by
  have ⟨asked, ran, store⟩ :=
    client.loginAndStore_apply (AuthSheet.credentials before.store) before.store before
  have got : (get : Conversing Failure Table (Conversation Table)) before =
      (.ok before, before) := rfl
  cases granted : sessionOfAnswer (AuthSheet.credentials before.store)
      (Answer.next before.answers) with
  | error failure =>
      rw [granted] at ran
      exact ⟨asked, (bind_ok got).trans (bind_error ran), store⟩
  | ok session =>
      rw [granted] at ran
      exact ⟨_, (bind_ok got).trans (bind_ok ran), rfl⟩

end Client

/-! ## Reading the session back -/

namespace AuthSheet

def typedEmail (sheet : Table) : String :=
  (sheet.get valuesRow emailColumn).shown

theorem session?_storeSession (session : Session) (sheet : Table)
    (trimmed : trim session.token = session.token) (visible : session.token ≠ "") :
    session? (storeSession session sheet) =
      some ⟨session.token,
        if blank (typedEmail sheet) then none else some (typedEmail sheet)⟩ := by
  have email : (storeSession session sheet).get valuesRow emailColumn =
      sheet.get valuesRow emailColumn := Table.get_set_other _ _ (.inr (by decide))
  rw [session?, email, storeSession, Table.get_set_same, Cell.shown_ofText,
    Session.of?_eq_some_iff, trimmed]
  exact ⟨visible, rfl⟩

/-- What a login that has succeeded with a session leaves of the sheet that it found. -/
structure Keeps (session : Session) (before after : Table) : Prop where
  read : session? after = some ⟨session.token,
    if blank (typedEmail before) then none else some (typedEmail before)⟩
  same : session? after = some session ↔
    typedEmail before ≠ "" ∧ trim (typedEmail before) = typedEmail before
  others : ∀ row column, row ≠ valuesRow ∨ column ≠ tokenColumn →
    after.get row column = before.get row column
  rowCount : after.rowCount = max before.rowCount valuesRow.number
  name : after.name = before.name

theorem keeps_storeSession {token : String} (sheet : Table) (visible : trim token ≠ "") :
    Keeps ⟨trim token, some (credentials sheet).email⟩ sheet
      (storeSession ⟨trim token, some (credentials sheet).email⟩ sheet) := by
  have email : (credentials sheet).email = trim (typedEmail sheet) := rfl
  have read := session?_storeSession ⟨trim token, some (credentials sheet).email⟩ sheet
    (trim_trim token) visible
  refine ⟨read, ?_, ?_, ?_, rfl⟩
  · rw [read, email, Option.some.injEq, Session.mk.injEq]
    by_cases isBlank : blank (typedEmail sheet) = true
    · have nothing := (blank_iff_trim _).mp isBlank
      simp only [isBlank, if_true, reduceCtorEq, and_false, false_iff, not_and]
      intro nonempty same
      exact nonempty (same.symm.trans nothing)
    · have nonempty : typedEmail sheet ≠ "" := by
        intro empty
        simp [empty, blank] at isBlank
      simp only [isBlank, Bool.false_eq_true, if_false, Option.some.injEq, true_and]
      exact ⟨fun same => ⟨nonempty, same.symm⟩, fun untouched => untouched.2.symm⟩
  · intro row column different
    exact Table.get_set_other _ _ different
  · exact Table.rowCount_set ..

end AuthSheet

/-- A login with the account in a sheet succeeds exactly if its answer holds a token that is not
blank. Then the session is read back from the sheet with the same token, and it is the same session
exactly if the email was typed without blanks around it and there is one; nothing but the cell of
the token has changed. A login that fails leaves the sheet as it was. -/
theorem Client.loginInPlace_keeps {client : Client} {before after : Conversation Table}
    {result : Except Failure Session} (ran : client.loginInPlace before = (result, after)) :
    ((∃ session, result = .ok session) ↔
      ∃ token, (Answer.next before.answers).token? = some token ∧ trim token ≠ "") ∧
    (∀ session, result = .ok session → AuthSheet.Keeps session before.store after.store) ∧
    ∀ failure, result = .error failure → after.store = before.store := by
  have ⟨_, ranAgain, store⟩ := client.loginInPlace_apply before
  cases ranAgain.symm.trans ran
  refine ⟨?_, ?_, ?_⟩
  · simp only [sessionOfAnswer_eq_ok_iff]
    constructor
    · intro ⟨_, token, sent, visible, _⟩
      exact ⟨token, sent, visible⟩
    · intro ⟨token, sent, visible⟩
      exact ⟨_, token, sent, visible, rfl⟩
  · intro session granted
    have ⟨token, _, visible, same⟩ := sessionOfAnswer_eq_ok_iff.mp granted
    rw [granted] at store
    rw [store, same]
    exact AuthSheet.keeps_storeSession before.store visible
  · intro failure refused
    rw [refused] at store
    exact store

def AuthSheet.ofAccount (email : String) : Table :=
  ⟨"Auth", [Schema.auth.columns.map .ofText, [.ofText email, .ofText "secret"]]⟩

def Conversation.withToken (email : String) : Conversation Table :=
  { answers := [.replied 200 "\x7b\"access_token\":\" jwt-1 \"\x7d"]
    journal := []
    store := AuthSheet.ofAccount email }

def Client.quiet : Client where
  authUrl := "http://localhost:8081"
  gatewayUrl := "http://localhost:8080"
  correlationIds := false
  requestLogging := false

theorem Client.loginInPlace_keeps_session :
    let before := withToken "me@example.com"
    let after := (Client.quiet.loginInPlace before).2
    AuthSheet.session? after.store = some ⟨"jwt-1", some "me@example.com"⟩ ∧
      AuthSheet.Keeps ⟨"jwt-1", some "me@example.com"⟩ before.store after.store := by
  intro before after
  have granted : (Client.quiet.loginInPlace before).1 =
      .ok ⟨"jwt-1", some "me@example.com"⟩ := by decide +kernel
  have ran : Client.quiet.loginInPlace before =
      ((Client.quiet.loginInPlace before).1, after) := rfl
  have ⟨_, kept, _⟩ := Client.loginInPlace_keeps ran
  have keeps := kept _ granted
  exact ⟨keeps.same.mpr (by decide +kernel), keeps⟩

/-- An email with blanks around it is read back with them. -/
theorem Client.loginInPlace_other_email :
    let ran := Client.quiet.loginInPlace (withToken " me@example.com ")
    ran.1 = .ok ⟨"jwt-1", some "me@example.com"⟩ ∧
      AuthSheet.session? ran.2.store = some ⟨"jwt-1", some " me@example.com "⟩ := by
  decide +kernel

end SheetPost
