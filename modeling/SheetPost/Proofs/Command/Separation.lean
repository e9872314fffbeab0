import SheetPost.Proofs.Command.Lockstep

namespace SheetPost

open Conversation Conversing

/-! ## Where an operation goes -/

/-- What an operation is about: the account, the state of the gateway, or the records it keeps. -/
inductive Concern where
  | account
  | health
  | records
deriving DecidableEq

def Operation.concern : Operation → Concern
  | register _ | login _ => .account
  | ping => .health
  | createTransaction _ | createBudget _ | bulkImport .. | reportSummary .. | listTransactions
  | listBudgets => .records

namespace Client

def requestAt (client : Client) (url : String) (operation : Operation) (bearer : Option String) :
    Request where
  method := operation.method
  url := withoutSlashes url ++ operation.path
  bearer
  correlated := client.correlationIds
  body := operation.body

/-- The request that an operation makes. Only what is about records carries a token, and without a
session it makes no request. -/
def addressed? (client : Client) (operation : Operation) (session : Option Session) :
    Option Request :=
  match operation.concern, session with
  | .account, _ => some (client.requestAt client.authUrl operation none)
  | .health, _ => some (client.requestAt client.gatewayUrl operation none)
  | .records, some session =>
      some (client.requestAt client.gatewayUrl operation (some session.token))
  | .records, none => none

variable {σ : Type} (client : Client) (operation : Operation) (session : Option Session)

theorem addressed?_eq_some {bearer : Option String}
    (carried : bearer? operation session = .ok bearer) :
    client.addressed? operation session = some (client.request operation bearer) := by
  cases operation <;> cases session <;> cases carried <;> rfl

theorem addressed?_eq_none {failure : Failure} (missing : bearer? operation session = .error failure) :
    client.addressed? operation session = none ∧ failure = .missingSession := by
  cases operation <;> cases session <;> cases missing <;> exact ⟨rfl, rfl⟩

theorem execute_addressed (before : Conversation σ) :
    requestsIn (client.execute operation session before).2.journal =
        requestsIn before.journal ++ (client.addressed? operation session).toList ∧
      (client.addressed? operation session = none →
        (client.execute operation session before).1 = .error .missingSession) := by
  cases carried : bearer? operation session with
  | ok bearer =>
      rcases client.execute_sends carried before with ⟨after, ran, _, _, adds⟩
      rw [client.addressed?_eq_some operation session carried, ran]
      exact ⟨adds.requests, nofun⟩
  | error failure =>
      rcases client.addressed?_eq_none operation session carried with ⟨none, rfl⟩
      have ran : client.execute operation session before = (.error .missingSession, before) := by
        rw [execute, carried]
        rfl
      rw [none, ran]
      exact ⟨(List.append_nil _).symm, fun _ => rfl⟩

end Client

/-! ## Two runs that only email and password tell apart -/

namespace Invocation

variable {invocation : Invocation} {around : Surroundings} {directory : String}
variable {left right : Conversation Disk}

/-- Two beginnings of a run, with the same answers to come and the same settings to be found. The
settings name a directory, and what can be loaded from it on the one disk and on the other differs
in the email and the password at most. -/
structure AlikeButAccount (invocation : Invocation) (around : Surroundings) (directory : String)
    (left right : Conversation Disk) : Prop where
  settings : (invocation.frame around left).1 = (invocation.frame around right).1
  stored : ∀ frame, (invocation.frame around left).1 = .ok frame →
    frame.store = .directory directory
  answers : left.answers = right.answers
  sound : left.store.Sound ∧ right.store.Sound
  loads : ∃ workbook other, SheetDirectory.load directory left.store = .ok workbook ∧
    SheetDirectory.load directory right.store = .ok other ∧ workbook.SameButAccount other

theorem run_alike (asks : invocation.command.asksGateway = true)
    (alike : invocation.AlikeButAccount around directory left right) :
    (invocation.run around left).1 = (invocation.run around right).1 ∧
      ∃ events, Adds left (invocation.run around left).2 events ∧
        Adds right (invocation.run around right).2 events := by
  have settings := alike.settings
  have stored := alike.stored
  cases found : invocation.frame around left with
  | mk result middle =>
      cases foundToo : invocation.frame around right with
      | mk resultToo middleToo =>
          rw [found, foundToo] at settings
          cases settings
          cases result with
          | error problem =>
              have ran : invocation.run around left = (.error problem, middle) := bind_error found
              have ranToo : invocation.run around right = (.error problem, middleToo) :=
                bind_error foundToo
              rw [ran, ranToo]
              exact ⟨rfl, [], ((invocation.frame_remarks around).of_ran found).adds,
                ((invocation.frame_remarks around).of_ran foundToo).adds⟩
          | ok frame =>
              rw [found] at stored
              rcases run_of_frame found with ⟨noted, remarked, runs⟩
              rcases run_of_frame foundToo with ⟨notedToo, remarkedToo, runsToo⟩
              rcases alike.loads with ⟨workbook, other, loads, loadsToo, same⟩
              have both : Frame.BothLoad directory workbook other noted.store notedToo.store := by
                rw [remarked.store, remarkedToo.store]
                exact ⟨alike.sound, loads, loadsToo⟩
              have answers : noted.answers = notedToo.answers := by
                rw [remarked.answers, remarkedToo.answers, alike.answers]
              rcases Frame.run_lockstep asks (stored frame rfl) same noted notedToo answers both
                with ⟨result, after, afterToo, ran, ranToo, abreast⟩
              rcases abreast.journal with ⟨added, journal, journalToo⟩
              rw [runs, runsToo, ran, ranToo]
              exact ⟨rfl, effectsIn added, remarked.adds.trans ⟨added, journal, rfl⟩,
                remarkedToo.adds.trans ⟨added, journalToo, rfl⟩⟩

end Invocation

/-- Executing an operation sends one request at most: to the auth service without a token where it is
about the account, to the gateway without a token where it asks for its state, and to the gateway
with the token of the session in all other cases, where nothing is sent without a session. And what
stands in the workbook for email and password makes no difference to a run that asks the gateway:
it ends with the same result and does the same, request by request. -/
theorem credentials_separated :
    (∀ {σ : Type} (client : Client) (operation : Operation) (session : Option Session)
      (before : Conversation σ),
      requestsIn (client.execute operation session before).2.journal =
          requestsIn before.journal ++ (client.addressed? operation session).toList ∧
        (client.addressed? operation session = none →
          (client.execute operation session before).1 = .error .missingSession)) ∧
    (∀ (invocation : Invocation) (around : Surroundings) (directory : String)
      (left right : Conversation Disk), invocation.command.asksGateway = true →
      invocation.AlikeButAccount around directory left right →
      (invocation.run around left).1 = (invocation.run around right).1 ∧
        ∃ events, Adds left (invocation.run around left).2 events ∧
          Adds right (invocation.run around right).2 events) :=
  ⟨fun client operation session before => client.execute_addressed operation session before,
    fun _ _ _ _ _ asks alike => Invocation.run_alike asks alike⟩

/-! ## A listing for two accounts -/

def booksOf (email password : String) : Disk where
  workingDirectory := []
  entries := [(["books"], .directory), (["books", "Auth.csv"],
    .file (.text ("email,password,token\n" ++ email ++ "," ++ password ++ ",tok\n")))]

def workbookOf (email password : String) : Workbook :=
  ⟨[⟨"Auth", [[.text "email", .text "password", .text "token"],
    [.text email, .text password, .text "tok"]]⟩]⟩

def listBooks : Invocation :=
  ⟨0, none, some "books", .list .budgets false⟩

theorem sameButAccount_workbookOf (email password otherEmail otherPassword : String) :
    (workbookOf email password).SameButAccount (workbookOf otherEmail otherPassword) := by
  constructor
  · intro name apart
    have other : ("Auth" == name) = false := by simpa [Schema.auth] using Ne.symm apart
    simp [workbookOf, Workbook.sheet?, other]
  · rintro ⟨above⟩ column apart
    match above, column with
    | 0, _ => rfl
    | 1, 0 => exact absurd rfl (apart.resolve_left (fun different => different rfl)).1
    | 1, 1 => exact absurd rfl (apart.resolve_left (fun different => different rfl)).2
    | 1, _ + 2 => rfl
    | _ + 2, _ => rfl

theorem sound_booksOf (email password : String) : (booksOf email password).Sound := by
  refine ⟨nofun, by simp [booksOf], ?_⟩
  have books : Disk.IsName "books" := by constructor <;> decide +kernel
  have auth : Disk.IsName "Auth.csv" := SheetDirectory.isName_known .auth (by decide)
  simp [booksOf, books, auth]

theorem credentials_separated_listing :
    let left : Conversation Disk := ⟨[.replied 200 "[]"], [], booksOf "a@b.c" "pw"⟩
    let right : Conversation Disk := ⟨[.replied 200 "[]"], [], booksOf "x@y.z" "1234"⟩
    (listBooks.run Invocation.bareSurroundings left).1 =
        (listBooks.run Invocation.bareSurroundings right).1 ∧
      requestsIn (listBooks.run Invocation.bareSurroundings left).2.journal =
        requestsIn (listBooks.run Invocation.bareSurroundings right).2.journal ∧
      (Invocation.booksFrame.client.execute .listBudgets none left).1 = .error .missingSession := by
  intro left right
  have alike : listBooks.AlikeButAccount Invocation.bareSurroundings "books" left right := by
    have settings : (listBooks.frame Invocation.bareSurroundings left).1 =
        .ok Invocation.booksFrame := rfl
    have settingsToo : (listBooks.frame Invocation.bareSurroundings right).1 =
        .ok Invocation.booksFrame := rfl
    refine ⟨settings.trans settingsToo.symm, fun frame found => ?_, rfl,
      ⟨sound_booksOf _ _, sound_booksOf _ _⟩, workbookOf "a@b.c" "pw", workbookOf "x@y.z" "1234",
      by decide +kernel, by decide +kernel, sameButAccount_workbookOf _ _ _ _⟩
    cases settings.symm.trans found
    exact Invocation.store_booksFrame
  rcases credentials_separated.2 listBooks Invocation.bareSurroundings "books" left right rfl alike
    with ⟨same, events, adds, addsToo⟩
  have sent : requestsIn (listBooks.run Invocation.bareSurroundings left).2.journal =
      requestsIn events := adds.requests
  have sentToo : requestsIn (listBooks.run Invocation.bareSurroundings right).2.journal =
      requestsIn events := addsToo.requests
  exact ⟨same, sent.trans sentToo.symm,
    (credentials_separated.1 Invocation.booksFrame.client .listBudgets none left).2 rfl⟩

example : (requestsIn (listBooks.run Invocation.bareSurroundings
    ⟨[.replied 200 "[]"], [], booksOf "a@b.c" "pw"⟩).2.journal).map (·.bearer) = [some "tok"] := by
  decide +kernel

end SheetPost
