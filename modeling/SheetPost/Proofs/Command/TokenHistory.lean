import SheetPost.Proofs.Command.Account
import SheetPost.Proofs.Command.Requests
import SheetPost.Proofs.Text.Trimming

namespace SheetPost

open Conversation Conversing

/-! ## The token in a cell -/

def tokenIn (cell : Cell) : Option String :=
  if trim cell.shown = "" then none else some (trim cell.shown)

theorem Workbook.token?_eq (workbook : Workbook) :
    workbook.token? = tokenIn (workbook.account AuthSheet.tokenColumn) := by
  unfold Workbook.token? AuthSheet.session? Session.of? tokenIn Workbook.account
  split <;> rfl

theorem tokenIn_ofText {token : String} (visible : trim token ≠ "") :
    tokenIn (.ofText (trim token)) = some (trim token) := by
  rw [tokenIn, Cell.shown_ofText, trim_trim, if_neg visible]

/-! ## Runs one after the other -/

/-- A run of the program: what it is asked to do, what it finds around it, and what the services
will answer. -/
structure Turn where
  invocation : Invocation
  around : Surroundings
  answers : List Answer

namespace Turn

def frame? (turn : Turn) (disk : Disk) : Option Frame :=
  (turn.invocation.frame turn.around ⟨turn.answers, [], disk⟩).1.toOption

def run (turn : Turn) (disk : Disk) : Except Problem Unit × Conversation Disk :=
  turn.invocation.run turn.around ⟨turn.answers, [], disk⟩

def leaves (turn : Turn) (disk : Disk) : Disk :=
  (turn.run disk).2.store

def requests (turn : Turn) (disk : Disk) : List Request :=
  requestsIn (turn.run disk).2.journal

/-- The token that the turn puts in force, or that there is none from now on. A login that ends
without error brings the token of its answer without the blanks around it, and a logout takes the
token out; all other turns leave it. A turn without settings does not come to the workbook. -/
def sets? (turn : Turn) (disk : Disk) : Option (Option String) :=
  match turn.frame? disk, turn.invocation.command, (turn.run disk).1 with
  | some _, .login _, .ok () => some ((Answer.next turn.answers).token?.map trim)
  | some _, .logout, _ => some none
  | _, _, _ => none

/-- The turn is an everyday one and works on this directory, as far as its settings can be found. -/
structure On (directory : String) (turn : Turn) (disk : Disk) : Prop where
  everyday : turn.invocation.command.isEveryday = true
  stored : ∀ frame, turn.frame? disk = some frame → frame.store = .directory directory

def leavesAll (turns : List Turn) (disk : Disk) : Disk :=
  turns.foldl (fun disk turn => turn.leaves disk) disk

/-- The token in force after some turns, when there was none before them. -/
def inForce (turns : List Turn) (disk : Disk) : Option String :=
  (turns.foldl (fun (disk, held) turn => (turn.leaves disk, (turn.sets? disk).getD held))
    (disk, none)).2

theorem leavesAll_concat (turns : List Turn) (turn : Turn) (disk : Disk) :
    leavesAll (turns ++ [turn]) disk = turn.leaves (leavesAll turns disk) :=
  List.foldl_append

theorem inForce_concat (turns : List Turn) (turn : Turn) (disk : Disk) :
    inForce (turns ++ [turn]) disk =
      (turn.sets? (leavesAll turns disk)).getD (inForce turns disk) := by
  have disks (turns : List Turn) (held : Option String) (start : Disk) :
      (turns.foldl (fun (disk, held) turn => (turn.leaves disk, (turn.sets? disk).getD held))
        (start, held)).1 = leavesAll turns start := by
    induction turns generalizing start held with
    | nil => rfl
    | cons turn turns induction => exact induction _ _
  rw [inForce, List.foldl_append, ← disks turns none disk]
  rfl

/-- The token in force is that of the last turn that has set any. -/
theorem inForce_eq_some_iff {turns : List Turn} {disk : Disk} {token : String} :
    inForce turns disk = some token ↔
      ∃ earlier turn later, turns = earlier ++ turn :: later ∧
        turn.sets? (leavesAll earlier disk) = some (some token) ∧
        ∀ between other rest, later = between ++ other :: rest →
          other.sets? (leavesAll (earlier ++ turn :: between) disk) = none := by
  induction turns using List.reverseRecOn with
  | nil => exact ⟨nofun, fun ⟨earlier, _, _, split, _⟩ => by cases earlier <;> cases split⟩
  | append_singleton turns last induction =>
      rw [inForce_concat]
      constructor
      · intro held
        cases set : last.sets? (leavesAll turns disk) with
        | some value =>
            rw [set, Option.getD_some] at held
            refine ⟨turns, last, [], rfl, held ▸ set, fun between _ _ split => ?_⟩
            cases between <;> cases split
        | none =>
            rw [set, Option.getD_none] at held
            rcases induction.mp held with ⟨earlier, turn, later, rfl, sets, unset⟩
            refine ⟨earlier, turn, later ++ [last], List.append_assoc .., sets, ?_⟩
            intro between other rest split
            rcases append_eq_append_cons split with ⟨more, rfl, tail⟩ | ⟨more, rfl, rfl⟩
            · cases more with
              | nil =>
                  cases tail
                  rw [List.append_nil]
                  exact set
              | cons head more => cases more <;> cases tail
            · exact unset between other more rfl
      · rintro ⟨earlier, turn, later, split, sets, unset⟩
        rcases append_eq_append_cons split with ⟨more, rfl, tail⟩ | ⟨more, rfl, rfl⟩
        · cases more with
          | nil =>
              cases tail
              rw [List.append_nil] at sets
              rw [sets, Option.getD_some]
          | cons head more => cases more <;> cases tail
        · rw [unset more last [] rfl, Option.getD_none, induction]
          refine ⟨earlier, turn, more, rfl, sets, fun between other rest split => ?_⟩
          exact unset between other (rest ++ [last]) (by rw [split, List.append_assoc]; rfl)

/-! ## One turn -/

variable {directory : String} {turn : Turn} {disk : Disk} {workbook : Workbook}

theorem frame?_eq_some_iff {frame : Frame} :
    turn.frame? disk = some frame ↔
      ∃ middle, turn.invocation.frame turn.around ⟨turn.answers, [], disk⟩ =
        (.ok frame, middle) := by
  unfold frame?
  cases turn.invocation.frame turn.around ⟨turn.answers, [], disk⟩ with
  | mk result middle =>
      cases result with
      | error problem => exact ⟨nofun, nofun⟩
      | ok found =>
          constructor
          · rintro ⟨⟩
            exact ⟨middle, rfl⟩
          · rintro ⟨_, ⟨⟩⟩
            rfl

theorem run_of_no_frame (none : turn.frame? disk = none) :
    Remarked ⟨turn.answers, [], disk⟩ (turn.run disk).2 := by
  have remarks := turn.invocation.frame_remarks turn.around
  cases found : turn.invocation.frame turn.around ⟨turn.answers, [], disk⟩ with
  | mk result middle =>
      cases result with
      | error problem =>
          have ran : turn.run disk = (.error problem, middle) := bind_error found
          rw [ran]
          exact remarks.of_ran found
      | ok frame =>
          rw [frame?_eq_some_iff.mpr ⟨middle, found⟩] at none
          cases none

theorem run_of_frame {frame : Frame} (found : turn.frame? disk = some frame) :
    ∃ noted, Remarked ⟨turn.answers, [], disk⟩ noted ∧
      turn.run disk = frame.run turn.invocation.command noted := by
  rcases frame?_eq_some_iff.mp found with ⟨middle, ran⟩
  exact Invocation.run_of_frame ran

theorem requests_of_load (on : turn.On directory disk)
    (loads : SheetDirectory.load directory disk = .ok workbook) :
    ∀ request ∈ turn.requests disk, ∃ frame, turn.frame? disk = some frame ∧
      turn.invocation.command.Requests frame.client workbook.token? request := by
  intro request sent
  cases found : turn.frame? disk with
  | none =>
      rw [requests, (run_of_no_frame found).adds.requests] at sent
      cases sent
  | some frame =>
      rcases run_of_frame found with ⟨noted, remarked, ran⟩
      have loadsHere : frame.store.load noted.store = .ok workbook := by
        rw [remarked.store, on.stored frame found]
        exact loads
      rcases Frame.run_sends turn.invocation.command loadsHere with ⟨events, adds, among⟩
      rw [requests, ran, (remarked.adds.trans adds).requests] at sent
      exact ⟨frame, rfl, among request sent⟩

theorem sets?_of_leavesToken {frame : Frame} {old cell : Cell}
    (found : turn.frame? disk = some frame)
    (token : turn.invocation.command.LeavesToken (Answer.next turn.answers) (turn.run disk).1
      old cell) :
    tokenIn cell = (turn.sets? disk).getD (tokenIn old) ∧
      (turn.sets? disk = none → cell = old) := by
  unfold sets?
  rw [found]
  generalize turn.invocation.command = command, (turn.run disk).1 = result at token
  cases token with
  | loggedIn granted visible =>
      refine ⟨?_, nofun⟩
      rw [tokenIn_ofText visible, granted]
      rfl
  | loggedOut => exact ⟨rfl, nofun⟩
  | failed stays =>
      refine ⟨?_, fun _ => rfl⟩
      cases command with
      | logout => exact absurd rfl stays
      | _ => exact Option.getD_none.symm
  | other other =>
      refine ⟨?_, fun _ => rfl⟩
      cases command with
      | login | logout => cases other
      | _ => exact Option.getD_none.symm

theorem leaves_account (on : turn.On directory disk) (sound : disk.Sound)
    (loads : SheetDirectory.load directory disk = .ok workbook) (unmarked : workbook.Unmarked) :
    ∃ cell, HoldsAccount directory
        (Function.update workbook.account AuthSheet.tokenColumn cell) (turn.leaves disk) ∧
      tokenIn cell = (turn.sets? disk).getD workbook.token? ∧
      (turn.sets? disk = none → cell = workbook.account AuthSheet.tokenColumn) := by
  cases found : turn.frame? disk with
  | none =>
      refine ⟨_, ?_, ?_, fun _ => rfl⟩
      · rw [leaves, (run_of_no_frame found).store]
        exact Frame.holdsAccount_of_load sound loads unmarked
      · rw [sets?, found, workbook.token?_eq]
        exact Option.getD_none.symm
  | some frame =>
      rcases run_of_frame found with ⟨noted, remarked, ran⟩
      rcases Frame.run_leaves_account on.everyday (on.stored frame found) unmarked noted _ _
        (remarked.store ▸ sound) (remarked.store ▸ loads) ran.symm with ⟨cell, holds, token⟩
      rw [remarked.answers] at token
      rw [workbook.token?_eq]
      exact ⟨cell, holds, sets?_of_leavesToken found token⟩

/-! ## All turns -/

def AllOn (directory : String) (turns : List Turn) (disk : Disk) : Prop :=
  ∀ earlier turn later, turns = earlier ++ turn :: later →
    turn.On directory (leavesAll earlier disk)

theorem AllOn.left {turns more : List Turn} (on : AllOn directory (turns ++ more) disk) :
    AllOn directory turns disk := by
  rintro earlier turn later rfl
  refine on earlier turn (later ++ more) ?_
  rw [List.append_assoc, List.cons_append]

variable {turns : List Turn}

theorem leavesAll_account (sound : disk.Sound)
    (loads : SheetDirectory.load directory disk = .ok workbook) (unmarked : workbook.Unmarked)
    (none : workbook.token? = none) (on : AllOn directory turns disk) :
    ∃ cell, HoldsAccount directory
        (Function.update workbook.account AuthSheet.tokenColumn cell) (leavesAll turns disk) ∧
      tokenIn cell = inForce turns disk := by
  induction turns using List.reverseRecOn with
  | nil => exact ⟨_, Frame.holdsAccount_of_load sound loads unmarked, workbook.token?_eq ▸ none⟩
  | append_singleton turns turn induction =>
      rcases induction on.left with ⟨cell, ⟨soundNow, now, loadsNow, unmarkedNow, account⟩, held⟩
      rcases leaves_account (on turns turn [] rfl) soundNow loadsNow unmarkedNow with
        ⟨next, holds, token, _⟩
      rw [account, Function.update_idem] at holds
      refine ⟨next, leavesAll_concat turns turn disk ▸ holds, ?_⟩
      rw [token, now.token?_eq, account, Function.update_self, held, inForce_concat]

/-- In a directory that holds no token, whatever is run there: everything that is asked of the
gateway but the ping carries the token in force, and where none is in force nothing is asked. Only a
run that sets the token changes its cell, and no run changes another cell of the account, those of
the email and the password among them. -/
theorem token_history (sound : disk.Sound)
    (loads : SheetDirectory.load directory disk = .ok workbook) (unmarked : workbook.Unmarked)
    (noToken : trim (workbook.account AuthSheet.tokenColumn).shown = "")
    (on : AllOn directory turns disk) :
    ∀ earlier turn later, turns = earlier ++ turn :: later →
      let found := leavesAll earlier disk
      (∀ request ∈ turn.requests found, ∃ frame, turn.frame? found = some frame ∧
        turn.invocation.command.Requests frame.client (inForce earlier disk) request) ∧
      ∃ before after, SheetDirectory.load directory found = .ok before ∧
        SheetDirectory.load directory (turn.leaves found) = .ok after ∧
        before.token? = inForce earlier disk ∧
        after.token? = inForce (earlier ++ [turn]) disk ∧
        (turn.sets? found = none →
          after.account AuthSheet.tokenColumn = before.account AuthSheet.tokenColumn) ∧
        ∀ column ≠ AuthSheet.tokenColumn, after.account column = workbook.account column := by
  rintro earlier turn later rfl found
  have none : workbook.token? = none := by
    rw [workbook.token?_eq]
    exact if_pos noToken
  rcases leavesAll_account sound loads unmarked none on.left with
    ⟨cell, ⟨soundNow, before, loadsNow, unmarkedNow, account⟩, held⟩
  have token : before.token? = inForce earlier disk := by
    rw [before.token?_eq, account, Function.update_self, held]
  have onTurn := on earlier turn later rfl
  rcases leaves_account onTurn soundNow loadsNow unmarkedNow with
    ⟨next, ⟨_, after, loadsAfter, _, accountAfter⟩, tokenAfter, keeps⟩
  rw [account, Function.update_idem] at accountAfter
  refine ⟨token ▸ requests_of_load onTurn loadsNow, before, after, loadsNow, loadsAfter, token, ?_,
    fun unset => ?_, fun column other => ?_⟩
  · rw [after.token?_eq, accountAfter, Function.update_self, tokenAfter, token, inForce_concat]
  · rw [accountAfter, Function.update_self, keeps unset]
  · rw [accountAfter, Function.update_of_ne other]

/-! ## A login and a listing -/

def accountBooks : Disk where
  workingDirectory := []
  entries := [(["books"], .directory),
    (["books", "Auth.csv"], .file (.text "email,password,token\na@b.c,pw,\n"))]

def accountWorkbook : Workbook :=
  ⟨[⟨"Auth", [[.text "email", .text "password", .text "token"],
    [.text "a@b.c", .text "pw", .empty]]⟩]⟩

theorem sound_accountBooks : accountBooks.Sound := by
  refine ⟨nofun, by decide, ?_⟩
  have books : Disk.IsName "books" := by constructor <;> decide +kernel
  have auth : Disk.IsName "Auth.csv" := SheetDirectory.isName_known .auth (by decide)
  simp [accountBooks, books, auth]

def overBooks (command : Command) (answer : Answer) : Turn :=
  ⟨⟨0, none, some "books", command⟩, Invocation.bareSurroundings, [answer]⟩

def loginOverBooks : Turn :=
  overBooks (.login false)
    (.replied 200 "\x7b\"access_token\":\" a\\\"b,c\\nd \"\x7d")

def listOverBooks : Turn :=
  overBooks (.list .budgets false) (.replied 200 "[]")

theorem on_overBooks {command : Command} (everyday : command.isEveryday = true) (answer : Answer)
    (disk : Disk) : (overBooks command answer).On "books" disk := by
  refine ⟨everyday, fun frame found => ?_⟩
  have same : (overBooks command answer).frame? disk = some Invocation.booksFrame := rfl
  cases same.symm.trans found
  exact Invocation.store_booksFrame

theorem token_history_quoted :
    (listOverBooks.requests (leavesAll [loginOverBooks] accountBooks)).map (·.bearer) =
      [some "a\"b,c\nd"] := by
  have loads : SheetDirectory.load "books" accountBooks = .ok accountWorkbook := by decide +kernel
  have unmarked : accountWorkbook.Unmarked := by
    unfold Workbook.Unmarked
    decide +kernel
  have noToken : trim (accountWorkbook.account AuthSheet.tokenColumn).shown = "" := by
    decide +kernel
  have on : AllOn "books" [loginOverBooks, listOverBooks] accountBooks := by
    intro earlier turn later split
    have member : turn ∈ [loginOverBooks, listOverBooks] :=
      split ▸ List.mem_append_right _ List.mem_cons_self
    rcases List.mem_cons.mp member with rfl | last
    · exact on_overBooks rfl _ _
    · cases List.mem_singleton.mp last
      exact on_overBooks rfl _ _
  have history := token_history sound_accountBooks loads unmarked noToken on [loginOverBooks]
    listOverBooks [] rfl
  have held : inForce [loginOverBooks] accountBooks = some "a\"b,c\nd" := by decide +kernel
  have once : (listOverBooks.requests (leavesAll [loginOverBooks] accountBooks)).length = 1 := by
    decide +kernel
  rcases List.length_eq_one_iff.mp once with ⟨request, sent⟩
  rcases history.1 request (sent ▸ List.mem_cons_self) with ⟨frame, _, operation, posed, carries⟩
  cases operation with
  | listBudgets =>
      rcases carries with ⟨token, isHeld, rfl⟩
      rw [sent, List.map_singleton]
      cases held.symm.trans isHeld
      rfl
  | _ => cases posed

end Turn

end SheetPost
