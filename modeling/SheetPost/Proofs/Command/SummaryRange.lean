import SheetPost.Proofs.Calendar.Formats
import SheetPost.Proofs.Command.Requests
import SheetPost.Proofs.Gateway.Query

namespace SheetPost

open Conversation Conversing

/-! ## The range in an address -/

theorem Date.read?_text (date : Date) : DatePattern.iso.read? date.text.toList = some date := by
  rw [Date.text, String.toList_ofList]
  exact DateFormat.hyphened.read?_write date

theorem Date.text_injective : Function.Injective Date.text := by
  intro first second same
  have read := first.read?_text
  rw [same, second.read?_text] at read
  exact (Option.some.inj read).symm

theorem Client.range_of_url {client : Client} {bearer otherBearer : Option String}
    {first last otherFirst otherLast : Date}
    (same : (client.request (.reportSummary first last) bearer).url =
      (client.request (.reportSummary otherFirst otherLast) otherBearer).url) :
    first = otherFirst ∧ last = otherLast := by
  have paths : (Operation.reportSummary first last).path =
      (Operation.reportSummary otherFirst otherLast).path := (String.append_right_inj _).mp same
  have read := Operation.parameters_reportSummary first last
  rw [paths, Operation.parameters_reportSummary] at read
  simp only [List.cons.injEq, Prod.mk.injEq, Option.some.injEq, true_and, and_true] at read
  exact ⟨(Date.text_injective read.1).symm, (Date.text_injective read.2).symm⟩

/-! ## Steps that send given requests -/

namespace Conversing

variable {ε δ σ α β : Type}

def SendsJust (requests : List Request) (step : Conversing ε σ α) (before : Conversation σ) :
    Prop :=
  ∃ events, Adds before (step before).2 events ∧ requestsIn events = requests

variable {requests : List Request} {before : Conversation σ}

theorem Sends.nothing {step : Conversing ε σ α} (quiet : Sends (fun _ => False) step)
    (before : Conversation σ) : SendsJust [] step before := by
  rcases quiet before with ⟨events, adds, none⟩
  exact ⟨events, adds, List.eq_nil_iff_forall_not_mem.mpr none⟩

theorem SendsJust.failingAs {wrap : δ → ε} {step : Conversing δ σ α}
    (sends : SendsJust requests step before) :
    SendsJust requests (failingAs wrap step : Conversing ε σ α) before := by
  cases ran : step before with
  | mk result after =>
      rw [SendsJust, ran] at sends
      rw [SendsJust, failingAs_apply wrap ran]
      exact sends

theorem SendsJust.then_quiet {first : Conversing ε σ α} {next : α → Conversing ε σ β}
    (sends : SendsJust requests first before)
    (quiet : ∀ value, Sends (fun _ => False) (next value)) :
    SendsJust requests (first >>= next) before := by
  rcases sends with ⟨events, adds, rfl⟩
  cases ran : first before with
  | mk result middle =>
      rw [ran] at adds
      cases result with
      | error error =>
          rw [SendsJust, bind_error ran]
          exact ⟨events, adds, rfl⟩
      | ok value =>
          rw [SendsJust, bind_ok ran]
          rcases (quiet value).nothing middle with ⟨more, addsLater, none⟩
          refine ⟨events ++ more, adds.trans addsLater, ?_⟩
          rw [requestsIn_append, none, List.append_nil]

theorem SendsJust.execute (client : Client) (operation : Operation) (session : Session)
    (before : Conversation σ) :
    SendsJust [client.sessionRequest operation session]
      (client.execute operation (some session) : Conversing Failure σ Reply) before := by
  rcases client.execute_apply operation session before with ⟨after, ran, _, _, adds⟩
  rw [SendsJust, ran]
  exact ⟨_, adds, rfl⟩

end Conversing

/-! ## The report command -/

namespace Frame

/-- The range of a report: the ends that are given, and those of the current month for the others. -/
def summaryRange (frame : Frame) (first? last? : Option Date) : Date × Date :=
  (first?.getD frame.surroundings.today.monthRange.1,
    last?.getD frame.surroundings.today.monthRange.2)

def storedToken? (frame : Frame) (disk : Disk) : Option String :=
  (frame.store.load disk).toOption.bind Workbook.token?

def summaryRequests (frame : Frame) (range : Date × Date) (disk : Disk) : List Request :=
  if range.1 ≤ range.2 then
    (frame.storedToken? disk).toList.map fun token =>
      frame.client.request (.reportSummary range.1 range.2) (some token)
  else []

theorem fetchSummary_sendsJust (frame : Frame) (session : Session) (first last : Date)
    (before : Conversation Disk) :
    SendsJust [frame.client.request (.reportSummary first last) (some session.token)]
      (failingAs .failed (frame.client.fetchSummary session first last) :
        Running (List CategoryTotal)) before := by
  refine (SendsJust.execute frame.client _ session before).then_quiet (fun reply => ?_) |>.failingAs
  split
  · exact ((Remarks.of_result _).bind fun _ =>
      (Remarks.note _ _).bind fun _ => .of_result (.ok _)).sends
  · exact (Remarks.of_result (.error _)).sends

section Token

variable {α : Type} {request : String → Request} {before : Conversation Disk}

theorem session_sendsJust (workbook : Workbook) {next : Session → Running α}
    (later : ∀ session, SendsJust [request session.token] (next session) before) :
    SendsJust (workbook.token?.toList.map request) (session workbook >>= next) before := by
  unfold session Workbook.token?
  cases AuthSheet.session? (workbook.sheetFor .auth) with
  | none => exact ⟨[], .refl before, rfl⟩
  | some session => exact later session

theorem load_sendsJust (frame : Frame) {next : Workbook → Running α}
    (later : ∀ workbook,
      SendsJust (workbook.token?.toList.map request) (next workbook) before) :
    SendsJust ((frame.storedToken? before.store).toList.map request) (frame.load >>= next)
      before := by
  unfold storedToken?
  cases loads : frame.store.load before.store with
  | error error =>
      rcases load_error loads with ⟨problem, failed⟩
      rw [SendsJust, bind_error failed]
      exact ⟨[], .refl before, rfl⟩
  | ok workbook =>
      have stored : (Except.ok workbook : Except StoreError Workbook).toOption = some workbook := rfl
      rw [SendsJust, bind_ok (load_apply loads), stored, Option.bind_some]
      exact later workbook

end Token

theorem report_sendsJust (frame : Frame) (first? last? : Option Date)
    (before : Conversation Disk) :
    SendsJust (frame.summaryRequests (frame.summaryRange first? last?) before.store)
      (frame.report first? last?) before := by
  unfold report summaryRequests summaryRange
  dsimp only
  generalize first?.getD frame.surroundings.today.monthRange.1 = first
  generalize last?.getD frame.surroundings.today.monthRange.2 = last
  by_cases inOrder : first ≤ last
  · rw [if_pos inOrder, if_neg (not_not.mpr inOrder)]
    refine frame.load_sendsJust fun workbook => ?_
    refine session_sendsJust workbook fun session => ?_
    refine (frame.fetchSummary_sendsJust session first last before).then_quiet fun totals => ?_
    exact .bind (.onStore _ _) fun _ => (print_remarks _).sends
  · rw [if_neg inOrder, if_pos inOrder]
    exact (Remarks.of_result (.error _)).sends.nothing before

/-- The query of a summary gives back the texts of its two dates, which spell the dates, so no two
ranges share an address. A report asks for its range if it is in order, and for nothing else. -/
theorem report_asksForRange (frame : Frame) :
    (∀ first last : Date,
      Query.parameters (Operation.reportSummary first last).path =
          [("from", some first.text), ("to", some last.text)] ∧
        DatePattern.iso.read? first.text.toList = some first ∧
        DatePattern.iso.read? last.text.toList = some last) ∧
    (∀ bearer otherBearer first last otherFirst otherLast,
      (frame.client.request (.reportSummary first last) bearer).url =
          (frame.client.request (.reportSummary otherFirst otherLast) otherBearer).url →
        first = otherFirst ∧ last = otherLast) ∧
    ∀ first? last? before, ∃ events,
      Adds before (frame.run (.report first? last?) before).2 events ∧
        requestsIn events =
          frame.summaryRequests (frame.summaryRange first? last?) before.store ∧
        ∀ request ∈ requestsIn events,
          (frame.summaryRange first? last?).1 ≤ (frame.summaryRange first? last?).2 := by
  refine ⟨fun first last => ?_, fun _ _ _ _ _ _ => Client.range_of_url, ?_⟩
  · exact ⟨Operation.parameters_reportSummary first last, first.read?_text, last.read?_text⟩
  · intro first? last? before
    rcases frame.report_sendsJust first? last? before with ⟨events, adds, sent⟩
    refine ⟨events, adds, sent, fun request member => ?_⟩
    rw [sent, summaryRequests] at member
    by_contra backwards
    rw [if_neg backwards] at member
    cases member

/-- From the last day of the year -1 to the first of the year 12000, and the other way round. -/
theorem report_asksForRange_signs :
    let first : Date := ⟨-1, 12, 31, by decide⟩
    let last : Date := ⟨12000, 1, 1, by decide⟩
    let start := Invocation.booksStart
    (Operation.reportSummary first last).path =
        "/api/reports/summary?from=-0001-12-31&to=%2B12000-01-01" ∧
      Query.parameters (Operation.reportSummary first last).path =
        [("from", some "-0001-12-31"), ("to", some "+12000-01-01")] ∧
      (∃ events, Adds start (Invocation.booksFrame.run (.report first last) start).2 events ∧
        (requestsIn events).map (·.url) =
          ["http://localhost:8080/api/reports/summary?from=-0001-12-31&to=%2B12000-01-01"]) ∧
      ∃ events, Adds start (Invocation.booksFrame.run (.report last first) start).2 events ∧
        requestsIn events = [] := by
  intro first last start
  have ⟨values, _, sends⟩ := Invocation.booksFrame.report_asksForRange
  have spelled : first.text = "-0001-12-31" ∧ last.text = "+12000-01-01" := by decide +kernel
  have stored : Invocation.booksFrame.storedToken? start.store = some "tok" := by
    have loads : Invocation.booksFrame.store.load start.store = .ok Invocation.booksWorkbook := by
      rw [Invocation.store_booksFrame]
      exact Invocation.load_books
    rw [storedToken?, loads]
    decide +kernel
  refine ⟨by decide +kernel, ?_, ?_, ?_⟩
  · rw [(values first last).1, spelled.1, spelled.2]
  · rcases sends (some first) (some last) start with ⟨events, adds, sent, _⟩
    refine ⟨events, adds, ?_⟩
    rw [sent, summaryRequests, stored]
    decide +kernel
  · rcases sends (some last) (some first) start with ⟨events, adds, sent, _⟩
    refine ⟨events, adds, ?_⟩
    rw [sent, summaryRequests]
    exact if_neg (by decide)

end Frame

end SheetPost
