import SheetPost.Text.Blank
import SheetPost.Workbook.Table

namespace SheetPost

inductive Outcome where
  | accepted
  | rejected (reason : String)
  | alreadyProcessed
deriving DecidableEq

namespace Outcome

def okText : String := "OK"

/-- A rejection for the reason given, or for the fallback where that is blank: a status must not
look as if the row had never been sent. -/
def rejectedFor (reason fallback : String) : Outcome :=
  if blank reason then rejected fallback else rejected reason

/-- The text for the status cell; none where the cell is to be left as it is. -/
def statusText? : Outcome → Option String
  | accepted => some okText
  | rejected reason => some reason
  | alreadyProcessed => none

def isAccepted : Outcome → Bool
  | accepted => true
  | _ => false

def isRejected : Outcome → Bool
  | rejected _ => true
  | _ => false

def isAlreadyProcessed : Outcome → Bool
  | alreadyProcessed => true
  | _ => false

def reason? : Outcome → Option String
  | rejected reason => some reason
  | _ => none

end Outcome

inductive PostingMode where
  | single
  | bulk
  | bulkFallback
deriving DecidableEq

structure Totals where
  accepted : Nat
  rejected : Nat
deriving DecidableEq

structure SyncReport where
  mode : PostingMode
  outcomes : List (RowPosition × Outcome)
  reported : Option Totals
deriving DecidableEq

namespace SyncReport

def accepted (report : SyncReport) : Nat :=
  report.outcomes.countP (·.2.isAccepted)

def rejected (report : SyncReport) : Nat :=
  report.outcomes.countP (·.2.isRejected)

def alreadyProcessed (report : SyncReport) : Nat :=
  report.outcomes.countP (·.2.isAlreadyProcessed)

def totals (report : SyncReport) : Totals :=
  ⟨report.accepted, report.rejected⟩

def rejections (report : SyncReport) : List (RowPosition × String) :=
  report.outcomes.filterMap fun entry => entry.2.reason?.map fun reason => (entry.1, reason)

/-- The outcomes together with rows that are already processed, in row order. -/
def withAlreadyProcessed (report : SyncReport) (rows : List RowPosition) : SyncReport :=
  { report with
    outcomes :=
      (report.outcomes ++ rows.map fun row => (row, Outcome.alreadyProcessed)).mergeSort
        fun first second => first.1.above ≤ second.1.above }

end SyncReport

end SheetPost
