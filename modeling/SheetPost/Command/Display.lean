import SheetPost.Gateway.Summary
import SheetPost.Posting.Outcome

namespace SheetPost.Display

def blanks (count : Nat) : String :=
  String.ofList (List.replicate count ' ')

def alignLeft (width : Nat) (text : String) : String :=
  text ++ blanks (width - text.length)

def alignRight (width : Nat) (text : String) : String :=
  blanks (width - text.length) ++ text

def columns (entries : List String) : String :=
  "  ".intercalate entries

/-! ## Posting -/

def modeName : PostingMode → String
  | .single => "per-record"
  | .bulk => "bulk"
  | .bulkFallback => "per-record after bulk failure"

def reportLines (sheet : String) (report : SyncReport) : List String :=
  let already := report.alreadyProcessed
  ["", "Synced " ++ sheet ++ " (" ++ modeName report.mode ++ ")",
    "  accepted: " ++ integerText report.accepted,
    "  rejected: " ++ integerText report.rejected] ++
    (if already = 0 then [] else ["  already processed: " ++ integerText already]) ++
    (match report.reported with
      | some totals =>
          ["  gateway reported: accepted " ++ integerText totals.accepted ++ ", rejected " ++
            integerText totals.rejected]
      | none => []) ++
    report.rejections.map fun entry => "  ✗ row " ++ toString entry.1 ++ ": " ++ trim entry.2

def nothingToPost (sheet : String) (alreadyProcessed : Nat) : String :=
  if alreadyProcessed = 0 then "• No eligible rows in " ++ sheet
  else
    "✓ No pending rows in " ++ sheet ++ " (" ++ integerText alreadyProcessed ++
      " already processed)"

/-! ## The summary -/

/-- The lines of a summary. The categories take as much room as the longest of them has bytes. -/
def summaryLines (first last : Date) (totals : List CategoryTotal) : List String :=
  let width := totals.foldl (fun width entry => max width entry.category.utf8ByteSize) 0
  ("Report " ++ first.text ++ " to " ++ last.text) ::
    if totals.isEmpty then ["  no transactions in range"]
    else totals.map fun entry =>
      "  " ++ columns [alignLeft width entry.category, entry.total.cellText]

/-! ## Lists -/

def transactionColumns (id date amount category description : String) : String :=
  columns [alignRight 6 id, alignLeft 10 date, alignRight 12 amount, alignLeft 16 category,
    description]

def transactionLines (transactions : List StoredTransaction) : List String :=
  if transactions.isEmpty then ["No transactions"]
  else
    transactionColumns "ID" "DATE" "AMOUNT" "CATEGORY" "DESCRIPTION" ::
      (transactions.map fun transaction =>
        transactionColumns (integerText transaction.id) transaction.date
          transaction.amount.cellText transaction.category transaction.description) ++
      [integerText transactions.length ++ " transactions"]

def budgetColumns (category limit period : String) : String :=
  columns [alignLeft 16 category, alignRight 12 limit, period]

def budgetLines (budgets : List StoredBudget) : List String :=
  if budgets.isEmpty then ["No budgets"]
  else
    budgetColumns "CATEGORY" "LIMIT" "PERIOD" ::
      budgets.map fun budget => budgetColumns budget.category budget.limit.cellText budget.period

end SheetPost.Display
