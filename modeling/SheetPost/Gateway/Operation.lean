import SheetPost.Calendar.Pattern
import SheetPost.Gateway.Account
import SheetPost.Gateway.Entry
import SheetPost.Gateway.Query

namespace SheetPost

inductive Service where
  | auth
  | gateway
deriving DecidableEq

inductive Method where
  | get
  | post
deriving DecidableEq

def Method.name : Method → String
  | get => "GET"
  | post => "POST"

inductive Operation where
  | register (credentials : Credentials)
  | login (credentials : Credentials)
  | createTransaction (transaction : NewTransaction)
  | createBudget (budget : NewBudget)
  /-- Many transactions in one request, with a hint how many workers to put on them. -/
  | bulkImport (transactions : List NewTransaction) (workers : Nat)
  | reportSummary (first last : Date)
  | listTransactions
  | listBudgets
  | ping
deriving DecidableEq

namespace Operation

def name : Operation → String
  | register _ => "register"
  | login _ => "login"
  | createTransaction _ => "create_transaction"
  | createBudget _ => "create_budget"
  | bulkImport .. => "bulk_import_transactions"
  | reportSummary .. => "report_summary"
  | listTransactions => "list_transactions"
  | listBudgets => "list_budgets"
  | ping => "ping"

def service : Operation → Service
  | register _ | login _ => .auth
  | _ => .gateway

def method : Operation → Method
  | reportSummary .. | listTransactions | listBudgets | ping => .get
  | _ => .post

def path : Operation → String
  | register _ => "/auth/register"
  | login _ => "/auth/login"
  | createTransaction _ | listTransactions => "/api/transactions"
  | createBudget _ | listBudgets => "/api/budgets"
  | bulkImport _ workers => "/api/transactions/bulk?workers=" ++ integerText workers
  | reportSummary first last =>
      "/api/reports/summary?from=" ++ queryValue first.text ++ "&to=" ++ queryValue last.text
  | ping => "/ping"

def body : Operation → Option Json
  | register credentials | login credentials => some credentials.body
  | createTransaction transaction => some transaction.body
  | createBudget budget => some budget.body
  | bulkImport transactions _ => some (.list (transactions.map (·.body)))
  | reportSummary .. | listTransactions | listBudgets | ping => none

def requiresSession : Operation → Bool
  | register _ | login _ | ping => false
  | _ => true

def successStatuses : Operation → List Nat
  | register _ => [200, 201]
  | createTransaction _ | createBudget _ => [201]
  | _ => [200]

def succeeds (operation : Operation) (status : Nat) : Bool :=
  operation.successStatuses.contains status

end Operation

end SheetPost
