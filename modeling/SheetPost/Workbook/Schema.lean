namespace SheetPost

structure Schema where
  name : String
  columns : List String
  statusColumn : Option Nat
deriving DecidableEq

namespace Schema

def auth : Schema :=
  ⟨"Auth", ["email", "password", "token"], none⟩

def transactions : Schema :=
  ⟨"Transactions", ["amount", "category", "description", "date", "status"], some 4⟩

def budgets : Schema :=
  ⟨"Budgets", ["category", "limit", "status"], some 2⟩

def report : Schema :=
  ⟨"Report", ["Category", "Total"], none⟩

def all : List Schema := [auth, transactions, budgets, report]

example : (all.map (·.name)).Nodup := by decide
example : transactions.statusColumn = transactions.columns.idxOf? "status" := by decide
example : budgets.statusColumn = budgets.columns.idxOf? "status" := by decide

end Schema

end SheetPost
