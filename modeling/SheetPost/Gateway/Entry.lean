import SheetPost.Json.Reading
import SheetPost.Json.Value

namespace SheetPost

/-- A transaction to be created. The date is in ISO form when the sheet held a date, and the text
as typed otherwise. -/
structure NewTransaction where
  amount : Number
  category : String
  description : String
  date : String
deriving DecidableEq

structure NewBudget where
  category : String
  limit : Number
deriving DecidableEq

structure StoredTransaction where
  id : Int
  amount : Number
  category : String
  description : String
  date : String
deriving DecidableEq

structure StoredBudget where
  category : String
  limit : Number
  period : String
deriving DecidableEq

namespace NewTransaction

def body (transaction : NewTransaction) : Json :=
  .record [("amount", .number transaction.amount), ("category", .text transaction.category),
    ("date", .text transaction.date), ("description", .text transaction.description)]

def ofReading? (reading : Reading) : Option NewTransaction := do
  match ← reading.fields? ["amount", "category", "description", "date"] with
  | [amount, category, description, date] =>
      some
        { amount := ← Reading.required? (·.number?) amount
          category := ← Reading.required? (·.text?) category
          description := ← Reading.optional? (·.text?) "" description
          date := ← Reading.required? (·.text?) date }
  | _ => none

end NewTransaction

namespace NewBudget

def body (budget : NewBudget) : Json :=
  .record [("category", .text budget.category), ("limit", .number budget.limit)]

def ofReading? (reading : Reading) : Option NewBudget := do
  match ← reading.fields? ["category", "limit"] with
  | [category, limit] =>
      some
        { category := ← Reading.required? (·.text?) category
          limit := ← Reading.required? (·.number?) limit }
  | _ => none

end NewBudget

namespace StoredTransaction

def json (transaction : StoredTransaction) : Json :=
  .record [("id", .integer transaction.id), ("amount", .number transaction.amount),
    ("category", .text transaction.category), ("description", .text transaction.description),
    ("date", .text transaction.date)]

def ofReading? (reading : Reading) : Option StoredTransaction := do
  match ← reading.fields? ["id", "amount", "category", "description", "date"] with
  | [id, amount, category, description, date] =>
      some
        { id := ← Reading.required? (·.signed?) id
          amount := ← Reading.required? (·.number?) amount
          category := ← Reading.required? (·.text?) category
          description := ← Reading.optional? (·.text?) "" description
          date := ← Reading.required? (·.text?) date }
  | _ => none

end StoredTransaction

namespace StoredBudget

def json (budget : StoredBudget) : Json :=
  .record [("category", .text budget.category), ("limit", .number budget.limit),
    ("period", .text budget.period)]

def ofReading? (reading : Reading) : Option StoredBudget := do
  match ← reading.fields? ["category", "limit", "period"] with
  | [category, limit, period] =>
      some
        { category := ← Reading.required? (·.text?) category
          limit := ← Reading.required? (·.number?) limit
          period := ← Reading.optional? (·.text?) "" period }
  | _ => none

end StoredBudget

end SheetPost
