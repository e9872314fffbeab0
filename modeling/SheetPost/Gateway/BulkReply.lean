import SheetPost.Json.Reading

namespace SheetPost

/-- One rejected item. The index is what the gateway sent, so it need not be a place in the
request. -/
structure BulkComplaint where
  index : Int
  reason : String
deriving DecidableEq

structure BulkReply where
  accepted : Nat
  rejected : Nat
  complaints : List BulkComplaint
deriving DecidableEq

namespace BulkReply

def complaint? (reading : Reading) : Option BulkComplaint := do
  match ← reading.fields? ["index", "error"] with
  | [index, reason] =>
      some
        { index := ← Reading.required? (·.signed?) index
          reason := ← Reading.required? (·.text?) reason }
  | _ => none

def ofReading? (reading : Reading) : Option BulkReply := do
  match ← reading.fields? ["accepted", "rejected", "errors"] with
  | [accepted, rejected, complaints] =>
      some
        { accepted := ← Reading.optional? (·.count?) 0 accepted
          rejected := ← Reading.optional? (·.count?) 0 rejected
          complaints := ← Reading.optional? (·.list? complaint?) [] complaints }
  | _ => none

def ofText? (body : String) : Option BulkReply :=
  (Reading.ofText? body).bind ofReading?

end BulkReply

end SheetPost
