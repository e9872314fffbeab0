import SheetPost.Gateway.BulkReply
import SheetPost.Gateway.Failure
import SheetPost.Posting.Outcome

namespace SheetPost

/-- The complaints sorted by place: those already accepted, as pairs of a place and a reason. -/
abbrev Reasons := List (Nat × String)

def addComplaint (submitted : Nat) (reasons : Reasons) (complaint : BulkComplaint) :
    Except BatchViolation Reasons :=
  if complaint.index < 0 ∨ (submitted : Int) ≤ complaint.index then
    .error (.outside complaint.index submitted)
  else
    let index := complaint.index.toNat
    if (reasons.lookup index).isSome then .error (.repeated index)
    else .ok ((index, complaint.reason) :: reasons)

def gatherReasons (submitted : Nat) (complaints : List BulkComplaint) :
    Except BatchViolation Reasons :=
  complaints.foldlM (addComplaint submitted) []

def outcomeAt (reasons : Reasons) (index : Nat) : Outcome :=
  match reasons.lookup index with
  | some reason => .rejectedFor reason ("rejected by gateway (item " ++ integerText index ++ ")")
  | none => .accepted

/-- One outcome for each row that was sent, in the order of the rows. -/
def reconcile (rows : List RowPosition) (reply : BulkReply) :
    Except BatchViolation (List (RowPosition × Outcome)) := do
  let reasons ← gatherReasons rows.length reply.complaints
  return rows.zipIdx.map fun entry => (entry.1, outcomeAt reasons entry.2)

end SheetPost
