import SheetPost.Gateway.Client
import SheetPost.Workbook.Workbook

namespace SheetPost

structure CategoryTotal where
  category : String
  total : Number
deriving DecidableEq

def summaryOfText (body : String) : Except Failure (List CategoryTotal) :=
  match (Reading.ofText? body).bind (·.totals?) with
  | some totals => .ok (totals.map fun entry => ⟨entry.1, entry.2⟩)
  | none => .error (.invalidResponse (.malformed .reportSummary))

def renderSummary (totals : List CategoryTotal) (sheet : Table) : Table :=
  { sheet with
    rows :=
      Schema.report.columns.map Cell.ofText ::
        totals.map fun entry => [Cell.ofText entry.category, .number entry.total] }

def Client.fetchSummary {σ : Type} (client : Client) (session : Session) (first last : Date) :
    Conversing Failure σ (List CategoryTotal) := do
  let reply ← client.execute (.reportSummary first last) session
  if reply.succeeded then
    let totals ← ExceptT.mk (pure (summaryOfText reply.body))
    Conversing.note .debug ("Report summary has " ++ integerText totals.length ++ " categories")
    return totals
  else throw (.requestFailed reply.status reply.body)

end SheetPost
