import SheetPost.Proofs.Command.Saving
import SheetPost.Proofs.Command.Separation
import SheetPost.Proofs.Posting.Fallback
import SheetPost.Proofs.Settings.Layers

namespace SheetPost

open Conversation Conversing Settings

/-! ## The command line as a layer -/

def switch (on : Bool) : Option Bool :=
  if on then some true else none

namespace Invocation

def layer (invocation : Invocation) : Layer :=
  let shared := { Layer.silent with workbook := invocation.workbook }
  match invocation.command with
  | .syncTransactions flags =>
      { shared with
        workers := flags.workers
        skipProcessed := switch flags.skipProcessed
        fallback := switch flags.fallback }
  | .syncBudgets skipProcessed => { shared with skipProcessed := switch skipProcessed }
  | _ => shared

end Invocation

/-! ## Requests for a workbook -/

/-- These requests go out to post a workbook: none without a session or without anything to send,
and otherwise those for what is to be sent. -/
inductive PostedSheet.AsksFor (kind : PostedSheet) (client : Client) (workbook : Workbook)
    (skips : Bool) (options : SyncOptions) (answers : List Answer) : List Request → Prop
  | closed (missing : AuthSheet.session? (workbook.sheetFor .auth) = none) :
      AsksFor kind client workbook skips options answers []
  | nothing (empty : (kind.extraction workbook skips).isEmpty = true) :
      AsksFor kind client workbook skips options answers []
  | posted {session : Session} {requests : List Request}
      (held : AuthSheet.session? (workbook.sheetFor .auth) = some session)
      (filled : (kind.extraction workbook skips).isEmpty = false)
      (asks : kind.Asks ⟨client, session⟩ (kind.extraction workbook skips) options answers
        requests) :
      AsksFor kind client workbook skips options answers requests

theorem PostedSheet.AsksFor.asks {kind : PostedSheet} {client : Client} {workbook : Workbook}
    {skips : Bool} {options : SyncOptions} {answers : List Answer} {requests : List Request}
    {session : Session} (asksFor : kind.AsksFor client workbook skips options answers requests)
    (held : AuthSheet.session? (workbook.sheetFor .auth) = some session)
    (filled : (kind.extraction workbook skips).isEmpty = false) :
    kind.Asks ⟨client, session⟩ (kind.extraction workbook skips) options answers requests := by
  cases asksFor with
  | closed missing => cases missing.symm.trans held
  | nothing empty => cases empty.symm.trans filled
  | posted heldToo _ asks =>
      cases held.symm.trans heldToo
      exact asks

namespace Frame

open PostedSheet

variable {frame : Frame} {workbook : Workbook} {before : Conversation Disk} {kind : PostedSheet}

end Frame

/-! ## Addresses -/

/-- A request goes out for what the command is about, to the address of the service that it is for,
and asks for so many workers where it asks for workers. -/
def Command.Addresses (command : Command) (authUrl gatewayUrl : String) (workers : Nat)
    (request : Request) : Prop :=
  ∃ operation, command.Poses operation ∧
    (∀ records hint, operation = .bulkImport records hint → hint = workers) ∧
    request.url = withoutSlashes (match operation.service with
      | .auth => authUrl
      | .gateway => gatewayUrl) ++ operation.path

theorem Client.url_request (client : Client) (operation : Operation) (bearer : Option String) :
    (client.request operation bearer).url = withoutSlashes (match operation.service with
      | .auth => client.authUrl
      | .gateway => client.gatewayUrl) ++ operation.path :=
  rfl

theorem Command.Requests.addresses {command : Command} {client : Client} {token : Option String}
    {request : Request} {workers : Nat} (asks : command.Requests client token request)
    (single : ∀ flags, command ≠ .syncTransactions flags) :
    command.Addresses client.authUrl client.gatewayUrl workers request := by
  rcases asks with ⟨operation, poses, carries⟩
  refine ⟨operation, poses, ?_, ?_⟩
  · rintro records hint rfl
    cases command with
    | syncTransactions flags => exact absurd rfl (single flags)
    | list listing json => cases listing <;> cases poses
    | _ => cases poses
  · unfold Client.Carries at carries
    split at carries
    · rcases carries with ⟨_, _, rfl⟩
      exact client.url_request operation _
    · rw [carries]
      exact client.url_request operation _

theorem Operation.path_bulk {operation : Operation} {text : String}
    (same : operation.path = "/api/transactions/bulk?workers=" ++ text) :
    ∃ records workers, operation = .bulkImport records workers ∧ text = integerText workers := by
  have begins : operation.path.toList.take 18 = "/api/transactions/".toList := by
    rw [same, String.toList_append, List.take_append_of_le_length (by decide +kernel)]
    decide +kernel
  have others : ∀ path ∈ ["/auth/register", "/auth/login", "/api/transactions", "/api/budgets",
      "/ping"], path.toList.take 18 ≠ "/api/transactions/".toList := by
    decide +kernel
  cases operation with
  | bulkImport records workers =>
      have joined : "/api/transactions/bulk?workers=" ++ integerText workers =
          "/api/transactions/bulk?workers=" ++ text := same
      exact ⟨records, workers, rfl, ((String.append_right_inj _).mp joined).symm⟩
  | reportSummary first last =>
      change (_ ++ _ ++ _ ++ _ : String).toList.take 18 = _ at begins
      rw [String.append_assoc, String.append_assoc, String.toList_append,
        List.take_append_of_le_length (by decide +kernel)] at begins
      exact absurd begins (by decide +kernel)
  | register => exact absurd begins (others "/auth/register" (by decide))
  | login => exact absurd begins (others "/auth/login" (by decide))
  | createTransaction | listTransactions =>
      exact absurd begins (others "/api/transactions" (by decide))
  | createBudget | listBudgets => exact absurd begins (others "/api/budgets" (by decide))
  | ping => exact absurd begins (others "/ping" (by decide))

theorem Command.Poses.service {command : Command} {operation : Operation}
    (poses : command.Poses operation) (asks : command.asksGateway = true) :
    operation.service = .gateway := by
  cases operation with
  | register credentials | login credentials =>
      cases command with
      | register | login => cases asks
      | list listing json => cases listing <;> cases poses
      | _ => cases poses
  | _ => rfl

theorem Command.Addresses.bulk {command : Command} {authUrl gatewayUrl text : String} {workers : Nat}
    {request : Request} (addresses : command.Addresses authUrl gatewayUrl workers request)
    (asks : command.asksGateway = true)
    (same : request.url =
      withoutSlashes gatewayUrl ++ "/api/transactions/bulk?workers=" ++ text) :
    text = integerText workers := by
  rcases addresses with ⟨operation, poses, hint, url⟩
  rw [poses.service asks] at url
  rw [url, String.append_assoc] at same
  rcases Operation.path_bulk ((String.append_right_inj _).mp same) with
    ⟨records, given, isBulk, rfl⟩
  rw [hint records given isBulk]

namespace Frame

variable {frame : Frame} {workbook : Workbook} {before : Conversation Disk}

end Frame

/-! ## A run under the settings in force -/

def Settings.client (settings : Settings) : Client where
  authUrl := settings.authUrl
  gatewayUrl := settings.gatewayUrl
  correlationIds := settings.correlationIds
  requestLogging := settings.requestLogging

namespace Invocation

variable {invocation : Invocation} {around : Surroundings} {before : Conversation Disk}
variable {fields : Toml.Fields}

def settings (invocation : Invocation) (around : Surroundings) (fields : Toml.Fields) : Settings :=
  inForce [invocation.layer, .ofEnvironment around.environment, .ofFile fields]

end Invocation

end SheetPost
