import SheetPost.Store.StoreError
import SheetPost.Text.Digit

namespace SheetPost

inductive BatchViolation where
  | outside (index : Int) (submitted : Nat)
  | repeated (index : Nat)
deriving DecidableEq

def BatchViolation.message : BatchViolation → String
  | outside index submitted =>
      "error index " ++ integerText index ++ " is outside the submitted batch of " ++
        integerText submitted ++ " records"
  | repeated index => "error index " ++ integerText index ++ " is reported more than once"

inductive ExpectedBody where
  | bulkImport
  | login
  | reportSummary
deriving DecidableEq

def ExpectedBody.name : ExpectedBody → String
  | bulkImport => "bulk import"
  | login => "login"
  | reportSummary => "report summary"

inductive BodyDefect where
  | cutOff (status : Nat) (reason : String)
  | malformed (expected : ExpectedBody)
  | blankToken
deriving DecidableEq

def BodyDefect.message : BodyDefect → String
  | cutOff status reason =>
      "failed to read HTTP " ++ integerText status ++ " body: " ++ reason
  | malformed expected => expected.name ++ ": " ++ Format.json.complaint
  | blankToken => ExpectedBody.login.name ++ ": access_token is empty"

inductive Failure where
  | authFailure (body : String)
  | missingSession
  | batchFailure (status : Nat) (body : String)
  | protocolViolation (violation : BatchViolation)
  | requestFailed (status : Nat) (body : String)
  | invalidResponse (defect : BodyDefect)
  | transport (reason : String)
  | statusNotWritten (error : StoreError)
deriving DecidableEq

namespace Failure

def message : Failure → String
  | authFailure body => "Authentication failed: " ++ body
  | missingSession => "Token missing from the Auth sheet. Run `ledger-sync auth login` first"
  | batchFailure status body =>
      "Bulk import failed (HTTP " ++ integerText status ++ "): " ++ body
  | protocolViolation violation =>
      "Gateway response does not match the submitted batch: " ++ violation.message
  | requestFailed status body => "Request failed (HTTP " ++ integerText status ++ "): " ++ body
  | invalidResponse defect => "Unexpected response body: " ++ defect.message
  | transport reason => "Transport error: " ++ reason
  | statusNotWritten error => "Failed to write row status: " ++ error.fullMessage

end Failure

end SheetPost
