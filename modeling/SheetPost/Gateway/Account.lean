import SheetPost.Json.Reading
import SheetPost.Json.Value
import SheetPost.Text.Blank

namespace SheetPost

structure Credentials where
  email : String
  password : String
deriving DecidableEq

namespace Credentials

def body (credentials : Credentials) : Json :=
  .record [("email", .text credentials.email), ("password", .text credentials.password)]

def ofReading? (reading : Reading) : Option Credentials := do
  match ← reading.fields? ["email", "password"] with
  | [email, password] =>
      some
        { email := ← Reading.required? (·.text?) email
          password := ← Reading.required? (·.text?) password }
  | _ => none

end Credentials

def accessToken? (reading : Reading) : Option String := do
  match ← reading.fields? ["access_token"] with
  | [token] => Reading.required? (·.text?) token
  | _ => none

/-- A token, and the email of the account it was issued to where that is known. -/
structure Session where
  token : String
  email : Option String
deriving DecidableEq

namespace Session

/-- The session of a token as it was typed or sent; a blank one makes none. -/
def of? (token : String) (email : Option String) : Option Session :=
  if trim token = "" then none else some ⟨trim token, email⟩

end Session

end SheetPost
