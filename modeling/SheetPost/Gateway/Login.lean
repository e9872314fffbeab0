import SheetPost.Gateway.AuthSheet
import SheetPost.Gateway.Client

namespace SheetPost.Client

def register {σ : Type} (client : Client) (credentials : Credentials) :
    Conversing Failure σ Unit := do
  let reply ← client.execute (.register credentials) none
  if reply.succeeded then
    Conversing.note .info ("Registered " ++ credentials.email)
  else
    throw (.authFailure reply.body)

/-- The session that the reply to a login grants. -/
def sessionOfReply (credentials : Credentials) (reply : Reply) : Except Failure Session :=
  if reply.succeeded then
    match (Reading.ofText? reply.body).bind accessToken? with
    | some token =>
        match Session.of? token (some credentials.email) with
        | some session => .ok session
        | none => .error (.invalidResponse .blankToken)
    | none => .error (.invalidResponse (.malformed .login))
  else .error (.authFailure reply.body)

def login {σ : Type} (client : Client) (credentials : Credentials) :
    Conversing Failure σ Session := do
  let reply ← client.execute (.login credentials) none
  ExceptT.mk (pure (sessionOfReply credentials reply))

def loginAndStore {σ : Type} (client : Client) (credentials : Credentials) (sheet : Table) :
    Conversing Failure σ (Session × Table) := do
  let session ← client.login credentials
  Conversing.note .info ("Logged in as " ++ credentials.email)
  return (session, AuthSheet.storeSession session sheet)

end SheetPost.Client
