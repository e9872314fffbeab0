import SheetPost.Gateway.Conversation

namespace SheetPost

structure Client where
  authUrl : String
  gatewayUrl : String
  correlationIds : Bool
  requestLogging : Bool

/-- An address without slashes at its end. -/
def withoutSlashes (url : String) : String :=
  String.ofList (url.toList.reverse.dropWhile (· == '/')).reverse

namespace Client

def base (client : Client) (service : Service) : String :=
  withoutSlashes (match service with
    | .auth => client.authUrl
    | .gateway => client.gatewayUrl)

/-- The token that an operation carries, if the session it needs is there. -/
def bearer? (operation : Operation) (session : Option Session) :
    Except Failure (Option String) :=
  if operation.requiresSession then
    match session with
    | some session => .ok (some session.token)
    | none => .error .missingSession
  else .ok none

def request (client : Client) (operation : Operation) (bearer : Option String) : Request :=
  { method := operation.method
    url := client.base operation.service ++ operation.path
    bearer
    correlated := client.correlationIds
    body := operation.body }

/-- What an answer means for the operation that asked for it. -/
def classify (operation : Operation) : Answer → Except Failure Reply
  | .replied status body => .ok ⟨operation.succeeds status, status, body⟩
  | .failed reason => .error (.transport reason)
  | .cutOff status reason => .error (.invalidResponse (.cutOff status reason))

def noteHead (operation : Operation) : String :=
  "[<id>] " ++ operation.method.name ++ " " ++ operation.path

def noteRequest {ε σ : Type} (client : Client) (level : Level) (text : String) :
    Conversing ε σ Unit :=
  if client.requestLogging then Conversing.note level text else pure ()

def noteReply {ε σ : Type} (client : Client) (operation : Operation) :
    Except Failure Reply → Conversing ε σ Unit
  | .ok reply => do
      client.noteRequest .debug
        (noteHead operation ++ " -> " ++ integerText reply.status ++ " in <t>ms")
      client.noteRequest .trace ("[<id>] response body: " ++ reply.body)
  | .error failure =>
      Conversing.note .warn (noteHead operation ++ " failed after <t>ms: " ++ failure.message)

def execute {σ : Type} (client : Client) (operation : Operation) (session : Option Session) :
    Conversing Failure σ Reply := do
  let bearer ← ExceptT.mk (pure (bearer? operation session))
  client.noteRequest .debug (noteHead operation ++ " (" ++ operation.name ++ ")")
  let answer ← Conversing.send (client.request operation bearer)
  let result := classify operation answer
  client.noteReply operation result
  ExceptT.mk (pure result)

end Client

end SheetPost
