import SheetPost.Gateway.Failure
import SheetPost.Gateway.Operation
import SheetPost.Workbook.Table

/-!
# Conversations

A run of the program is a conversation: it sends requests and takes the answers in the order in
which they come, writes statuses into a sheet, makes notes and prints lines. All of this is kept in
one journal, so it can be said what came before what. Next to the journal stands the store that the
run works on. A run that fails keeps the journal and the store as they were when it failed.
-/

namespace SheetPost

structure Request where
  method : Method
  url : String
  bearer : Option String
  correlated : Bool
  body : Option Json

/-- What comes back for a request. -/
inductive Answer where
  | replied (status : Nat) (body : String)
  | failed (reason : String)
  | cutOff (status : Nat) (reason : String)
deriving DecidableEq

inductive Level where
  | trace
  | debug
  | info
  | warn
deriving DecidableEq

def Level.name : Level → String
  | trace => "TRACE"
  | debug => "DEBUG"
  | info => "INFO"
  | warn => "WARN"

inductive Event where
  | requested (request : Request)
  | statusWritten (row : RowPosition) (status : String)
  | flushed
  | noted (level : Level) (text : String)
  | printed (text : String)

structure Conversation (σ : Type) where
  answers : List Answer
  journal : List Event
  store : σ

def Conversation.printed {σ : Type} (conversation : Conversation σ) : String :=
  String.join (conversation.journal.filterMap fun event => match event with
    | .printed text => some text
    | _ => none)

/-- The reply of a service, and whether its status means that the operation was done. -/
structure Reply where
  succeeded : Bool
  status : Nat
  body : String
deriving DecidableEq

abbrev Conversing (ε σ α : Type) := ExceptT ε (StateM (Conversation σ)) α

namespace Conversing

variable {ε σ : Type}

def record (event : Event) : Conversing ε σ Unit :=
  modify fun conversation => { conversation with journal := conversation.journal ++ [event] }

def note (level : Level) (text : String) : Conversing ε σ Unit :=
  record (.noted level text)

def printText (text : String) : Conversing ε σ Unit :=
  record (.printed text)

def print (line : String) : Conversing ε σ Unit :=
  printText (line ++ "\n")

/-- Send a request and take the next answer. Where none is left, none arrives. -/
def send (request : Request) : Conversing ε σ Answer := do
  record (.requested request)
  match (← get).answers with
  | [] => return .failed "no scripted response"
  | answer :: answers =>
      modify fun conversation => { conversation with answers }
      return answer

def onStore {δ α : Type} (wrap : δ → ε) (action : ExceptT δ (StateM σ) α) : Conversing ε σ α :=
  fun conversation =>
    match action conversation.store with
    | (result, store) => (result.mapError wrap, { conversation with store })

/-- Take the result of a step, whatever it is, instead of failing with it. -/
def observing {δ α : Type} (action : Conversing δ σ α) : Conversing ε σ (Except δ α) :=
  ExceptT.mk (Except.ok <$> action.run)

/-- Pass a failure on as one of another kind. -/
def failingAs {δ α : Type} (wrap : δ → ε) (action : Conversing δ σ α) : Conversing ε σ α :=
  action.adapt wrap

end Conversing

end SheetPost
