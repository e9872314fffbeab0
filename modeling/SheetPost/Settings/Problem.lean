import SheetPost.Gateway.Conversation

namespace SheetPost

inductive Problem where
  | said (text : String)
  | failed (failure : Failure)
  | store (error : StoreError)
  | during (activity : String) (problem : Problem)

namespace Problem

def messageWith (words : StoreError → String) : Problem → String
  | said text => text
  | failed failure => failure.message
  | store error => words error
  | during activity problem => activity ++ ": " ++ problem.messageWith words

def fullMessage : Problem → String :=
  messageWith StoreError.fullMessage

/-- The message that does not tell what a spreadsheet file has no place for, unless the status of a
row could not be written for it. -/
def message : Problem → String :=
  messageWith StoreError.message

def failure? : Problem → Option Failure
  | failed failure => some failure
  | during _ problem => problem.failure?
  | _ => none

def overflow? : Problem → Option DayCountOverflow
  | store error => error.overflow?
  | failed (.statusNotWritten error) => error.overflow?
  | during _ problem => problem.overflow?
  | _ => none

end Problem

end SheetPost
