import SheetPost.Calendar.Pattern

/-!
# Grammar of a command line

A command has options and may have commands below it. The words of a command line are read from left
to right: options of a command may stand before the name of the command below it, and options that
are shared may stand behind it as well. What is wrong first is what is told. An option with a value
is judged late: at the next option of its command, or at the end of its command, after the commands
below have been judged. A word without a meaning is told at once, before an option that waits to be
judged. Only the kind of a fault is told here; the texts of faults and of help are left out.
-/

namespace SheetPost.CommandLine

inductive UsageFault where
  | helpAsked
  | versionAsked
  | nothingGiven
  | missingSubcommand
  | unknownSubcommand
  | unknownArgument
  | missingValue
  | badValue
  | unexpectedValue
  | repeated
  | missingRequirement
deriving DecidableEq

/-- Being told what was asked for is no failure. -/
def UsageFault.exitCode : UsageFault → Nat
  | helpAsked | versionAsked => 0
  | _ => 2

inductive OptionKind where
  | help
  | version
  | flag
  | tally
  | path
  | date
  | count
deriving DecidableEq

structure OptionSpec where
  name : String
  letter : Option Char
  kind : OptionKind
  /-- Whether the commands below have the option as well. -/
  shared : Bool
  /-- Another option that must be given with it. -/
  needs : Option String
deriving DecidableEq

structure CommandSpec where
  name : String
  options : List OptionSpec
  subcommands : List CommandSpec

inductive Given where
  | times (count : Nat)
  | value (text : String)
deriving DecidableEq

structure Level where
  command : String
  given : List (String × Given)
deriving DecidableEq

namespace OptionKind

def count? (text : String) : Option Nat :=
  (readNatural? text.toList).filter fun count => 0 < count ∧ count < 2 ^ 32

def date? (text : String) : Option Date :=
  DatePattern.spaced.read? text.toList

def check (kind : OptionKind) (text : String) : Except UsageFault Unit :=
  match kind with
  | date => if (date? text).isSome then .ok () else .error .badValue
  | count => if (count? text).isSome then .ok () else .error .badValue
  | _ => if text = "" then .error .missingValue else .ok ()

end OptionKind

inductive Pending where
  | none
  | waiting (option : OptionSpec)
  | held (option : OptionSpec) (text : String)

structure Progress where
  given : List (String × Given)
  pending : Pending
  wordsOnly : Bool

namespace Progress

def start : Progress := ⟨[], .none, false⟩

def settle (progress : Progress) (option : OptionSpec) (text : String) :
    Except UsageFault Progress := do
  if (progress.given.lookup option.name).isSome then throw .repeated
  option.kind.check text
  return { progress with
    given := progress.given ++ [(option.name, .value text)], pending := .none }

def resolve (progress : Progress) : Except UsageFault Progress :=
  match progress.pending with
  | .none => .ok progress
  | .waiting _ => .error .missingValue
  | .held option text => progress.settle option text

def raise (progress : Progress) (option : OptionSpec) : Except UsageFault Progress := do
  let progress ← progress.resolve
  match option.kind with
  | .help => throw .helpAsked
  | .version => throw .versionAsked
  | .tally =>
      let count := match progress.given.lookup option.name with
        | some (.times count) => min (count + 1) 255
        | _ => 1
      let others := progress.given.filter (·.1 != option.name)
      return { progress with given := others ++ [(option.name, .times count)] }
  | _ =>
      if (progress.given.lookup option.name).isSome then throw .repeated
      return { progress with given := progress.given ++ [(option.name, .times 1)] }

def takesValue (option : OptionSpec) : Bool :=
  option.kind = .path ∨ option.kind = .date ∨ option.kind = .count

def takeNamed (progress : Progress) (options : List OptionSpec) (name : String)
    (attached : Option String) : Except UsageFault Progress :=
  match options.find? (·.name == name) with
  | none => .error .unknownArgument
  | some option =>
      if takesValue option then do
        let progress ← progress.resolve
        match attached with
        | some text => progress.settle option text
        | none => return { progress with pending := .waiting option }
      else match attached with
        | some _ => .error .unexpectedValue
        | none => progress.raise option

def takeLetter (options : List OptionSpec) (progress : Progress) (letter : Char) :
    Except UsageFault Progress :=
  match options.find? (·.letter == some letter) with
  | some option => progress.raise option
  | none => .error .unknownArgument

end Progress

/-! ## Words -/

inductive Word where
  | separator
  | named (name : String) (attached : Option String)
  | letters (letters : List Char)
  | plain (text : String)

def Word.ofText (text : String) : Word :=
  match text.toList with
  | ['-', '-'] => separator
  | '-' :: '-' :: rest =>
      let name := rest.takeWhile (· != '=')
      let attached := match rest.dropWhile (· != '=') with
        | _ :: value => some (String.ofList value)
        | [] => none
      named (String.ofList name) attached
  | '-' :: letter :: rest => letters (letter :: rest)
  | _ => plain text

namespace CommandSpec

def subcommand? (spec : CommandSpec) (name : String) : Option CommandSpec :=
  spec.subcommands.find? (·.name == name)

/-- A command below another one, with the options that it shares. -/
def sharing (spec sub : CommandSpec) : CommandSpec :=
  { sub with options := sub.options ++ spec.options.filter (·.shared) }

/-- Ask for help by the names of commands; help has no commands below it. -/
def helpOn (spec : CommandSpec) : List String → UsageFault
  | [] => .helpAsked
  | name :: names =>
      match spec.subcommand? name with
      | some sub => sub.helpOn names
      | none =>
          if name = "help" ∧ !spec.subcommands.isEmpty ∧ names = [] then .helpAsked
          else .unknownSubcommand

/-- A word that is neither option nor value nor command. -/
def stray (spec : CommandSpec) (wordsOnly : Bool) (text : String) : UsageFault :=
  if wordsOnly ∧ ((spec.subcommand? text).isSome ∨ text = "help") then .unknownArgument
  else if spec.subcommands.isEmpty then .unknownArgument
  else .unknownSubcommand

/-- Close a level: judge what is pending and what is missing. -/
def close (spec : CommandSpec) (progress : Progress) (descended : Bool) :
    Except UsageFault Level := do
  let progress ← progress.resolve
  if !descended ∧ !spec.subcommands.isEmpty then
    throw (if progress.given.isEmpty then .nothingGiven else .missingSubcommand)
  let lacking := spec.options.any fun option =>
    (progress.given.lookup option.name).isSome &&
      option.needs.any fun needed => (progress.given.lookup needed).isNone
  if lacking then throw .missingRequirement
  return ⟨spec.name, progress.given⟩

def isWaiting : Pending → Bool
  | .waiting _ => true
  | _ => false

/-- The levels of a command line, from the words that follow a command. -/
def levels (spec : CommandSpec) (progress : Progress) :
    List String → Except UsageFault (List Level)
  | [] => do return [← spec.close progress false]
  | text :: rest =>
      let descent := if progress.wordsOnly || isWaiting progress.pending then none
        else spec.subcommand? text
      match descent with
      | some sub => do
          let deeper ← (spec.sharing sub).levels .start rest
          return (← spec.close progress true) :: deeper
      | none =>
          if progress.wordsOnly then .error (spec.stray true text)
          else match Word.ofText text with
            | .separator => spec.levels { progress with wordsOnly := true } rest
            | .named name attached => do
                spec.levels (← progress.takeNamed spec.options name attached) rest
            | .letters letters => do
                spec.levels (← letters.foldlM (Progress.takeLetter spec.options) progress) rest
            | .plain text =>
                match progress.pending with
                | .waiting option =>
                    spec.levels { progress with pending := .held option text } rest
                | _ =>
                    if text = "help" ∧ !spec.subcommands.isEmpty then .error (spec.helpOn rest)
                    else .error (spec.stray false text)

end CommandSpec

end SheetPost.CommandLine
