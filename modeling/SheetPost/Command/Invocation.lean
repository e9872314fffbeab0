import SheetPost.Command.Grammar

namespace SheetPost

inductive Listing where
  | transactions
  | budgets
deriving DecidableEq

structure PostingFlags where
  bulk : Bool
  workers : Option Nat
  fallback : Bool
  skipProcessed : Bool
deriving DecidableEq

inductive Command where
  | register
  | login (prompt : Bool)
  | logout
  | loginStatus
  | syncTransactions (flags : PostingFlags)
  | syncBudgets (skipProcessed : Bool)
  | report (first last : Option Date)
  | list (listing : Listing) (json : Bool)
  | ping
  | showSettings
  | writeSettings
  | createWorkbook (force : Bool)
deriving DecidableEq

structure Invocation where
  verbosity : Nat
  settingsFile : Option String
  workbook : Option String
  command : Command
deriving DecidableEq

namespace Invocation

open CommandLine

/-! ## The grammar -/

def help : OptionSpec := ⟨"help", some 'h', .help, true, none⟩

def plainFlag (name : String) : OptionSpec := ⟨name, none, .flag, false, none⟩

def leaf (name : String) (options : List OptionSpec) : CommandSpec := ⟨name, options, []⟩

def grammar : CommandSpec where
  name := "ledger-sync"
  options :=
    [help, ⟨"version", some 'V', .version, false, none⟩,
      ⟨"verbose", some 'v', .tally, true, none⟩,
      ⟨"config", none, .path, true, none⟩,
      ⟨"workbook", none, .path, true, none⟩]
  subcommands :=
    [⟨"auth", [],
        [leaf "register" [], leaf "login" [plainFlag "prompt"], leaf "logout" [],
          leaf "status" []]⟩,
      ⟨"sync", [],
        [leaf "transactions"
            [plainFlag "bulk", ⟨"workers", none, .count, false, some "bulk"⟩,
              ⟨"fallback-single", none, .flag, false, some "bulk"⟩, plainFlag "skip-processed"],
          leaf "budgets" [plainFlag "skip-processed"]]⟩,
      leaf "report" [⟨"from", none, .date, false, none⟩, ⟨"to", none, .date, false, none⟩],
      ⟨"list", [⟨"json", none, .flag, true, none⟩], [leaf "transactions" [], leaf "budgets" []]⟩,
      leaf "ping" [],
      ⟨"config", [], [leaf "show" [], leaf "init" []]⟩,
      ⟨"workbook", [], [leaf "init" [plainFlag "force"]]⟩]

/-! ## From levels to an invocation -/

/-- What was given for an option at the deepest level that has it. -/
def given? (levels : List Level) (name : String) : Option Given :=
  levels.reverse.findSome? fun level => level.given.lookup name

def flag (levels : List Level) (name : String) : Bool :=
  (given? levels name).isSome

def text? (levels : List Level) (name : String) : Option String :=
  match given? levels name with
  | some (.value text) => some text
  | _ => none

def tally (levels : List Level) (name : String) : Nat :=
  match given? levels name with
  | some (.times count) => count
  | _ => 0

def command? (levels : List Level) : Option Command :=
  match (levels.drop 1).map (·.command) with
  | ["auth", "register"] => some .register
  | ["auth", "login"] => some (.login (flag levels "prompt"))
  | ["auth", "logout"] => some .logout
  | ["auth", "status"] => some .loginStatus
  | ["sync", "transactions"] =>
      some (.syncTransactions
        { bulk := flag levels "bulk"
          workers := (text? levels "workers").bind OptionKind.count?
          fallback := flag levels "fallback-single"
          skipProcessed := flag levels "skip-processed" })
  | ["sync", "budgets"] => some (.syncBudgets (flag levels "skip-processed"))
  | ["report"] =>
      some (.report ((text? levels "from").bind OptionKind.date?)
        ((text? levels "to").bind OptionKind.date?))
  | ["list", "transactions"] => some (.list .transactions (flag levels "json"))
  | ["list", "budgets"] => some (.list .budgets (flag levels "json"))
  | ["ping"] => some .ping
  | ["config", "show"] => some .showSettings
  | ["config", "init"] => some .writeSettings
  | ["workbook", "init"] => some (.createWorkbook (flag levels "force"))
  | _ => none

def ofArguments (arguments : List String) : Except UsageFault Invocation := do
  let levels ← grammar.levels .start arguments
  match command? levels with
  | some command =>
      return {
        verbosity := tally levels "verbose"
        settingsFile := text? levels "config"
        workbook := text? levels "workbook"
        command }
  | none => throw .missingSubcommand

example : (ofArguments ["-v", "sync", "transactions", "--bulk", "--workers=8"]).toOption.map
    (·.command) = some (.syncTransactions ⟨true, some 8, false, false⟩) := by decide +kernel

end Invocation

end SheetPost
