import SheetPost.Toml.Document

namespace SheetPost

structure Settings where
  authUrl : String
  gatewayUrl : String
  workbook : String
  workers : Nat
  skipProcessed : Bool
  fallback : Bool
  correlationIds : Bool
  requestLogging : Bool
deriving DecidableEq

namespace Settings

def standard : Settings where
  authUrl := "http://localhost:8081"
  gatewayUrl := "http://localhost:8080"
  workbook := "ledger.xlsx"
  workers := 4
  skipProcessed := false
  fallback := false
  correlationIds := true
  requestLogging := true

/-! ## Reading -/

def ofText? : Toml.Value → Option String
  | .text value => some value
  | _ => none

def ofBoolean? : Toml.Value → Option Bool
  | .boolean value => some value
  | _ => none

def ofCount? : Toml.Value → Option Nat
  | .integer value => if 0 ≤ value ∧ value < 2 ^ 32 then some value.toNat else none
  | _ => none

def setting {α : Type} (read? : Toml.Value → Option α) (usual : α) : Option Toml.Value → Option α
  | some value => read? value
  | none => some usual

/-- The values of a group of settings. A list gives them in order and may break off early; a point
in time stands for a group without any. -/
def group (names : List String) : Option Toml.Value → Option (List (Option Toml.Value))
  | none | some .moment => some (names.map fun _ => none)
  | some (.table _ fields) => some (names.map fun name => fields.lookup name)
  | some (.list items) => some (names.zipIdx.map fun entry => items[entry.2]?)
  | _ => none

def ofFields? (fields : Toml.Fields) : Option Settings := do
  let authUrl ← setting ofText? standard.authUrl (fields.lookup "auth_url")
  let gatewayUrl ← setting ofText? standard.gatewayUrl (fields.lookup "gateway_url")
  let workbook ← setting ofText? standard.workbook (fields.lookup "workbook")
  let [workers, skipProcessed, fallback] ←
    group ["workers", "skip_processed", "fallback_to_single"] (fields.lookup "sync") | none
  let [correlationIds, requestLogging] ←
    group ["correlation_ids", "request_logging"] (fields.lookup "monitoring") | none
  return {
    authUrl, gatewayUrl, workbook
    workers := ← setting ofCount? standard.workers workers
    skipProcessed := ← setting ofBoolean? standard.skipProcessed skipProcessed
    fallback := ← setting ofBoolean? standard.fallback fallback
    correlationIds := ← setting ofBoolean? standard.correlationIds correlationIds
    requestLogging := ← setting ofBoolean? standard.requestLogging requestLogging }

def ofFileText? (text : String) : Option Settings :=
  (Toml.ofText? text).bind ofFields?

/-! ## Writing -/

def field (name value : String) : String :=
  name ++ " = " ++ value ++ "\n"

def truth (value : Bool) : String :=
  if value then "true" else "false"

def fileText (settings : Settings) : String :=
  field "auth_url" (Toml.written settings.authUrl) ++
    field "gateway_url" (Toml.written settings.gatewayUrl) ++
    field "workbook" (Toml.written settings.workbook) ++
    "\n[sync]\n" ++
    field "workers" (integerText settings.workers) ++
    field "skip_processed" (truth settings.skipProcessed) ++
    field "fallback_to_single" (truth settings.fallback) ++
    "\n[monitoring]\n" ++
    field "correlation_ids" (truth settings.correlationIds) ++
    field "request_logging" (truth settings.requestLogging)

end Settings

end SheetPost
