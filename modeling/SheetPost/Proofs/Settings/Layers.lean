import SheetPost.Proofs.Gateway.Journal
import SheetPost.Settings.Layers

namespace SheetPost.Settings

open Conversing

/-! ## Layers -/

/-- What one layer says about the settings. It may leave out any of them. -/
structure Layer where
  authUrl : Option String
  gatewayUrl : Option String
  workbook : Option String
  workers : Option Nat
  skipProcessed : Option Bool
  fallback : Option Bool
  correlationIds : Option Bool
  requestLogging : Option Bool
deriving DecidableEq

def Layer.silent : Layer := ⟨none, none, none, none, none, none, none, none⟩

def highest {α : Type} (read : Layer → Option α) (layers : List Layer) (usual : α) : α :=
  (layers.findSome? read).getD usual

def inForce (layers : List Layer) : Settings where
  authUrl := highest (·.authUrl) layers standard.authUrl
  gatewayUrl := highest (·.gatewayUrl) layers standard.gatewayUrl
  workbook := highest (·.workbook) layers standard.workbook
  workers := highest (·.workers) layers standard.workers
  skipProcessed := layers.any (·.skipProcessed == some true)
  fallback := layers.any (·.fallback == some true)
  correlationIds := highest (·.correlationIds) layers standard.correlationIds
  requestLogging := highest (·.requestLogging) layers standard.requestLogging

def member? (name : String) (place : Nat) : Option Toml.Value → Option Toml.Value
  | some (.table _ fields) => fields.lookup name
  | some (.list items) => items[place]?
  | _ => none

def Layer.ofFile (fields : Toml.Fields) : Layer where
  authUrl := (fields.lookup "auth_url").bind ofText?
  gatewayUrl := (fields.lookup "gateway_url").bind ofText?
  workbook := (fields.lookup "workbook").bind ofText?
  workers := (member? "workers" 0 (fields.lookup "sync")).bind ofCount?
  skipProcessed := (member? "skip_processed" 1 (fields.lookup "sync")).bind ofBoolean?
  fallback := (member? "fallback_to_single" 2 (fields.lookup "sync")).bind ofBoolean?
  correlationIds := (member? "correlation_ids" 0 (fields.lookup "monitoring")).bind ofBoolean?
  requestLogging := (member? "request_logging" 1 (fields.lookup "monitoring")).bind ofBoolean?

section Resolving

variable {named? usual? : Option String} {environment : String → Option String}
variable {fields : Toml.Fields} {before : Conversation Disk}

def Layer.ofEnvironment (environment : String → Option String) : Layer :=
  { silent with
    authUrl := environment authUrlVariable
    gatewayUrl := environment gatewayUrlVariable
    workbook := environment workbookVariable
    workers := (environment workersVariable).bind workersOfText? }

end Resolving

end SheetPost.Settings
