import PipelineSync.Data.Basic
import PipelineSync.Health.Basic

/-!
# Health as data

The written form of scopes and severities.
-/

namespace PipelineSync

namespace HealthScope

/-- Writes a scope: its kind, and the fingerprint it has. -/
def toData : HealthScope → Data
  | global => .record [("scope", .text "global")]
  | material f => .record [("scope", .text "material"), ("fingerprint", .text f.hex)]
  | configRepository f =>
    .record [("scope", .text "partial_config_repo"), ("fingerprint", .text f.hex)]

/-- Reads a scope. -/
def ofData? (d : Data) : Option HealthScope := do
  let fs ← d.asFields? [["scope"], ["fingerprint"]]
  let fingerprint : Option Fingerprint :=
    fs.required? "fingerprint" fun d => d.asText?.map Fingerprint.mk
  match ← fs.required? "scope" Data.asText? with
  | "global" =>
    match fs.lookup "fingerprint" with
    | none | some .null => return .global
    | some _ => none
  | "material" => return .material (← fingerprint)
  | "partial_config_repo" => return .configRepository (← fingerprint)
  | _ => none

end HealthScope

namespace Severity

/-- The word for a severity. -/
def text : Severity → String
  | warning => "warning"
  | error => "error"

/-- The severity with a word. -/
def ofText? : String → Option Severity
  | "warning" => some warning
  | "error" => some error
  | _ => none

/-- Reads a severity. -/
def ofData? (d : Data) : Option Severity := d.asWord?.bind ofText?

end Severity

/-- Writes the entry of a scope. -/
def HealthEntry.toData (scope : HealthScope) (e : HealthEntry) : Data :=
  .record [("scope", .text scope.text), ("key", scope.toData), ("severity", .text e.severity.text),
    ("message", .text e.message), ("description", .text e.description)]

end PipelineSync
