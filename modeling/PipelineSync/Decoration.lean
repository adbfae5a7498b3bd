import PipelineSync.Text.Fold

/-!
# Decoration

Whether output has colours and symbols, and what they are. A flag says so, or leaves it to the
environment.
-/

namespace PipelineSync

/-- The value of a variable of the environment, if it is set. -/
abbrev Variables := String → Option String

/-- Whether output is decorated. -/
structure Decoration where
  isOn : Bool := false
deriving DecidableEq, Repr

namespace Decoration

/-- Without decoration. -/
def plain : Decoration := {}

/-- What the environment wants, for output that goes to no terminal: decoration only if it is
forced. -/
def wanted (env : Variables) : Bool :=
  if (env "NO_COLOR").isSome then false
  else if env "CLICOLOR" = some "0" then false
  else match env "CLICOLOR_FORCE" with
    | some v => v ≠ "0" ∧ v ≠ ""
    | none => false

/-- What a flag wants, in whatever case it is written. -/
def ofFlag (flag : String) (env : Variables) : Decoration :=
  match Text.fold flag with
  | "always" => ⟨true⟩
  | "never" => ⟨false⟩
  | _ => ⟨wanted env⟩

/-- What stands in front of a line. -/
inductive Marker where
  | scan
  | ok
  | warn
  | err
  | info
deriving DecidableEq, Repr

/-- The symbol of a marker. -/
def Marker.symbol : Marker → String
  | scan => "🔍"
  | ok => "✅"
  | warn => "⚠️"
  | err => "❌"
  | info => "📊"

/-- The marker in plain text. -/
def Marker.text : Marker → String
  | scan => "[SCAN]"
  | ok => "[OK]"
  | warn => "[WARN]"
  | err => "[ERR]"
  | info => "[INFO]"

/-- A marker as it is shown. -/
def marker (d : Decoration) (m : Marker) : String :=
  if d.isOn then m.symbol else m.text

/-- Text in bold print, as terminals take it. -/
def bold (text : String) : String := "\x1b[1m" ++ text ++ "\x1b[0m"

/-- A value that stands out, if the output can show that. -/
def highlight (d : Decoration) (hasBold : Bool) (text : String) : String :=
  if d.isOn && hasBold then bold text else text

end Decoration

end PipelineSync
