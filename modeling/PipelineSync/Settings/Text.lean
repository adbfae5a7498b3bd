import PipelineSync.Diagnosis.Wanted
import PipelineSync.Diagnosis.Yaml
import PipelineSync.Files.Basic
import PipelineSync.Settings.Check
import PipelineSync.Settings.Codec
import PipelineSync.Yaml.Document

/-!
# Settings texts

Settings are written in YAML. A text is read and checked at once, so whoever gets settings from here
can use them.
-/

namespace PipelineSync.Settings

/-- Why a document holds no settings: the first place where it departs from their shape, or else the
fault of the text. -/
def documentFault (root : Yaml.Node) (fault : Option Yaml.Fault) : Error :=
  .yaml <| ((root.complaint? Shape.settings "").or (fault.map Yaml.Fault.message)).getD
    "invalid settings"

/-- The settings in a text, if they are usable. A blank text holds the default ones. -/
def ofText (s : String) : Except Error Settings :=
  if Text.isBlankText s then check {}
  else
    let (root, fault) := Yaml.parse s
    match fault, ofData? root.toData with
    | none, some settings => check settings
    | fault, _ => .error (documentFault root fault)

/-- The settings in a file. -/
def ofFile (files : Files) (path : String) : Except Error Settings := do
  ofText (← (files.readText path).mapError fun fault => .io fault.text)

end PipelineSync.Settings
