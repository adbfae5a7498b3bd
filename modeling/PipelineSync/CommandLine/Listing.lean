import PipelineSync.Decoration
import PipelineSync.Fragment.Collection
import PipelineSync.Json.Text
import PipelineSync.Record.Codec
import PipelineSync.Settings.Basic
import PipelineSync.Sync
import PipelineSync.Text.Split

/-!
# Listings

How the command line lists what it found: repositories with their fingerprints, records, the
contents of fragments, and what came of a sync.
-/

namespace PipelineSync.CommandLine

/-- How text is shown. -/
structure Style where
  decoration : Decoration := .plain
  /-- Whether the output can show bold print. -/
  hasBold : Bool := false

namespace Style

/-- The style that a flag asks for, or else the environment. -/
def ofFlag (flag : String) (env : Variables) : Style where
  decoration := .ofFlag flag env
  hasBold := ((env "CLICOLOR_FORCE").getD "0") ≠ "0"

/-- A marker. -/
def mark (s : Style) (m : Decoration.Marker) : String := s.decoration.marker m

/-- A value that stands out. -/
def strong (s : Style) (text : String) : String := s.decoration.highlight s.hasBold text

end Style

/-! ## Repositories -/

/-- The lines of a repository with its fingerprint. -/
def fingerprintLines (s : Style) (full : Bool) (r : Settings.Repository) : List String :=
  let f := r.material.fingerprint
  (s.strong (if full then f.hex else f.short) ++ "  " ++ r.id ++ "  " ++ r.material.longDescription)
    :: (if full then ["    folder: " ++ r.material.folderName] else [])

/-- The lines of a fault in a record. -/
def faultLines (s : Style) (f : Fault) : List String :=
  ["   " ++ s.mark .err ++ " " ++ f.message ++ " at " ++ f.at_.shortText,
    "     " ++ f.description]

/-- The lines of a record. -/
def recordLines (s : Style) (r : UpdateRecord) : List String :=
  let faults := r.lastCheckoutFault.toList ++ r.lastFault.toList
  ["   last revision: " ++ r.lastAttemptedRevision.getD "-",
    "   merged revision: " ++ (match r.lastMerged with
      | some p => p.origin.revision ++ " (" ++ toString p.pipelines.length ++ " pipelines)"
      | none => "-")]
    ++ (if faults.isEmpty then ["   " ++ s.mark .ok ++ " healthy"] else [])
    ++ faults.flatMap (faultLines s)

/-- The lines of a repository with what is known of it. -/
def statusLines (s : Style) (records : KeyMap Fingerprint UpdateRecord) (r : Settings.Repository) :
    List String :=
  let f := r.material.fingerprint
  (s.strong r.id ++ " (" ++ f.short ++ ") " ++ r.material.maskedUrl)
    :: (match records.get? f with
      | some record => recordLines s record
      | none => ["   " ++ s.mark .info ++ " never updated"])

/-- All records as one JSON text. -/
def recordsText (records : KeyMap Fingerprint UpdateRecord) : String :=
  Json.text (.ofList UpdateRecord.toData records.values)

/-! ## Fragments -/

/-- The line of a pipeline in a fragment. -/
def pipelineLine (s : Style) (p : Pipeline) : String :=
  "     - " ++ s.strong p.name.text ++ " (" ++ toString p.stages.length ++ " stages, "
    ++ toString p.materials.length ++ " materials)"

/-- The lines of what fragments declare. -/
def contentLines (s : Style) (p : Partial) : List String :=
  ["", s.mark .info ++ " Contents:"]
    ++ p.groups.flatMap (fun g => ("   group " ++ g.name) :: g.pipelines.map (pipelineLine s))
    ++ p.environments.map (fun e => "   environment " ++ e.name.text ++ ": "
      ++ Text.join ", " (e.pipelines.map Name.text))
    ++ (if p.isEmpty then ["   (no pipelines or environments)"] else [])

/-! ## Syncs -/

/-- The lines of a cycle. -/
def cycleLines (s : Style) (id : String) : Except Error CycleOutcome → List String
  | .ok (.merged revision) => [s.mark .ok ++ " " ++ id ++ ": merged revision " ++ s.strong revision]
  | .ok (.unchanged revision) =>
    [s.mark .ok ++ " " ++ id ++ ": unchanged at revision " ++ s.strong revision]
  | .ok .alreadyInProgress => [s.mark .warn ++ " " ++ id ++ ": update already in progress"]
  | .ok (.checkoutFailed message) =>
    [s.mark .err ++ " " ++ id ++ ": checkout failed: " ++ message]
  | .ok (.faulted revision message) =>
    [s.mark .err ++ " " ++ id ++ ": revision " ++ revision
        ++ " rejected, keeping previous configuration",
      "   " ++ message]
  | .error e => [s.mark .err ++ " " ++ id ++ ": " ++ e.message]

/-- The lines of a merged configuration. -/
def mergedLines (s : Style) (c : Configuration) : List String :=
  let source (p : Pipeline) : String := if p.isLocal then "local" else "config repo"
  ["", s.mark .info ++ " Merged configuration:"]
    ++ c.groups.flatMap (fun g => ("   " ++ g.name)
      :: g.pipelines.map fun p => "     - " ++ s.strong p.name.text ++ " (" ++ source p ++ ")")
    ++ c.environments.map (fun e => "   environment " ++ e.name.text ++ ": "
      ++ toString e.pipelines.length ++ " pipelines")

/-- The line of a health entry. -/
def healthLine (s : Style) (scope : HealthScope) (e : HealthEntry) : String :=
  let marker := match e.severity with
    | .error => s.mark .err
    | .warning => s.mark .warn
  "   " ++ marker ++ " [" ++ scope.text ++ "] " ++ e.message ++ ": " ++ e.description

/-- The lines of what is wrong, if anything is. -/
def healthLines (s : Style) (h : Health) : List String :=
  if h.all.isEmpty then []
  else ["", s.mark .warn ++ " Health:"] ++ h.all.map fun e => healthLine s e.1 e.2

/-- The lines of a sync. -/
def syncLines (s : Style) (synced : Synced) : List String :=
  [s.mark .scan ++ " Updating " ++ toString synced.cycles.length ++ " config repositories"]
    ++ synced.cycles.flatMap (fun c => cycleLines s c.1.id c.2)
    ++ mergedLines s synced.engine.merged ++ healthLines s synced.engine.health

end PipelineSync.CommandLine
