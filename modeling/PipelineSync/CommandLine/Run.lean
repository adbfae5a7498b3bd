import PipelineSync.CommandLine.Arguments
import PipelineSync.CommandLine.Listing
import PipelineSync.CommandLine.Outcome
import PipelineSync.Engine.Host
import PipelineSync.Scm.Command
import PipelineSync.Settings.Text

/-!
# Running commands

The commands on a host: `run` takes the words of a command line to its outcome. Nothing but the
host is changed.
-/

namespace PipelineSync.CommandLine

variable {ρ : Type}

/-- Prints nothing, but fails. -/
def failed (f : Failure) : Printed := { failure := some f }

/-- The settings that a source names. -/
def SettingsSource.load (source : SettingsSource) (files : Files) : Except Failure Settings := do
  let settings ← (Settings.ofFile files source.file).mapError fun e =>
    (Failure.ofError e).because ("Failed to load settings from " ++ source.file)
  return { settings with
    workingDirectory := source.workingDirectory.or settings.workingDirectory
    dataDirectory := source.dataDirectory.or settings.dataDirectory }

/-- Lists the repositories with their fingerprints. -/
def fingerprint (s : Style) (source : SettingsSource) (full : Bool) (settings : Settings) :
    Printed :=
  if settings.repositories.isEmpty then
    { lines := ["No config repos declared in " ++ source.file] }
  else { lines := settings.repositories.flatMap (fingerprintLines s full) }

/-- Tells what is known of the repositories. -/
def status (s : Style) (asJson : Bool) (env : Variables) (settings : Settings) (h : Host ρ) :
    Printed × Host ρ :=
  match (RecordFiles.below (settings.dataPath env)).toStore.loadAll h with
  | (.error e, h) => (failed (.ofError e), h)
  | (.ok records, h) =>
    let records : KeyMap Fingerprint UpdateRecord := .ofList (records.map fun r => (r.key, r))
    if asJson then ({ lines := [recordsText records] }, h)
    else ({ lines := settings.repositories.flatMap (statusLines s records) }, h)

/-- Checks the fragments below a directory. -/
def validate (s : Style) (dir : String) (ignored : List String) (h : Host ρ) : Printed × Host ρ :=
  let started := s.mark .scan ++ " Validating fragments in " ++ dir
  let m : Material := { kind := .git, url := "file://" ++ dir, filter := ignored }
  if !h.files.isDir dir then
    ({ lines := [started], failure := some ⟨dir ++ " is not a directory", []⟩ }, h)
  else match Discovery.find h.files dir m.isIgnored with
    | .error e => ({ lines := [started], failure := some (.ofError e) }, h)
    | .ok found =>
      let lines := [started, "   Fragment files: " ++ toString found.length]
      let h := h.addLines (Partial.searchLines h.files dir m)
      match Partial.read (.schema Schema.currentVersion) m dir "working copy" h with
      | (.error e, h) =>
        ({ lines := lines ++ [s.mark .err ++ " " ++ e.message]
           failure := some ⟨"Fragment validation failed", []⟩ }, h)
      | (.ok p, h) =>
        ({ lines := lines ++ [s.mark .ok ++ " Fragments are valid"] ++ contentLines s p },
          h.addLine ⟨.validation, .debug, "Parsed fragments from " ++ p.origin.text⟩)

/-- The surroundings of an engine that settings ask for. -/
def worldOf (runner : Runner ρ) (env : Variables) (settings : Settings) : World (Host ρ) :=
  .ofHost (.ofRunner runner) ⟨settings.workingPath env⟩ (.schema Schema.currentVersion)
    (RecordFiles.below (settings.dataPath env)).toStore

/-- Updates repositories and tells what came of it. -/
def sync (runner : Runner ρ) (s : Style) (source : SettingsSource) (only : List String)
    (force : Bool) (env : Variables) (settings : Settings) (h : Host ρ) : Printed × Host ρ :=
  match only.find? fun id => (settings.find? id).isNone with
  | some id => (failed ⟨"No config repo with id '" ++ id ++ "' in " ++ source.file, []⟩, h)
  | none =>
    match settings.sync (worldOf runner env settings) (settings.select only) force h with
    | (.error e, h) => (failed (.ofError e), h)
    | (.ok synced, h) =>
      let finished := synced.cycles.map fun c => (⟨.sync, .debug, "Cycle for " ++ c.1.id ++ " ("
        ++ c.1.material.fingerprint.short ++ ") finished"⟩ : Log.Line)
      let failure : Option Failure :=
        if synced.failures = 0 then none
        else some ⟨toString synced.failures ++ " config repositories failed to update", []⟩
      ({ lines := syncLines s synced, failure }, h.addLines finished)

/-- Does what is asked for. -/
def perform (runner : Runner ρ) (env : Variables) (r : Request) (h : Host ρ) :
    Printed × Host ρ :=
  let s := Style.ofFlag r.color env
  let withSettings (source : SettingsSource) (go : Settings → Printed × Host ρ) :
      Printed × Host ρ :=
    match source.load h.files with
    | .ok settings => go settings
    | .error f => (failed f, h)
  match r.command with
  | .sync source only force =>
    withSettings source fun settings => sync runner s source only force env settings h
  | .validate dir ignored => validate s dir ignored h
  | .fingerprint source full =>
    withSettings source fun settings => (fingerprint s source full settings, h)
  | .status source asJson => withSettings source fun settings => status s asJson env settings h

/-- The outcome of a command line that makes no request. -/
def Outcome.ofUsage (fault : UsageFault) : Outcome where
  exitCode := 2
  output := ""
  errors := "error: " ++ fault.message ++ "\n"

/-- Runs a command line. -/
def run (runner : Runner ρ) (env : Variables) (words : List String) (h : Host ρ) :
    Outcome × Host ρ :=
  match Request.ofWords env words with
  | .error fault => (.ofUsage fault, h)
  | .ok r =>
    let (printed, h) := perform runner env r { h with log := [] }
    (.ofPrinted printed (.ofText r.logFilter) h.log.reverse, h)

end PipelineSync.CommandLine
