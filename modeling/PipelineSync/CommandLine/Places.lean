import PipelineSync.CommandLine.Run

/-!
# What a command looks at

The places that have to be at hand for a command: those that its arguments name, and those that the
settings name.
-/

namespace PipelineSync.CommandLine

/-- The variables of the environment that commands ask for. -/
def variableNames : List String :=
  ["CLICOLOR", "CLICOLOR_FORCE", "CONFIG_REPO_CONFIG", "CONFIG_REPO_DATA_DIR",
    "CONFIG_REPO_LOG_LEVEL", "CONFIG_REPO_WORKING_DIR", "HOME", "NO_COLOR", "XDG_CACHE_HOME",
    "XDG_DATA_HOME"]

/-- The source of settings of a command, if it asks for settings. -/
def Command.source? : Command → Option SettingsSource
  | .sync source .. | .fingerprint source _ | .status source _ => some source
  | .validate .. => none

/-- The places that the arguments of a command name. -/
def Command.places : Command → List String
  | .validate dir _ => [dir]
  | c => c.source?.toList.map SettingsSource.file

/-- The places that the settings of a command name. -/
def Command.settingsPlaces (c : Command) (env : Variables) (files : Files) : List String :=
  match c.source? with
  | none => []
  | some source =>
    match source.load files with
    | .ok settings => [settings.dataPath env, settings.workingPath env]
    | .error _ => []

end PipelineSync.CommandLine
