import PipelineSync.Decoration
import PipelineSync.Path

/-!
# Default places

Where settings, working copies and records are, if nobody says otherwise: the settings in the
current directory, the rest in the directories for caches and data of the user, or below the current
directory if the user has none.
-/

namespace PipelineSync.Directories

/-- The settings file. -/
def settingsFile : String := "config-repo.yaml"

/-- The home directory of the user. -/
def home? (env : Variables) : Option String :=
  (env "HOME").filter (· ≠ "")

/-- A directory of the user: a variable names it, by an absolute path, or else it is in its place
below the home directory. -/
def userDirectory? (env : Variables) (variableName place : String) : Option String :=
  match (env variableName).filter Path.isAbsolute with
  | some dir => some dir
  | none => (home? env).map fun home => Path.join home place

/-- The directory below which the program keeps its own, if the user has none. -/
def fallback : String := ".config-repo"

/-- The directory for working copies. -/
def working (env : Variables) : String :=
  let base := match userDirectory? env "XDG_CACHE_HOME" ".cache" with
    | some dir => Path.join dir "config-repo"
    | none => fallback
  Path.join base "working"

/-- The directory for records. -/
def data (env : Variables) : String :=
  match userDirectory? env "XDG_DATA_HOME" ".local/share" with
  | some dir => Path.join dir "config-repo"
  | none => Path.join fallback "data"

end PipelineSync.Directories
