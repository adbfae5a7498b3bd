import PipelineSync.Configuration.Basic
import PipelineSync.Directories

/-!
# Settings

Which repositories are asked for fragments, what is configured on the server itself, and where
working copies and records are kept.
-/

namespace PipelineSync

namespace Settings

/-- The only kind of fragments there is. -/
def supportedPlugin : String := "gocd-xml"

/-- A repository that is asked for fragments. -/
structure Repository where
  /-- The name that the operator gave it. -/
  id : String
  material : Material
  /-- The kind of its fragments. -/
  plugin : String := supportedPlugin
deriving DecidableEq, Repr, Inhabited

end Settings

/-- The settings of an operator. -/
structure Settings where
  /-- The directory for working copies, if it is not the default one. -/
  workingDirectory : Option String := none
  /-- The directory for records, if it is not the default one. -/
  dataDirectory : Option String := none
  repositories : List Settings.Repository := []
  localConfig : LocalConfiguration := {}
deriving DecidableEq, Repr, Inhabited

namespace Settings

/-- The directory for working copies. -/
def workingPath (s : Settings) (env : Variables) : String :=
  s.workingDirectory.getD (Directories.working env)

/-- The directory for records. -/
def dataPath (s : Settings) (env : Variables) : String :=
  s.dataDirectory.getD (Directories.data env)

/-- The materials of all repositories. -/
def materials (s : Settings) : List Material :=
  s.repositories.map Repository.material

/-- The repository with an id. -/
def find? (s : Settings) (id : String) : Option Repository :=
  s.repositories.find? (·.id = id)

end Settings

end PipelineSync
