import PipelineSync.Configuration.Merge
import PipelineSync.Settings.Basic
import PipelineSync.Text.Blank

/-!
# Usable settings

`Settings.fault?` finds what would only show later, as an update that fails for no clear reason: the
first repository that breaks a rule, given the ones before it, or else a local configuration that
does not go together with itself.
-/

namespace PipelineSync

namespace Settings

/-- What makes settings unusable. -/
inductive Fault where
  /-- The repository in this place, counted from one, has no id. -/
  | emptyId (place : Nat)
  | duplicateId (id : String)
  | unsupportedPlugin (id plugin : String)
  | emptyUrl (id : String)
  /-- The material of a repository is no repository. -/
  | notScm (id : String) (kind : Material.Kind)
  | invalidPattern (id pattern : String) (error : Glob.Error)
  | sameRepository (earlier id : String)
  /-- The local configuration holds a conflict. -/
  | inconsistent (conflict : Conflict)
deriving DecidableEq, Repr

namespace Fault

/-- What is wrong. -/
def message : Fault → String
  | emptyId place => "Config repo #" ++ toString place ++ " has an empty id"
  | duplicateId id => "Duplicate config repo id '" ++ id ++ "'"
  | unsupportedPlugin id plugin =>
    "Config repo '" ++ id ++ "' uses unsupported plugin '" ++ plugin ++ "'"
  | emptyUrl id => "Config repo '" ++ id ++ "' has an empty url"
  | notScm id kind => "Config repo '" ++ id ++ "' uses a " ++ kind.text ++ " material"
  | invalidPattern id pattern e =>
    "Config repo '" ++ id ++ "' has an invalid filter pattern '" ++ pattern ++ "': " ++ e.message
  | sameRepository earlier id =>
    "Config repos '" ++ earlier ++ "' and '" ++ id ++ "' point at the same repository"
  | inconsistent conflict =>
    "Local configuration is inconsistent: " ++ conflict.toError.message

/-- What to do about it. -/
def hint : Fault → String
  | emptyId _ => "Give every entry under config_repos an id"
  | duplicateId _ => "Give every config repo a unique id"
  | unsupportedPlugin _ _ => "Remove plugin_id or set it to '" ++ supportedPlugin ++ "'"
  | emptyUrl _ => "Set material.url to the repository location"
  | notScm _ _ => "Config repositories must be git, hg or svn materials"
  | invalidPattern _ _ _ => "Filter patterns use glob syntax, e.g. 'docs/**'"
  | sameRepository _ _ =>
    "Remove one of them; repositories are identified by url, username and branch"
  | inconsistent _ => "Fix the groups and environments under 'local'"

/-- A fault as a failure. -/
def toError (f : Fault) : Error := .configParse f.message (some f.hint)

end Fault

/-- The first pattern that does not compile, with what is wrong about it. -/
def invalidPattern? (patterns : List String) : Option (String × Glob.Error) :=
  patterns.findSome? fun p =>
    match Glob.compile p with
    | .ok _ => none
    | .error e => some (p, e)

/-- The first rule that a repository breaks, given the ones before it. -/
def Repository.fault? (earlier : List Repository) (r : Repository) : Option Fault :=
  if Text.isBlankText r.id then some (.emptyId (earlier.length + 1))
  else if earlier.any (·.id = r.id) then some (.duplicateId r.id)
  else if r.plugin ≠ supportedPlugin then some (.unsupportedPlugin r.id r.plugin)
  else if Text.isBlankText r.material.url then some (.emptyUrl r.id)
  else if !r.material.kind.isScm then some (.notScm r.id r.material.kind)
  else match invalidPattern? r.material.filter with
    | some (p, e) => some (.invalidPattern r.id p e)
    | none =>
      (earlier.find? (·.material.fingerprint = r.material.fingerprint)).map
        fun other => .sameRepository other.id r.id

/-- The fault of the first repository that breaks a rule, given the ones before it. -/
def firstFault? (earlier : List Repository) : List Repository → Option Fault
  | [] => none
  | r :: rest => (r.fault? earlier).or (firstFault? (earlier ++ [r]) rest)

/-- The first fault of settings. -/
def fault? (s : Settings) : Option Fault :=
  match firstFault? [] s.repositories with
  | some f => some f
  | none =>
    match merge s.localConfig ∅ with
    | .ok _ => none
    | .error conflict => some (.inconsistent conflict)

/-- The settings, if they are usable. -/
def check (s : Settings) : Except Error Settings :=
  match s.fault? with
  | some f => .error f.toError
  | none => .ok s

end Settings

end PipelineSync
