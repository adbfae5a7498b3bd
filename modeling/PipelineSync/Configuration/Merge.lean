import PipelineSync.Configuration.Basic
import PipelineSync.Error

/-!
# Merging

The local configuration and the partials of all repositories make up one configuration. Groups of
one name are joined, and so are environments, as long as they agree on the values of variables. A
pipeline is defined once, belongs to at most one environment, and an environment lists only
pipelines that are defined.
-/

namespace PipelineSync

/-- What keeps two sources from standing in one configuration. -/
inductive Conflict where
  /-- A pipeline is defined in two places. -/
  | definedTwice (pipeline : Name) (first second : String)
  /-- A pipeline is listed by environments of two names. -/
  | inTwoEnvironments (pipeline first second : Name)
  /-- A variable of an environment has two values. -/
  | differentValues (environment : Name) (key first second : String)
  /-- An environment lists a pipeline that no source defines. -/
  | unknownPipeline (environment pipeline : Name)
deriving DecidableEq, Repr

namespace Conflict

/-- What the conflict is about. -/
def subject : Conflict → String
  | definedTwice p _ _ | inTwoEnvironments p _ _ => "pipeline '" ++ p.text ++ "'"
  | differentValues e _ _ _ | unknownPipeline e _ => "environment '" ++ e.text ++ "'"

/-- What the conflict consists in. -/
def detail : Conflict → String
  | definedTwice _ first second => "defined in both " ++ first ++ " and " ++ second
  | inTwoEnvironments _ first second =>
    "associated with both environment '" ++ first.text ++ "' and '" ++ second.text ++ "'"
  | differentValues _ key first second =>
    "variable '" ++ key ++ "' is defined with different values '" ++ first ++ "' and '"
      ++ second ++ "'"
  | unknownPipeline _ p => "references unknown pipeline '" ++ p.text ++ "'"

/-- A conflict as a failure. -/
def toError (c : Conflict) : Error := .mergeConflict c.subject c.detail

end Conflict

/-- What has been merged so far. -/
structure Merge where
  groups : List Group := []
  environments : List Environment := []
  /-- The source that defines each pipeline. -/
  definedIn : List (Name × String) := []
  /-- The environment of each pipeline, as the last one that lists it writes its name. -/
  environmentOf : List (Name × Name) := []
deriving DecidableEq, Repr, Inhabited

namespace Merge

/-- The value under a name, in whatever case. -/
def find? {α : Type} (entries : List (Name × α)) (name : Name) : Option α :=
  (entries.find? fun e => e.1.same name).map Prod.snd

/-- Notes that a source defines a pipeline, unless one does already. -/
def define (source : String) (definedIn : List (Name × String)) (p : Pipeline) :
    Except Conflict (List (Name × String)) :=
  match find? definedIn p.name with
  | some earlier => .error (.definedTwice p.name earlier source)
  | none => .ok ((p.name, source) :: definedIn)

/-- Adds a group of a source. -/
def addGroup (source : String) (m : Merge) (g : Group) : Except Conflict Merge := do
  let definedIn ← g.pipelines.foldlM (define source) m.definedIn
  return { m with definedIn, groups := g.addTo m.groups }

/-- Notes that an environment lists a pipeline, unless one of another name does. -/
def assign (environment : Name) (environmentOf : List (Name × Name)) (pipeline : Name) :
    Except Conflict (List (Name × Name)) :=
  match find? environmentOf pipeline with
  | some other =>
    if other.same environment then .ok ((pipeline, environment) :: environmentOf)
    else .error (.inTwoEnvironments pipeline other environment)
  | none => .ok ((pipeline, environment) :: environmentOf)

/-- Adds a variable, unless it is there with another value. -/
def addVariable (environment : Name) (bindings : List (String × String))
    (v : String × String) : Except Conflict (List (String × String)) :=
  match bindings.lookup v.1 with
  | some current =>
    if current = v.2 then .ok bindings
    else .error (.differentValues environment v.1 current v.2)
  | none => .ok (bindings ++ [v])

/-- Adds a name, unless it is there in some case. -/
def addName (names : List Name) (n : Name) : List Name :=
  if n.isIn names then names else names ++ [n]

/-- Joins an environment to the one of its name: what is there comes first. -/
def joinEnvironment (there e : Environment) : Except Conflict Environment := do
  return { there with
    pipelines := e.pipelines.foldl addName there.pipelines
    bindings := ← e.bindings.foldlM (addVariable e.name) there.bindings }

/-- Joins an environment to the one of its name in a list, or else puts it at the end. -/
def placeEnvironment (e : Environment) : List Environment → Except Conflict (List Environment)
  | [] => .ok [e]
  | there :: rest =>
    if there.name.same e.name then do return (← joinEnvironment there e) :: rest
    else do return there :: (← placeEnvironment e rest)

/-- Adds an environment. -/
def addEnvironment (m : Merge) (e : Environment) : Except Conflict Merge := do
  let environmentOf ← e.pipelines.foldlM (assign e.name) m.environmentOf
  return { m with environmentOf, environments := ← placeEnvironment e m.environments }

/-- Adds the groups, then the environments of a source. -/
def addSource (m : Merge) (source : String) (groups : List Group)
    (environments : List Environment) : Except Conflict Merge := do
  let m ← groups.foldlM (addGroup source) m
  environments.foldlM addEnvironment m

/-- The environments list only pipelines that are defined. -/
def checkReferences (m : Merge) : Except Conflict Unit :=
  m.environments.forM fun e =>
    match e.pipelines.find? fun p => (find? m.definedIn p).isNone with
    | some p => .error (.unknownPipeline e.name p)
    | none => .ok ()

/-- How messages name the local configuration. -/
def localSource : String := "the local configuration"

/-- How messages name the repository of a partial. -/
def partialSource (p : Partial) : String := "config repo " ++ p.origin.url

end Merge

/-- The local configuration and all partials, in the order of their fingerprints, in one. -/
def merge (localConfig : LocalConfiguration) (partials : KeyMap Fingerprint Partial) :
    Except Conflict Configuration := do
  let m ← Merge.addSource {} Merge.localSource localConfig.groups localConfig.environments
  let m ← partials.values.foldlM (fun m p =>
    m.addSource (Merge.partialSource p) p.groups p.environments) m
  m.checkReferences
  return { groups := m.groups, environments := m.environments, partials }

end PipelineSync
