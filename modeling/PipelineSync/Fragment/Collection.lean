import PipelineSync.Fragment.Discovery
import PipelineSync.Fragment.Schema
import PipelineSync.Markup.Document
import PipelineSync.Material.Filter

/-!
# The fragments of a repository together

All fragments of a working copy make up one partial, or none at all: the first that cannot be read,
is no proper fragment, or defines what another has defined already, fails the repository.
-/

namespace PipelineSync

/-- What a document has to pass before it is taken as a fragment of the named file. -/
abbrev Validator := String → Element → Except Error Unit

/-- The validator that holds documents to the schema, up to a version. -/
def Validator.schema (supported : Nat) : Validator := fun file root =>
  (Schema.check supported root).mapError (·.toError file)

/-- The validator that fails whatever it is given. -/
def Validator.failing (error : Error) : Validator := fun _ _ => .error error

/-- Reads the text of one fragment file. -/
def Fragment.parse (validator : Validator) (origin : RepositoryOrigin) (file text : String) :
    Except Error Fragment := do
  let root ← Markup.loadDocument file text
  validator file root
  return .ofElement origin root

/-- The fragments taken together so far. -/
structure Collection where
  groups : List Group := []
  environments : List Environment := []
  /-- The file that defines each pipeline. -/
  definedIn : List (Name × String) := []
deriving DecidableEq, Repr, Inhabited

namespace Collection

/-- The file that defines a pipeline of this name, in whatever case. -/
def definer? (definedIn : List (Name × String)) (name : Name) : Option String :=
  (definedIn.find? fun d => d.1.same name).map Prod.snd

/-- Notes that `file` defines a pipeline of a group, unless it is defined already. -/
def define (file : String) (group : Group) (definedIn : List (Name × String)) (p : Pipeline) :
    Except Error (List (Name × String)) :=
  match definer? definedIn p.name with
  | some earlier =>
    .error (.schemaViolation file
      ("/cruise/pipelines[@group='" ++ group.name ++ "']/pipeline[@name='" ++ p.name.text ++ "']")
      ("pipeline '" ++ p.name.text ++ "' is already defined in " ++ earlier))
  | none => .ok (definedIn ++ [(p.name, file)])

/-- Adds a group of a file. -/
def addGroup (file : String) (c : Collection) (g : Group) : Except Error Collection := do
  let definedIn ← g.pipelines.foldlM (define file g) c.definedIn
  return { c with definedIn, groups := g.addTo c.groups }

/-- Adds an environment of a file, unless one of its name is there. -/
def addEnvironment (file : String) (c : Collection) (e : Environment) :
    Except Error Collection :=
  if c.environments.any fun other => other.name.same e.name then
    .error (.schemaViolation file
      ("/cruise/environments/environment[@name='" ++ e.name.text ++ "']")
      ("environment '" ++ e.name.text ++ "' is already defined"))
  else .ok { c with environments := c.environments ++ [e] }

/-- Adds all that a file declares. -/
def addFragment (file : String) (c : Collection) (f : Fragment) : Except Error Collection := do
  let c ← f.groups.foldlM (addGroup file) c
  f.environments.foldlM (addEnvironment file) c

/-- Reads a file and adds what it declares. -/
def addFile (validator : Validator) (origin : RepositoryOrigin) (c : Collection)
    (found : Discovery.Found) : Except Error Collection :=
  match found.content with
  | .binary => .error (.io FileFault.notText.text)
  | .text text => do
    c.addFragment found.relative (← Fragment.parse validator origin found.relative text)

/-- What all files declare together. -/
def ofFiles (validator : Validator) (origin : RepositoryOrigin) (files : List Discovery.Found) :
    Except Error Collection :=
  files.foldlM (addFile validator origin) {}

/-- The files that are tried: all up to the first that cannot be added. -/
def tried (validator : Validator) (origin : RepositoryOrigin) (c : Collection) :
    List Discovery.Found → List Discovery.Found
  | [] => []
  | found :: rest =>
    match c.addFile validator origin found with
    | .ok c => found :: tried validator origin c rest
    | .error _ => [found]

/-- The partial with the contents of a collection. -/
def toPartial (origin : RepositoryOrigin) (c : Collection) : Partial :=
  { origin, groups := c.groups, environments := c.environments }

end Collection

namespace Partial

/-- The partial that the fragments below a path make up. -/
def parse (validator : Validator) (files : Files) (root : String) (isIgnored : String → Bool)
    (origin : RepositoryOrigin) : Except Error Partial := do
  let found ← Discovery.find files root isIgnored
  return (← Collection.ofFiles validator origin found).toPartial origin

/-- What there is to tell about the search for fragments that a material does not ignore. -/
def searchLines (files : Files) (root : String) (m : Material) : List Log.Line :=
  match Discovery.find files root fun _ => false with
  | .error _ => []
  | .ok found => found.flatMap fun f =>
    Material.filterLines f.relative m.filter ++
      (if m.isIgnored f.relative then
          [⟨.fragments, .debug, "Skipping filtered fragment " ++ f.relative⟩]
        else [])

/-- What there is to tell about the reading of the fragments of a material. -/
def readLines (validator : Validator) (files : Files) (root : String) (m : Material)
    (revision : String) : List Log.Line :=
  match Discovery.find files root m.isIgnored with
  | .error _ => []
  | .ok found =>
    (Collection.tried validator (.ofMaterial m revision) {} found).map fun f =>
      ⟨.fragments, .trace, "Parsing fragment " ++ f.relative⟩

/-- The line that tells of a partial that was read. -/
def parsedLine (p : Partial) : Log.Line :=
  ⟨.fragments, .debug, "Parsed " ++ toString p.pipelines.length ++ " pipelines and "
    ++ toString p.environments.length ++ " environments from " ++ p.origin.text⟩

/-- The partial of a material's working copy at a revision. -/
def ofWorkingCopy (validator : Validator) (files : Files) (root : String) (material : Material)
    (revision : String) : Except Error Partial :=
  parse validator files root material.isIgnored (.ofMaterial material revision)

end Partial

end PipelineSync
