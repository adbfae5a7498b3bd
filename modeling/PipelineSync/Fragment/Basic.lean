import PipelineSync.Configuration.Basic
import PipelineSync.Markup.Element

/-!
# Fragments

A fragment declares groups of pipelines and environments. `Fragment.ofElement` reads them off the
tree of a document. It takes what it finds: an element that lacks an attribute it needs is left
out, and whether the tree is a proper fragment is the matter of the schema.
-/

namespace PipelineSync

/-- The groups and environments that one document declares. -/
structure Fragment where
  groups : List Group := []
  environments : List Environment := []
deriving DecidableEq, Repr, Inhabited

/-- The ignore patterns of the first `filter` section. -/
def Material.filterOfElement (e : Element) : List String :=
  match e.child? "filter" with
  | some filter => (filter.childrenNamed "ignore").filterMap fun i => i.attribute? "pattern"
  | none => []

/-- The kind and the address of a material, by its element's name and the attributes it needs, and
the stage of a dependency. -/
def Material.sourceOfElement? (e : Element) : Option Material := do
  let kind ← Kind.ofText? e.name
  if kind = .dependency then
    return { kind, url := ← e.attribute? "pipeline", stage := some (← e.attribute? "stage") }
  else return { kind, url := ← e.attribute? "url" }

/-- The material that an element declares. -/
def Material.ofElement? (e : Element) : Option Material :=
  (sourceOfElement? e).map fun m =>
    { m with
      username := e.attribute? "username"
      password := e.attribute? "password"
      branch := e.attribute? "branch"
      destination := e.attribute? "dest"
      checkExternals := e.attribute? "checkexternals" == some "true"
      filter := filterOfElement e }

/-- The task that an element declares: its arguments are the words of `args`, then the text of each
`arg`. -/
def Task.ofElement (e : Element) : Task where
  kind := e.name
  command := (e.attribute? "command").or (e.attribute? "target")
  args := ((e.attribute? "args").map Text.words).getD []
    ++ (e.childrenNamed "arg").filterMap Element.text

/-- The job that an element declares, with the tasks of its first `tasks` section. -/
def Job.ofElement? (e : Element) : Option Job :=
  (e.attribute? "name").map fun name =>
    { name := ⟨name⟩
      tasks := match e.child? "tasks" with
        | some tasks => tasks.children.map Task.ofElement
        | none => [] }

/-- The approval of the first `approval` element. -/
def Approval.ofElement (e : Element) : Approval :=
  ((e.child? "approval").bind fun a => (a.attribute? "type").bind Approval.ofText?).getD .success

/-- The stage that an element declares, with the jobs of its first `jobs` section. -/
def Stage.ofElement? (e : Element) : Option Stage :=
  (e.attribute? "name").map fun name =>
    { name := ⟨name⟩
      approval := Approval.ofElement e
      jobs := match e.child? "jobs" with
        | some jobs => (jobs.childrenNamed "job").filterMap Job.ofElement?
        | none => [] }

/-- The pipeline that an element declares, with the materials of its first `materials` section. -/
def Pipeline.ofElement? (origin : RepositoryOrigin) (e : Element) : Option Pipeline :=
  (e.attribute? "name").map fun name =>
    { name := ⟨name⟩
      labelTemplate := e.attribute? "labeltemplate"
      lockBehavior := ((e.attribute? "lockBehavior").bind LockBehavior.ofText?).getD .none
      materials := match e.child? "materials" with
        | some materials => materials.children.filterMap Material.ofElement?
        | none => []
      stages := (e.childrenNamed "stage").filterMap Stage.ofElement?
      origin := .repository origin }

/-- The group that an element declares. -/
def Group.ofElement? (origin : RepositoryOrigin) (e : Element) : Option Group :=
  (e.attribute? "group").map fun name =>
    { name, pipelines := (e.childrenNamed "pipeline").filterMap (Pipeline.ofElement? origin) }

/-- The variable that an element declares: its value is the text of its first `value` element, or
else its own text. -/
def Environment.variableOfElement? (e : Element) : Option (String × String) :=
  (e.attribute? "name").map fun name =>
    (name, (((e.child? "value").bind Element.text).or e.text).getD "")

/-- The environment that an element declares, with the variables and pipelines of the first section
of each kind. -/
def Environment.ofElement? (e : Element) : Option Environment :=
  (e.attribute? "name").map fun name =>
    { name := ⟨name⟩
      pipelines := match e.child? "pipelines" with
        | some section_ => (section_.childrenNamed "pipeline").filterMap fun p =>
          (p.attribute? "name").map Name.mk
        | none => []
      bindings := match e.child? "environmentvariables" with
        | some section_ => (section_.childrenNamed "variable").filterMap variableOfElement?
        | none => [] }

/-- What a document declares. The pipelines have the given origin. -/
def Fragment.ofElement (origin : RepositoryOrigin) (root : Element) : Fragment where
  groups := (root.childrenNamed "pipelines").filterMap (Group.ofElement? origin)
  environments := (root.childrenNamed "environments").flatMap fun section_ =>
    (section_.childrenNamed "environment").filterMap Environment.ofElement?

end PipelineSync
