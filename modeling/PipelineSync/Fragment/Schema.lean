import PipelineSync.Error
import PipelineSync.Fragment.Basic

/-!
# The schema of fragments

`Schema.check` tells whether the tree of a document is a proper fragment. The first element that
breaks a rule, in the order of the checks, is reported with its path.
-/

namespace PipelineSync

namespace Schema

/-- The newest schema version that fragments may state. -/
def currentVersion : Nat := 139

/-- The elements that declare a material. -/
def materialElements : List String := ["svn", "hg", "git", "dependency"]

/-- The rules of the schema, by how they are broken. -/
inductive Rule where
  | notAllowed (child parent : String)
  | missingAttribute (key element : String)
  | invalidName (value key : String)
  | duplicateName (kind name : String)
  | wrongRoot (name : String)
  | versionTooNew (version supported : Nat)
  | versionNotPositive (text : String)
  | unknownLockBehavior (value : String)
  | noMaterials
  | repeatedMaterials
  | noMaterial
  | badFilterEntry
  | duplicateMaterial (material : Material)
  | noStage
  | unknownApproval (value : String)
  | noJobs
  | noJob
deriving DecidableEq, Repr

/-- The wording of a broken rule. -/
def Rule.text : Rule → String
  | notAllowed child parent => "element '" ++ child ++ "' is not allowed in '" ++ parent ++ "'"
  | missingAttribute key element =>
    "attribute '" ++ key ++ "' is required on '" ++ element ++ "'"
  | invalidName value key =>
    "'" ++ value ++ "' is not a valid " ++ key
      ++ "; names may contain letters, digits, '_', '-' and '.', "
      ++ "must not start with '.' and are limited to 255 characters"
  | duplicateName kind name => "duplicate " ++ kind ++ " name '" ++ name ++ "'"
  | wrongRoot name => "root element must be 'cruise', found '" ++ name ++ "'"
  | versionTooNew version supported =>
    "schemaVersion " ++ toString version ++ " is newer than the supported version "
      ++ toString supported
  | versionNotPositive text => "schemaVersion '" ++ text ++ "' is not a positive integer"
  | unknownLockBehavior value =>
    "lockBehavior '" ++ value
      ++ "' must be one of lockOnFailure, unlockWhenFinished, none"
  | noMaterials => "pipeline must declare 'materials'"
  | repeatedMaterials => "pipeline must declare 'materials' only once"
  | noMaterial => "at least one material is required"
  | badFilterEntry => "filter entries must be 'ignore' elements with a 'pattern'"
  | duplicateMaterial material => "duplicate material " ++ material.text
  | noStage => "pipeline must declare at least one stage"
  | unknownApproval value => "approval type '" ++ value ++ "' must be one of success, manual"
  | noJobs => "stage must declare 'jobs'"
  | noJob => "stage must declare at least one job"

/-- A broken rule and the path of the element that breaks it. -/
structure Violation where
  path : String
  rule : Rule
deriving DecidableEq, Repr

/-- A check that passes or finds a violation. -/
abbrev Check := Except Violation

/-- Breaks a rule unless a condition holds. -/
def require (condition : Bool) (path : String) (rule : Rule) : Check Unit :=
  if condition then .ok () else .error ⟨path, rule⟩

/-- All children have one of the given names. -/
def onlyChildren (path : String) (e : Element) (allowed : List String) : Check Unit :=
  match e.children.find? fun c => !allowed.contains c.name with
  | some child => .error ⟨path, .notAllowed child.name e.name⟩
  | none => .ok ()

/-- The value of an attribute that has to be a valid name. -/
def requiredName (path : String) (e : Element) (key : String) : Check String :=
  match e.attribute? key with
  | none => .error ⟨path, .missingAttribute key e.name⟩
  | some value => do
    require (Name.isValid value) path (.invalidName value key)
    return value

/-- Adds a name to those seen, unless it is there in some case. -/
def distinctName (path kind : String) (seen : List String) (name : String) :
    Check (List String) := do
  require (!seen.contains (Text.fold name)) path (.duplicateName kind name)
  return Text.fold name :: seen

/-- The number that a schema version states: digits, with a `+` in front if it likes. -/
def versionNumber? (text : String) : Option Nat :=
  let digits := match text.toList with
    | '+' :: cs => cs
    | cs => cs
  if digits.isEmpty || !digits.all Char.isDigit then none
  else
    let n := digits.foldl (fun n c => 10 * n + (c.toNat - 0x30)) 0
    if n < 0x100000000 then some n else none

/-- The schema version, if stated, is a positive number up to the supported one. -/
def checkVersion (supported : Nat) (path : String) (root : Element) : Check Unit :=
  match root.attribute? "schemaVersion" with
  | none => .ok ()
  | some text =>
    match versionNumber? text with
    | none => .error ⟨path, .versionNotPositive text⟩
    | some n => do
      require (n ≤ supported) path (.versionTooNew n supported)
      require (0 < n) path (.versionNotPositive text)

/-- A material has the attributes it needs, a proper filter, and is not among those seen. -/
def checkMaterial (parent : String) (seen : List Fingerprint) (e : Element) :
    Check (List Fingerprint) := do
  let path := parent ++ "/" ++ e.name
  let needed := if e.name = "dependency" then ["pipeline", "stage"] else ["url"]
  match needed.find? fun a => (e.attribute? a).isNone with
  | some key => .error ⟨path, .missingAttribute key e.name⟩
  | none =>
    let entries := ((e.child? "filter").map Element.children).getD []
    match entries.find? fun c => c.name != "ignore" || (c.attribute? "pattern").isNone with
    | some entry => .error ⟨path ++ "/filter/" ++ entry.name, .badFilterEntry⟩
    | none =>
      match Material.ofElement? e with
      | none => return seen
      | some m => do
        require (!seen.contains m.pipelineUniqueFingerprint) path (.duplicateMaterial m)
        return m.pipelineUniqueFingerprint :: seen

/-- A `materials` section holds one or more distinct materials. -/
def checkMaterials (parent : String) (e : Element) : Check Unit := do
  let path := parent ++ "/materials"
  onlyChildren path e materialElements
  require (!e.children.isEmpty) path .noMaterial
  let _ ← e.children.foldlM (checkMaterial path) []

/-- A job has a valid name that is not among those seen. -/
def checkJob (parent : String) (seen : List String) (e : Element) : Check (List String) := do
  let path := parent ++ "/" ++ e.segment
  let name ← requiredName path e "name"
  distinctName path "job" seen name

/-- The approval of a stage, if it has one, is known. -/
def checkApproval (path : String) (e : Element) : Check Unit :=
  match e.child? "approval" with
  | none => .ok ()
  | some approval =>
    let kind := (approval.attribute? "type").getD "success"
    require (Approval.ofText? kind).isSome (path ++ "/approval") (.unknownApproval kind)

/-- A stage has a valid name that is not among those seen, a known approval, and jobs. -/
def checkStage (parent : String) (seen : List String) (e : Element) : Check (List String) := do
  let path := parent ++ "/" ++ e.segment
  let name ← requiredName path e "name"
  let seen ← distinctName path "stage" seen name
  onlyChildren path e ["approval", "jobs"]
  checkApproval path e
  match e.child? "jobs" with
  | none => .error ⟨path, .noJobs⟩
  | some jobs => do
    let path := path ++ "/jobs"
    onlyChildren path jobs ["job"]
    let names ← jobs.children.foldlM (checkJob path) []
    require (!names.isEmpty) path .noJob
    return seen

/-- A pipeline has a valid name, a known lock behaviour, one `materials` section, and stages. -/
def checkPipeline (parent : String) (e : Element) : Check Unit := do
  let path := parent ++ "/" ++ e.segment
  let _ ← requiredName path e "name"
  match e.attribute? "lockBehavior" with
  | some lock => require (LockBehavior.ofText? lock).isSome path (.unknownLockBehavior lock)
  | none => pure ()
  onlyChildren path e ["materials", "stage"]
  match e.childrenNamed "materials" with
  | [] => .error ⟨path, .noMaterials⟩
  | [materials] => checkMaterials path materials
  | _ => .error ⟨path, .repeatedMaterials⟩
  let names ← (e.childrenNamed "stage").foldlM (checkStage path) []
  require (!names.isEmpty) path .noStage

/-- A group has a valid name and holds pipelines. -/
def checkGroup (parent : String) (e : Element) : Check Unit := do
  let path := parent ++ "/" ++ e.segment
  let _ ← requiredName path e "group"
  onlyChildren path e ["pipeline"]
  e.children.forM (checkPipeline path)

/-- The variables of an environment have names. -/
def checkVariables (parent : String) (e : Element) : Check Unit := do
  let path := parent ++ "/environmentvariables"
  onlyChildren path e ["variable"]
  e.children.forM fun v =>
    require (v.attribute? "name").isSome (path ++ "/variable")
      (.missingAttribute "name" "variable")

/-- The pipelines that an environment lists have valid names. -/
def checkMembers (parent : String) (e : Element) : Check Unit := do
  let path := parent ++ "/pipelines"
  onlyChildren path e ["pipeline"]
  e.children.forM fun p => do
    let _ ← requiredName path p "name"

/-- An environment has a valid name that is not among those seen, variables and pipelines. -/
def checkEnvironment (parent : String) (seen : List String) (e : Element) :
    Check (List String) := do
  let path := parent ++ "/" ++ e.segment
  let name ← requiredName path e "name"
  let seen ← distinctName path "environment" seen name
  onlyChildren path e ["environmentvariables", "pipelines"]
  match e.child? "environmentvariables" with
  | some section_ => checkVariables path section_
  | none => pure ()
  match e.child? "pipelines" with
  | some members => checkMembers path members
  | none => pure ()
  return seen

/-- A section of environments. -/
def checkEnvironments (parent : String) (seen : List String) (e : Element) :
    Check (List String) := do
  let path := parent ++ "/" ++ e.segment
  onlyChildren path e ["environment"]
  e.children.foldlM (checkEnvironment path) seen

/-- A document is a proper fragment. -/
def check (supported : Nat) (root : Element) : Check Unit := do
  let path := "/" ++ root.name
  require (root.name == "cruise") path (.wrongRoot root.name)
  checkVersion supported path root
  onlyChildren path root ["pipelines", "environments"]
  (root.childrenNamed "pipelines").forM (checkGroup path)
  let _ ← (root.childrenNamed "environments").foldlM (checkEnvironments path) []

/-- The failure of a file that breaks the schema. -/
def Violation.toError (file : String) (v : Violation) : Error :=
  .schemaViolation file v.path v.rule.text

end Schema

end PipelineSync
