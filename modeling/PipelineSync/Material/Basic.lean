import PipelineSync.Material.Fingerprint
import PipelineSync.Text.Alphanumeric
import PipelineSync.Text.Blank
import PipelineSync.Text.Quoted
import PipelineSync.Url.Basic

/-!
# Materials

A material is a versioned source that a pipeline consumes: a Subversion, Mercurial or Git
repository, or the output of a stage of another pipeline. `Material.fingerprint` identifies it by a
few of its attributes; the password is never among them, and no rendering of a material shows it.
-/

namespace PipelineSync

/-- The kinds of versioned sources. -/
inductive Material.Kind where
  | svn
  | hg
  | git
  /-- The output of a stage of another pipeline. -/
  | dependency
deriving DecidableEq, Repr, Inhabited

/-- A versioned source, with the credentials and options for its use. -/
structure Material where
  kind : Material.Kind
  /-- The address of the repository; of a dependency, the name of the other pipeline. -/
  url : String
  username : Option String := none
  password : Option String := none
  /-- The branch of a Git or Mercurial repository. -/
  branch : Option String := none
  /-- The stage of a dependency. -/
  stage : Option String := none
  /-- Whether Subversion externals are checked out too. -/
  checkExternals : Bool := false
  /-- The directory, below the working directory of a pipeline, of the material. -/
  destination : Option String := none
  /-- Patterns of paths that neither trigger builds nor hold fragments. -/
  filter : List String := []
deriving DecidableEq, Repr, Inhabited

namespace Material

namespace Kind

/-- The short name of a kind. -/
def text : Kind → String
  | svn => "svn"
  | hg => "hg"
  | git => "git"
  | dependency => "dependency"

/-- The kind with a short name. -/
def ofText? : String → Option Kind
  | "svn" => some svn
  | "hg" => some hg
  | "git" => some git
  | "dependency" => some dependency
  | _ => none

/-- The name of a kind as renderings write it. -/
def label : Kind → String
  | svn => "Svn"
  | hg => "Hg"
  | git => "Git"
  | dependency => "Dependency"

/-- The type of material that leads the identifying attributes. -/
def typeName (k : Kind) : String := k.label ++ "Material"

/-- Whether materials of the kind have a working copy. -/
def isScm : Kind → Bool
  | dependency => false
  | _ => true

end Kind

/-! ## Identity -/

/-- The branch that a Git material without a branch stands for. -/
def defaultGitBranch : String := "master"

/-- The branch of a material: of a Git material the default one if it names none. -/
def effectiveBranch (m : Material) : Option String :=
  match m.kind, m.branch with
  | .git, none => some defaultGitBranch
  | _, branch => branch

/-- `true` or `false`. -/
def boolText (b : Bool) : String := if b then "true" else "false"

/-- A pair with this key, if there is a value. -/
def optionalPair (key : String) (value : Option String) : List (String × String) :=
  match value with
  | some v => [(key, v)]
  | none => []

/-- The attributes that identify a material, in their fixed order. -/
def criteria (m : Material) : List (String × String) :=
  ("type", m.kind.typeName) ::
    match m.kind with
    | .svn => [("url", m.url), ("username", m.username.getD ""),
        ("checkExternals", boolText m.checkExternals)]
    | .git | .hg => ("url", m.url) ::
        (optionalPair "username" m.username ++ optionalPair "branch" m.effectiveBranch)
    | .dependency => [("pipelineName", m.url), ("stageName", m.stage.getD "")]

/-- The identity of a material, for locks and caches. -/
def fingerprint (m : Material) : Fingerprint :=
  .ofCriteria m.criteria

/-- The identity of a material within one pipeline, where a repository may be used twice. -/
def pipelineUniqueFingerprint (m : Material) : Fingerprint :=
  .ofCriteria (m.criteria ++ [("dest", m.destination.getD "")])

/-- Everything that tells two materials apart: all but the password, and the branch in effect. -/
def withoutCredentials (m : Material) : Material :=
  { m with password := none, branch := m.effectiveBranch }

/-- Whether two materials are the same but for their passwords. -/
def same (a b : Material) : Bool :=
  a.withoutCredentials == b.withoutCredentials

/-! ## Rendering -/

/-- The address with a password in it masked. -/
def maskedUrl (m : Material) : String :=
  Url.maskPassword m.url

/-- The summary of a material on a dashboard. -/
def longDescription (m : Material) : String :=
  match m.kind with
  | .svn => "URL: " ++ m.maskedUrl ++ ", Username: " ++ m.username.getD "" ++
      ", CheckExternals: " ++ boolText m.checkExternals
  | .git | .hg =>
    match m.effectiveBranch with
    | some branch => "URL: " ++ m.maskedUrl ++ ", Branch: " ++ branch
    | none => "URL: " ++ m.maskedUrl
  | .dependency => m.url ++ " [ " ++ m.stage.getD "" ++ " ]"

/-- A material in one line: its type, its address, and the stage and destination it has. -/
def text (m : Material) : String :=
  m.kind.typeName ++ "[" ++ m.maskedUrl
    ++ (match m.stage with | some stage => " / " ++ stage | none => "")
    ++ (match m.destination with | some dest => " -> " ++ dest | none => "")
    ++ "]"

/-- An optional text as a rendering of all attributes shows it. -/
def showOption : Option String → String
  | some s => "Some(" ++ Text.quote s ++ ")"
  | none => "None"

/-- All attributes by name, with the passwords masked. -/
def showAttributes (m : Material) : String :=
  "MaterialIdentity \x7b kind: " ++ m.kind.label
    ++ ", url: " ++ Text.quote m.maskedUrl
    ++ ", username: " ++ showOption m.username
    ++ ", password: " ++ showOption (m.password.map fun _ => Url.mask)
    ++ ", branch: " ++ showOption m.branch
    ++ ", stage: " ++ showOption m.stage
    ++ ", check_externals: " ++ boolText m.checkExternals
    ++ ", destination: " ++ showOption m.destination
    ++ ", filter: [" ++ String.intercalate ", " (m.filter.map Text.quote) ++ "] \x7d"

/-! ## Working copies -/

/-- A short name: the last part of the address without its `.git`. -/
def displayName (m : Material) : String :=
  if m.kind = .dependency then m.url
  else
    let address := Text.dropEndWhile (· == '/') m.maskedUrl.toList
    let last := ((Text.splitAt (fun c => c == '/' || c == ':') address).getLast?).getD []
    let name := Text.dropEndAll ".git".toList last
    if name.isEmpty then "material" else String.ofList name

/-- A character as part of a file name. -/
def fileSafeChar (c : Char) : Char :=
  if c == '/' || c == '\\' then '-'
  else if Text.isAlphanumeric c || c == '.' || c == '-' || c == '_' then c
  else '_'

/-- Text with every character that file names should not hold replaced. -/
def fileSafe (s : String) : String :=
  String.ofList (s.toList.map fileSafeChar)

/-- The directory name of the working copy: a readable part, and the fingerprint, so that different
materials never share a directory. -/
def folderName (m : Material) : String :=
  fileSafe m.displayName ++ "-" ++ m.fingerprint.hex

end Material

end PipelineSync
