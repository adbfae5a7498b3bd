import PipelineSync.Scm.Basic
import PipelineSync.Text.Replace
import PipelineSync.Text.Utf8

/-!
# Version control by commands

Working copies by way of the programs `git`, `hg` and `svn`. The credentials of a material go into
the arguments of a program, and never into what is told of its failure: `scrub` takes them out of
the text.
-/

namespace PipelineSync

/-- A program to run. -/
structure Invocation where
  program : String
  args : List String
  /-- The directory to run in, if it is not the current one. -/
  directory : Option String := none
deriving DecidableEq, Repr

/-- What a program that has run leaves. -/
structure ProgramResult where
  exitCode : Nat := 0
  output : List UInt8 := []
  errors : List UInt8 := []
deriving DecidableEq, Repr, Inhabited

/-- How programs are run. The failure to start one is that of a file. -/
abbrev Runner (ρ : Type) := Invocation → Host ρ → Except FileFault ProgramResult × Host ρ

namespace Scm.Command

variable {ρ : Type}

/-! ## Credentials -/

/-- The address of a material with its credentials in it, unless the address has a user of its own
or cannot hold any. -/
def authenticatedUrl (m : Material) : String :=
  match m.username, Url.parse? m.url with
  | some username, some u =>
    if u.username.isEmpty && u.hasHost && u.scheme != "file".toList then
      let u := u.setUsername username
      (match m.password with | some password => u.setPassword password | none => u).toText
    else m.url
  | _, _ => m.url

/-- The options by which `svn` gets credentials. -/
def svnCredentials (m : Material) : List String :=
  "--non-interactive" ::
    ((match m.username with | some name => ["--username", name] | none => [])
      ++ (match m.password with | some password => ["--password", password] | none => []))

/-- The passwords of a material: the configured one, and the one in the address as it stands
there. -/
def passwords (m : Material) : List (List Char) :=
  (m.password.map String.toList).toList
    ++ ((Url.parse? m.url).bind Url.password).toList

/-- A text with the passwords of a material masked. -/
def scrub (m : Material) (text : String) : String :=
  String.ofList <|
    ((passwords m).filter fun p => !p.isEmpty).foldl
      (fun cs p => Text.replaceAll p Url.mask.toList cs) text.toList

/-! ## Commands -/

/-- The branch of a Mercurial material. -/
def hgBranch (m : Material) : String := m.branch.getD "default"

/-- The option that leaves externals out, unless they are wanted. -/
def externalsOption (m : Material) : List String :=
  if m.checkExternals then [] else ["--ignore-externals"]

/-- The command that makes a working copy. -/
def checkoutCommand? (m : Material) (dir : String) : Option Invocation :=
  match m.kind with
  | .git => some ⟨"git", ["clone", "--branch", m.effectiveBranch.getD Material.defaultGitBranch,
      authenticatedUrl m, dir], none⟩
  | .hg => some ⟨"hg", ["clone", "-b", hgBranch m, authenticatedUrl m, dir], none⟩
  | .svn => some ⟨"svn", "checkout" :: (svnCredentials m ++ externalsOption m ++ [m.url, dir]),
      none⟩
  | .dependency => none

/-- The commands that bring a working copy up to date, without the directory they run in. -/
def updateCommands? (m : Material) : Option (List Invocation) :=
  match m.kind with
  | .git =>
    let branch := m.effectiveBranch.getD Material.defaultGitBranch
    some [⟨"git", ["fetch", "origin"], none⟩, ⟨"git", ["reset", "--hard", "origin/" ++ branch], none⟩,
      ⟨"git", ["clean", "-dffx"], none⟩]
  | .hg => some [⟨"hg", ["pull", "-b", hgBranch m], none⟩, ⟨"hg", ["update", "-C", hgBranch m], none⟩]
  | .svn => some [⟨"svn", ["cleanup"], none⟩, ⟨"svn", ["revert", "-R", "."], none⟩,
      ⟨"svn", "update" :: (svnCredentials m ++ externalsOption m), none⟩]
  | .dependency => none

/-- The command that tells the revision of a working copy. -/
def revisionCommand? (m : Material) : Option Invocation :=
  match m.kind with
  | .git => some ⟨"git", ["rev-parse", "HEAD"], none⟩
  | .hg => some ⟨"hg", ["id", "-i"], none⟩
  | .svn => some ⟨"svn", ["info", "--show-item", "revision"], none⟩
  | .dependency => none

/-- The command that tells the origin of a working copy, and the answer for the material's own. -/
def originCommand? (m : Material) : Option (Invocation × String) :=
  match m.kind with
  | .git => some (⟨"git", ["config", "--get", "remote.origin.url"], none⟩, authenticatedUrl m)
  | .hg => some (⟨"hg", ["paths", "default"], none⟩, authenticatedUrl m)
  | .svn => some (⟨"svn", ["info", "--show-item", "url"], none⟩, m.url)
  | .dependency => none

/-! ## Running -/

/-- What programs say when credentials are wrong. -/
def authenticationHints : List String :=
  ["Authentication failed", "Permission denied", "Could not read from remote repository",
    "authorization failed"]

/-- What is told of a program that failed. -/
def failureText (m : Material) (errors : List UInt8) : String :=
  let said := scrub m (Text.Utf8.decode errors)
  if authenticationHints.any fun hint => Text.occursIn hint.toList said.toList then
    "Authentication failed. Make sure the configured username and password "
      ++ "(or SSH key) grant access to the repository.\nError: " ++ Text.trim said
  else Text.trim said

/-- Runs a command: what it printed, without white space around it. -/
def run (runner : Runner ρ) (m : Material) (i : Invocation) : Host.Action ρ String := do
  Host.note .workingCopies .debug ("Running " ++ i.program ++ " " ++ i.args.headD "")
  let (r, h) := runner i (← get)
  set h
  match r with
  | .error fault => throw (.ofCheckout m ("failed to run " ++ i.program ++ ": " ++ fault.text))
  | .ok result =>
    if result.exitCode = 0 then return Text.trim (Text.Utf8.decode result.output)
    else throw (.ofCheckout m (failureText m result.errors))

/-- The revision of a working copy. -/
def revision (runner : Runner ρ) (m : Material) (dir : String) : Host.Action ρ String :=
  match revisionCommand? m with
  | some i => run runner m { i with directory := some dir }
  | none => throw (.notCheckoutable m)

/-- Makes a working copy. -/
def checkout (runner : Runner ρ) (m : Material) (dir : String) : Host.Action ρ String := do
  match checkoutCommand? m dir with
  | some i => discard (run runner m i)
  | none => throw (.notCheckoutable m)
  revision runner m dir

/-- Brings a working copy up to date. -/
def update (runner : Runner ρ) (m : Material) (dir : String) : Host.Action ρ String := do
  match updateCommands? m with
  | some is => is.forM fun i => discard (run runner m { i with directory := some dir })
  | none => throw (.notCheckoutable m)
  revision runner m dir

/-- An address without slashes at its end. -/
def withoutEndSlashes (url : String) : List Char :=
  Text.dropEndWhile (· == '/') url.toList

/-- Whether a directory holds a working copy of the material: slashes at the end of the address
make no difference. -/
def originMatches (runner : Runner ρ) (m : Material) (dir : String) : Host.Action ρ Bool := do
  match originCommand? m with
  | none => return false
  | some (i, expected) =>
    try
      let origin ← run runner m { i with directory := some dir }
      return withoutEndSlashes origin = withoutEndSlashes expected
    catch e =>
      Host.note .workingCopies .debug (dir ++ " is not a working copy of " ++ m.text ++ ": " ++ e.message)
      return false

end Scm.Command

/-- The version control systems that are run by commands. -/
def Scm.ofRunner {ρ : Type} (runner : Runner ρ) : Scm ρ :=
  { checkout := Command.checkout runner
    update := Command.update runner
    originMatches := Command.originMatches runner }

end PipelineSync
