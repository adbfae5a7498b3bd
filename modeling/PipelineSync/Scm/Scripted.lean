import PipelineSync.Files.Entry
import PipelineSync.KeyMap
import PipelineSync.Scm.Basic

/-!
# Scripted version control

A version control system that does what scripts say, to try out what works on top of one. Each
material has a script: the revision and the files its working copy gets, or how it fails.
-/

namespace PipelineSync

/-- How a scripted checkout fails. -/
inductive ScriptFailure where
  | checkout (message : String)
  | lock (context : String)
  | fragment (message : String)
deriving DecidableEq, Repr

/-- The error of a scripted failure. -/
def ScriptFailure.toError (m : Material) : ScriptFailure → Error
  | checkout message => .ofCheckout m message
  | lock context => .lockPoisoned context
  | fragment message => .mergeConflict "scm" message

/-- What happens to the working copy of a material. -/
structure Script where
  revision : String := "r0"
  files : List FileEntry := []
  originMatches : Bool := true
  failure : Option ScriptFailure := none
deriving DecidableEq, Repr, Inhabited

namespace Script

/-- Changes what is given in a record; a failure that is not given is none. -/
def change? (s : Script) (d : Data) : Option Script := do
  let fs ← d.asFields? [["revision"], ["files"], ["origin_matches"], ["failure"]]
  return {
    revision := ← fs.getD? "revision" s.revision Data.asText?
    files := ← fs.getD? "files" s.files (Data.asList? FileEntry.ofData?)
    originMatches := ← fs.getD? "origin_matches" s.originMatches Data.asBool?
    failure := ← fs.optional? "failure" failure? }
where
  /-- A kind of failure and its text. -/
  failure? (d : Data) : Option ScriptFailure := do
    match ← d.asList? Data.asText? with
    | ["checkout", text] => return .checkout text
    | ["lock", text] => return .lock text
    | ["fragment", text] => return .fragment text
    | _ => none

end Script

/-- The scripts of materials, and the calls so far. -/
structure Scripts where
  scripts : KeyMap Fingerprint Script := ∅
  calls : List String := []
deriving Inhabited

namespace Scripts

/-- The script of a material. -/
def of (s : Scripts) (m : Material) : Script :=
  (s.scripts.get? m.fingerprint).getD {}

/-- Sets the script of a material. -/
def set (s : Scripts) (m : Material) (script : Script) : Scripts :=
  { s with scripts := s.scripts.insert m.fingerprint script }

/-- Notes a call for a material. -/
def note (s : Scripts) (word : String) (m : Material) : Scripts :=
  { s with calls := s.calls ++ [word ++ " " ++ m.maskedUrl] }

end Scripts

namespace Scm

variable {ρ : Type}

/-- Makes the files of a working copy those of the script. -/
def play (scripts : ρ → Scripts) (m : Material) (dir : String) : Host.Action ρ String := do
  let h ← get
  let script := (scripts h.rest).of m
  match script.failure with
  | some failure => throw (failure.toError m)
  | none =>
    let files := (h.files.removeDir dir).toOption.getD h.files
    set { h with files := files.putBelow dir script.files }
    return script.revision

/-- A version control system by scripts, which are a part of a larger state. -/
def scripted (scripts : ρ → Scripts) (change : (Scripts → Scripts) → ρ → ρ) : Scm ρ :=
  let note (word : String) (m : Material) : Host.Action ρ Unit :=
    modify fun h => { h with rest := change (·.note word m) h.rest }
  { checkout := fun m dir => do
      note "checkout" m
      play scripts m dir
    update := fun m dir => do
      note "update" m
      play scripts m dir
    originMatches := fun m _ => do
      note "origin_matches" m
      return ((scripts (← get).rest).of m).originMatches }

end Scm

end PipelineSync
