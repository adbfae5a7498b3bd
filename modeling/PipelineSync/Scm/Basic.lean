import PipelineSync.Host
import PipelineSync.Material.Basic

/-!
# Working copies

Every repository has one working copy below a common directory. It is made when it is missing,
brought up to date when it is one of the repository, and made anew when it is something else. What
it takes to do so is a matter of the version control system, an `Scm`.
-/

namespace PipelineSync

/-- What a version control system does with working copies. -/
structure Scm (ρ : Type) where
  /-- Makes a working copy in a directory that is empty or missing, and gives its revision. -/
  checkout : Material → String → Host.Action ρ String
  /-- Brings a working copy up to date, without local changes, and gives its revision. -/
  update : Material → String → Host.Action ρ String
  /-- Whether a directory holds a working copy of the material. -/
  originMatches : Material → String → Host.Action ρ Bool

/-- The failure to bring the working copy of a material up to date. -/
def Error.ofCheckout (m : Material) (message : String) : Error :=
  .checkoutFailed m.maskedUrl message

/-- The failure of a material that has no working copy. -/
def Error.notCheckoutable (m : Material) : Error :=
  .ofCheckout m "dependency materials have no working copy"

/-- The directory of all working copies. -/
structure WorkingCopies where
  directory : String
deriving DecidableEq, Repr

namespace WorkingCopies

variable {ρ : Type}

/-- The directory of a material's working copy. -/
def folder (w : WorkingCopies) (m : Material) : String :=
  Path.join w.directory m.folderName

/-- Makes a working copy where there is none. -/
def makeAnew (w : WorkingCopies) (scm : Scm ρ) (m : Material) (dir : String) :
    Host.Action ρ String := do
  Host.changeFiles
    (fun fault => .ofCheckout m ("could not create " ++ w.directory ++ ": " ++ fault.text))
    (·.makeDir w.directory)
  Host.note .workingCopies .info ("Checking out " ++ m.text ++ " into " ++ dir)
  scm.checkout m dir

/-- Makes the working copy of a material current: its directory and its revision. -/
def refresh (w : WorkingCopies) (scm : Scm ρ) (m : Material) :
    Host.Action ρ (String × String) := do
  if !m.kind.isScm then throw (.notCheckoutable m)
  let dir := w.folder m
  if (← get).files.holds dir then
    if ← scm.originMatches m dir then
      Host.note .workingCopies .debug ("Updating working copy of " ++ m.text ++ " at " ++ dir)
      return (dir, ← scm.update m dir)
    Host.note .workingCopies .warn ("Working copy at " ++ dir ++ " is not a checkout of " ++ m.text
      ++ "; checking out again")
    Host.changeFiles
      (fun fault => .ofCheckout m ("could not remove stale working copy: " ++ fault.text))
      (·.removeDir dir)
  return (dir, ← w.makeAnew scm m dir)

end WorkingCopies

end PipelineSync
