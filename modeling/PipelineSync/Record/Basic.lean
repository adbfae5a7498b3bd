import PipelineSync.Configuration.Basic
import PipelineSync.Time

/-!
# Update records

What is known about the updates of one config repository. A record outlives the program, so that the
last good configuration comes back after a restart. Faults of the working copy and faults of the
fragments in it are kept apart.
-/

namespace PipelineSync

/-- The diagnosis of a failed update. -/
structure Fault where
  message : String
  description : String
  at_ : Time
deriving DecidableEq, Repr, Inhabited

/-- What is known about the updates of one repository. -/
structure UpdateRecord where
  key : Fingerprint
  lastAttemptedRevision : Option String := none
  /-- What the repository contributes since it was last accepted. -/
  lastMerged : Option Partial := none
  /-- The last fault of its fragments, until they are accepted again. -/
  lastFault : Option Fault := none
  /-- The last fault of its working copy, until that is up to date again. -/
  lastCheckoutFault : Option Fault := none
  updatedAt : Time
deriving DecidableEq, Repr, Inhabited

end PipelineSync
