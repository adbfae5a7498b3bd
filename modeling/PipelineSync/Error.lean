import PipelineSync.Glob
import PipelineSync.Material.Fingerprint

/-!
# Failures

Everything that can go wrong on the way from a repository to the merged configuration, and the
wording of it. A failure either concerns a bad fragment, which leaves the last good configuration
in place, or something around it.
-/

namespace PipelineSync

/-- What went wrong. -/
inductive Error where
  /-- Another cycle of the material is running. -/
  | alreadyInProgress (fingerprint : Fingerprint)
  /-- The working copy could not be brought up to date. The address is the masked one. -/
  | checkoutFailed (url message : String)
  /-- A fragment is not well-formed. -/
  | malformedDocument (file : String) (line : Option Nat) (message : String)
  /-- A fragment breaks a rule of the schema at an element. -/
  | schemaViolation (file path message : String)
  /-- A partial does not go together with the rest of the configuration. -/
  | mergeConflict (subject message : String)
  /-- A second top-level transaction was started inside one surrounding. -/
  | multipleTransactionsNotPermitted
  /-- The body of a transaction ended well after something inside it asked for a rollback. -/
  | unexpectedRollback
  /-- A synchronization was registered where nothing is open. -/
  | synchronizationNotActive
  /-- The settings are not usable. -/
  | configParse (message : String) (hint : Option String)
  /-- A record could not be read or written. -/
  | persistence (path message : String)
  /-- A text is no record. -/
  | invalidRecord (path reason : String)
  /-- A file could not be read or written. -/
  | io (message : String)
  /-- A text is not structured data. -/
  | json (message : String)
  /-- A settings text is not well-formed, or not of the form of settings. -/
  | yaml (message : String)
  /-- A pattern is wrong. -/
  | glob (error : Glob.Error)
  /-- A shared part of the state was left in the middle of a change. -/
  | lockPoisoned (context : String)
deriving DecidableEq, Repr

namespace Error

/-- The wording of a failure. -/
def message : Error → String
  | alreadyInProgress f => "Update already in progress for material " ++ f.hex
  | checkoutFailed url message => "Checkout failed for " ++ url ++ ": " ++ message
  | malformedDocument file line message =>
    "Malformed document " ++ file
      ++ (match line with | some n => " (line " ++ toString n ++ ")" | none => "")
      ++ ": " ++ message
  | schemaViolation file path message =>
    "Schema violation in " ++ file ++ " at " ++ path ++ ": " ++ message
  | mergeConflict subject message => "Merge conflict for " ++ subject ++ ": " ++ message
  | multipleTransactionsNotPermitted =>
    "Multiple independent transactions are not permitted inside single transaction surrounding."
  | unexpectedRollback =>
    "Transaction rolled back because it has been marked as rollback-only"
  | synchronizationNotActive => "Transaction synchronization is not active"
  | configParse message hint =>
    "Configuration parsing error: " ++ message
      ++ (match hint with | some h => "\n  hint: " ++ h | none => "")
  | persistence path message | invalidRecord path message =>
    "Persistence error at " ++ path ++ ": " ++ message
  | io message => "I/O error: " ++ message
  | json message => "JSON error: " ++ message
  | yaml message => "YAML parsing error: " ++ message
  | glob e => "Glob pattern error: " ++ e.message
  | lockPoisoned context => "Lock poisoned: " ++ context

/-- Whether the failure lies in a fragment and not in what is around it. -/
def isFragmentError : Error → Bool
  | malformedDocument .. | schemaViolation .. | mergeConflict .. => true
  | _ => false

end Error

end PipelineSync
