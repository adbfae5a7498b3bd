import PipelineSync.Engine.Basic
import PipelineSync.Fragment.Collection
import PipelineSync.Record.Store
import PipelineSync.Scm.Basic

/-!
# Engines on a host

The surroundings of an engine whose working copies are directories of a host.
-/

namespace PipelineSync

variable {ρ : Type}

/-- A place for records. -/
structure RecordStore (ρ : Type) where
  loadAll : Host.Action ρ (List UpdateRecord)
  save : UpdateRecord → Host.Action ρ Unit

/-- Record files as a place for records. -/
def RecordFiles.toStore (store : RecordFiles) : RecordStore ρ where
  loadAll := do
    match store.loadAll (← get).files with
    | .error e => throw e
    | .ok (records, lines) =>
      modify (·.addLines lines)
      return records
  save r := do
    let h ← get
    let (result, files) := store.save h.files r
    set { h with files }
    match result with
    | .ok () => return
    | .error e => throw e

/-- Reads what a working copy contributes. -/
def Partial.read (validator : Validator) (m : Material) (directory revision : String) :
    Host.Action ρ Partial := do
  let files := (← get).files
  modify (·.addLines (searchLines files directory m
    ++ readLines validator files directory m revision))
  match ofWorkingCopy validator files directory m revision with
  | .error e => throw e
  | .ok p =>
    modify (·.addLine p.parsedLine)
    return p

/-- The surroundings of an engine on a host. -/
def World.ofHost (scm : Scm ρ) (copies : WorkingCopies) (validator : Validator)
    (store : RecordStore ρ) : World (Host ρ) where
  refresh m := copies.refresh scm m
  parse m directory revision := Partial.read validator m directory revision
  loadAll := store.loadAll
  save r := store.save r
  now := Host.now
  log line h := h.addLine line

end PipelineSync
