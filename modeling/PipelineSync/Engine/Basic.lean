import PipelineSync.Configuration.Merge
import PipelineSync.Health.Basic
import PipelineSync.Record.Basic
import PipelineSync.Tracker

/-!
# The engine

The engine holds the last good configuration: what every repository contributes since it was last
accepted, all of that merged with the local configuration, the records of the repositories, what is
wrong with them, and whose cycles are running. `World` is what a cycle needs of its surroundings;
nothing is assumed of it here.
-/

namespace PipelineSync

/-- The state of an engine. -/
structure Engine where
  localConfig : LocalConfiguration
  /-- What each repository contributes. -/
  partials : KeyMap Fingerprint Partial := ∅
  /-- The local configuration and all partials together. -/
  merged : Configuration := {}
  records : KeyMap Fingerprint UpdateRecord := ∅
  health : Health := {}
  tracker : Tracker := {}
deriving DecidableEq, Inhabited

/-- How a cycle ended. -/
inductive CycleOutcome where
  /-- Another cycle of the material is running. -/
  | alreadyInProgress
  /-- The working copy could not be brought up to date. -/
  | checkoutFailed (message : String)
  /-- The fragments were rejected; what was accepted before stays. -/
  | faulted (revision message : String)
  /-- The fragments are part of the configuration now. -/
  | merged (revision : String)
  /-- The revision was processed by the cycle before. -/
  | unchanged (revision : String)
deriving DecidableEq, Repr

/-- Where a repository stands. -/
inductive RepositoryState where
  | unattempted
  | inProgress
  | merged
  /-- Something is wrong, and what was accepted before stays. -/
  | faultedKeepingPrevious
deriving DecidableEq, Repr

/-- The surroundings of an engine, with a state `σ`. -/
structure World (σ : Type) where
  /-- Brings the working copy of a material up to date: its directory and its revision. -/
  refresh : Material → σ → Except Error (String × String) × σ
  /-- Reads what the working copy of a material in a directory contributes at a revision. -/
  parse : Material → (directory revision : String) → σ → Except Error Partial × σ
  /-- All records that were saved. -/
  loadAll : σ → Except Error (List UpdateRecord) × σ
  /-- Saves a record. -/
  save : UpdateRecord → σ → Except Error Unit × σ
  now : σ → Time
  log : Log.Line → σ → σ

namespace Engine

/-- The record of a repository, or a blank one. -/
def recordFor (e : Engine) (f : Fingerprint) (now : Time) : UpdateRecord :=
  (e.records.get? f).getD { key := f, updatedAt := now }

/-- The revision that the last cycle processed which got to the fragments. -/
def revisionAtLastAttempt? (e : Engine) (f : Fingerprint) : Option String :=
  (e.records.get? f).bind UpdateRecord.lastAttemptedRevision

/-- What a repository contributes. -/
def latestPartial? (e : Engine) (f : Fingerprint) : Option Partial :=
  e.partials.get? f

/-- Where a repository stands. -/
def state (e : Engine) (f : Fingerprint) : RepositoryState :=
  if e.tracker.isInProgress f then .inProgress
  else match e.records.get? f with
    | some r =>
      if r.lastFault.isSome || r.lastCheckoutFault.isSome then .faultedKeepingPrevious
      else if r.lastMerged.isSome then .merged
      else .unattempted
    | none => .unattempted

/-- The configuration with a partial in place of the repository's own. -/
def candidate (e : Engine) (f : Fingerprint) (p : Partial) : Except Error Configuration :=
  (merge e.localConfig (e.partials.insert f p)).mapError Conflict.toError

/-- Takes a merged configuration over. -/
def install (e : Engine) (merged : Configuration) : Engine :=
  { e with partials := merged.partials, merged }

end Engine

/-- An engine in its surroundings. -/
structure Running (σ : Type) where
  engine : Engine
  world : σ

namespace Running

variable {σ : Type}

/-- Changes the engine. -/
def change (s : Running σ) (f : Engine → Engine) : Running σ :=
  { s with engine := f s.engine }

/-- Says something on the side. -/
def say (w : World σ) (line : Log.Line) (s : Running σ) : Running σ :=
  { s with world := w.log line s.world }

/-- Puts a record into the engine. -/
def setRecord (f : Fingerprint) (r : UpdateRecord) (s : Running σ) : Running σ :=
  s.change fun e => { e with records := e.records.insert f r }

/-- Sets the entry of a health scope to an error. -/
def setHealth (w : World σ) (scope : HealthScope) (message description : String) (s : Running σ) :
    Running σ :=
  (s.say w (Health.recordLine scope ⟨.error, message, description⟩)).change fun e =>
    { e with health := e.health.error scope message description }

/-- Removes the entry of a health scope. -/
def clearHealth (w : World σ) (scope : HealthScope) (s : Running σ) : Running σ :=
  let cleared := s.change fun e => { e with health := e.health.clear scope }
  match s.engine.health.clearLine? scope with
  | some line => cleared.say w line
  | none => cleared

/-- Saves a record. -/
def save (w : World σ) (r : UpdateRecord) (s : Running σ) : Except Error Unit × Running σ :=
  let (result, world) := w.save r s.world
  (result, { s with world })

/-- Saves a record if that is possible, and takes it over in any case. Tells how saving it went. -/
def keepRecord (w : World σ) (f : Fingerprint) (r : UpdateRecord) (s : Running σ) :
    Except Error Unit × Running σ :=
  match s.save w r with
  | (.ok (), s) => (.ok (), s.setRecord f r)
  | (.error e, s) =>
    let line : Log.Line := ⟨.engine, .warn,
      "Could not persist update record for " ++ f.short ++ ": " ++ e.message⟩
    (.error e, (s.say w line).setRecord f r)

end Running

end PipelineSync
