import PipelineSync.Configuration.Basic

/-!
# Dashboard entries

What a dashboard shows about one pipeline: its recent runs, completed by the configured stages that
have not run, whether it is paused or locked, and who may do what with it.
-/

namespace PipelineSync

/-- The users with a permission. -/
inductive Users where
  | noOne
  | everyone
  /-- Users by name, each once, in order. -/
  | named (users : List String)
deriving DecidableEq, Repr, Inhabited

namespace Users

/-- The users with the given names. -/
def ofNames (names : List String) : Users :=
  .named (names.eraseDups.mergeSort fun a b => a ≤ b)

/-- Whether a user is one of them. -/
def contains : Users → String → Bool
  | noOne, _ => false
  | everyone, _ => true
  | named users, user => users.contains user

end Users

/-- Who may do what with a pipeline. -/
structure Permissions where
  viewers : Users := .noOne
  operators : Users := .noOne
  admins : Users := .noOne
  pipelineOperators : Users := .noOne
deriving DecidableEq, Repr, Inhabited

namespace Permissions

/-- Nobody may do anything. -/
def noOne : Permissions := {}

/-- Everybody may do everything. -/
def everyone : Permissions := ⟨.everyone, .everyone, .everyone, .everyone⟩

end Permissions

/-- How far a stage has come. -/
inductive StageStatus where
  | building
  /-- Still building, but a job has failed. -/
  | failing
  | passed
  | failed
  | cancelled
  | notRun
deriving DecidableEq, Repr, Inhabited

/-- A stage of a run. -/
structure StageRun where
  name : String
  counter : Nat
  status : StageStatus
deriving DecidableEq, Repr, Inhabited

/-- A stage that has not run. -/
def StageRun.pending (name : Name) : StageRun := ⟨name.text, 0, .notRun⟩

/-- Whether a pipeline takes a lock, has taken it, and can be relieved of it. -/
structure LockStatus where
  isLockable : Bool := false
  isLocked : Bool := false
  canUnlock : Bool := false
deriving DecidableEq, Repr, Inhabited

namespace Instance

/-- What stands behind an instance. -/
inductive Kind where
  | run
  /-- Triggered and not scheduled yet. -/
  | preparing
  /-- Never run. -/
  | empty
deriving DecidableEq, Repr, Inhabited

end Instance

/-- A run of a pipeline, or what is shown in place of one. -/
structure Instance where
  pipeline : String
  kind : Instance.Kind
  counter : Option Nat := none
  label : Option String := none
  stages : List StageRun
  lock : LockStatus := {}
deriving DecidableEq, Repr, Inhabited

namespace Instance

/-- A run. -/
def ofRun (pipeline : String) (counter : Nat) (label : String) (stages : List StageRun) :
    Instance :=
  { pipeline, kind := .run, counter := some counter, label := some label, stages }

/-- What is shown for a pipeline without runs: none of its stages has run. -/
def placeholder (kind : Kind) (p : Pipeline) : Instance :=
  { pipeline := p.name.text, kind, stages := p.stages.map fun s => .pending s.name }

/-- Adds a stage that has not run, unless one of its name is there. -/
def addPending (stages : List StageRun) (s : Stage) : List StageRun :=
  if stages.any fun r => s.name.same ⟨r.name⟩ then stages else stages ++ [.pending s.name]

/-- The instance with the configured stages that it does not know at the end. -/
def complete (p : Pipeline) (i : Instance) : Instance :=
  { i with stages := p.stages.foldl addPending i.stages }

/-- The last stage that has run. -/
def latestStage? (i : Instance) : Option StageRun :=
  i.stages.reverse.find? fun s => s.status ≠ .notRun

end Instance

/-- Whether a pipeline is paused, by whom and why. -/
structure PauseInfo where
  isPaused : Bool := false
  pausedBy : Option String := none
  cause : Option String := none
deriving DecidableEq, Repr, Inhabited

/-- Paused by somebody for a cause. -/
def PauseInfo.paused (by_ cause : String) : PauseInfo := ⟨true, some by_, some cause⟩

/-- What a dashboard shows about one pipeline. -/
structure DashboardEntry where
  name : String
  group : String
  canBeForced : Bool
  /-- Whether the pipeline is defined on the server, where it can be edited. -/
  isLocal : Bool
  pauseInfo : PauseInfo := {}
  /-- The latest one first. -/
  instances : List Instance
  permissions : Permissions := .noOne
deriving DecidableEq, Repr, Inhabited

namespace DashboardEntry

/-- The instance on top. -/
def latestInstance? (e : DashboardEntry) : Option Instance := e.instances.head?

/-- The last stage that has run of the instance on top. -/
def latestStage? (e : DashboardEntry) : Option StageRun :=
  e.latestInstance?.bind Instance.latestStage?

end DashboardEntry

end PipelineSync
