import PipelineSync.Dashboard.Filter
import PipelineSync.Data.Basic

/-!
# Dashboards as data

The written form of dashboard entries, and the forms in which the services tell about users, runs
and permissions.
-/

namespace PipelineSync

namespace Users

/-- Writes users. -/
def toData : Users → Data
  | noOne => .record [("type", .text "no_one")]
  | everyone => .record [("type", .text "everyone")]
  | named users => .record [("type", .text "named"), ("users", .ofList .text users)]

/-- Reads users. -/
def ofData? (d : Data) : Option Users := do
  let fs ← d.asFields? [["type"], ["users"]]
  match ← fs.required? "type" Data.asText? with
  | "no_one" => return .noOne
  | "everyone" => return .everyone
  | "named" => return .ofNames (← fs.required? "users" (Data.asList? Data.asText?))
  | _ => none

end Users

namespace Permissions

/-- Writes permissions. -/
def toData (p : Permissions) : Data :=
  .record [("viewers", p.viewers.toData), ("operators", p.operators.toData),
    ("admins", p.admins.toData), ("pipeline_operators", p.pipelineOperators.toData)]

/-- Reads permissions; two words stand for those of nobody and of everybody. -/
def ofData? : Data → Option Permissions
  | .text "no_one" => some .noOne
  | .text "everyone" => some .everyone
  | d => do
    let fs ← d.asFields? [["viewers"], ["operators"], ["admins"], ["pipeline_operators"]]
    return {
      viewers := ← fs.required? "viewers" Users.ofData?
      operators := ← fs.required? "operators" Users.ofData?
      admins := ← fs.required? "admins" Users.ofData?
      pipelineOperators := ← fs.required? "pipeline_operators" Users.ofData? }

end Permissions

namespace StageStatus

/-- The word for a status. -/
def text : StageStatus → String
  | building => "building"
  | failing => "failing"
  | passed => "passed"
  | failed => "failed"
  | cancelled => "cancelled"
  | notRun => "not_run"

/-- The status with a word. -/
def ofText? : String → Option StageStatus
  | "building" => some building
  | "failing" => some failing
  | "passed" => some passed
  | "failed" => some failed
  | "cancelled" => some cancelled
  | "not_run" => some notRun
  | _ => none

end StageStatus

/-- Reads a counter, which has 32 bits. -/
def counterOfData? (d : Data) : Option Nat := d.asNat?.filter (· < 0x100000000)

namespace StageRun

/-- Writes a stage of a run. -/
def toData (s : StageRun) : Data :=
  .record [("name", .text s.name), ("counter", .ofNat s.counter), ("status", .text s.status.text)]

/-- Reads a stage of a run: its name, its counter and its status. -/
def ofData? : Data → Option StageRun
  | .tuple [name, counter, status] | .list [name, counter, status] => do
    return ⟨← name.asText?, ← counterOfData? counter, ← status.asText?.bind StageStatus.ofText?⟩
  | _ => none

end StageRun

namespace Instance

/-- The word for a kind. -/
def Kind.text : Kind → String
  | run => "run"
  | preparing => "preparing_to_schedule"
  | empty => "empty"

/-- Writes an instance. -/
def toData (i : Instance) : Data :=
  .record [("pipeline", .text i.pipeline), ("kind", .text i.kind.text),
    ("counter", .ofOption .ofNat i.counter), ("label", .ofOption .text i.label),
    ("stages", .ofList StageRun.toData i.stages),
    ("lock_status", .record [("is_lockable", .bool i.lock.isLockable),
      ("is_currently_locked", .bool i.lock.isLocked), ("can_unlock", .bool i.lock.canUnlock)])]

/-- Reads a run. -/
def ofData? (d : Data) : Option Instance := do
  let fs ← d.asFields? [["pipeline"], ["counter"], ["label"], ["stages"]]
  return .ofRun (← fs.required? "pipeline" Data.asText?) (← fs.required? "counter" counterOfData?)
    (← fs.required? "label" Data.asText?)
    (← fs.required? "stages" (Data.asList? StageRun.ofData?))

end Instance

/-- Writes whether a pipeline is paused. -/
def PauseInfo.toData (p : PauseInfo) : Data :=
  .record [("paused", .bool p.isPaused), ("paused_by", .ofOption .text p.pausedBy),
    ("cause", .ofOption .text p.cause)]

/-- Writes an entry. -/
def DashboardEntry.toData (e : DashboardEntry) : Data :=
  .record [("name", .text e.name), ("group", .text e.group),
    ("can_be_forced", .bool e.canBeForced), ("is_local", .bool e.isLocal),
    ("pause_info", e.pauseInfo.toData), ("instances", .ofList Instance.toData e.instances),
    ("permissions", e.permissions.toData)]

/-- Reads a filter. -/
def DashboardFilter.ofData? (d : Data) : Option DashboardFilter := do
  let fs ← d.asFields? [["states"]]
  let state? (d : Data) : Option StateFilter :=
    d.asWord?.bind fun word => (StateFilter.ofText word).toOption
  return { states := ← fs.getD? "states" [] (Data.asList? state?) }

end PipelineSync
