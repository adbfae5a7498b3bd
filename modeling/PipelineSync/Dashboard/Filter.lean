import PipelineSync.Dashboard.Basic

/-!
# Dashboard filters

A view can be narrowed to pipelines in some states. A filter without states selects all pipelines.
-/

namespace PipelineSync

/-- A state to which a view can be narrowed. -/
inductive StateFilter where
  | paused
  | building
  | failing
  | cancelled
deriving DecidableEq, Repr, Inhabited

namespace StateFilter

/-- The word for a state. -/
def text : StateFilter → String
  | paused => "paused"
  | building => "building"
  | failing => "failing"
  | cancelled => "cancelled"

/-- The state with a word, or what is wrong with the word. -/
def ofText : String → Except String StateFilter
  | "paused" => .ok paused
  | "building" => .ok building
  | "failing" => .ok failing
  | "cancelled" => .ok cancelled
  | other => .error ("unknown state '" ++ other
      ++ "', expected one of paused, building, failing, cancelled")

/-- The state in which a pipeline is whose latest stage has the given status. -/
def ofStatus? : StageStatus → Option StateFilter
  | .building | .failing => some building
  | .failed => some failing
  | .cancelled => some cancelled
  | .passed | .notRun => none

end StateFilter

/-- The states that a view shows. -/
structure DashboardFilter where
  states : List StateFilter := []
deriving DecidableEq, Repr, Inhabited

namespace DashboardFilter

/-- Whether an entry is shown. -/
def accepts (f : DashboardFilter) (e : DashboardEntry) : Bool :=
  f.states.isEmpty
    || (e.pauseInfo.isPaused && f.states.contains .paused)
    || match e.latestStage?.bind fun s => StateFilter.ofStatus? s.status with
      | some state => f.states.contains state
      | none => false

/-- The entries that are shown. -/
def apply (f : DashboardFilter) (es : List DashboardEntry) : List DashboardEntry :=
  es.filter f.accepts

end DashboardFilter

end PipelineSync
