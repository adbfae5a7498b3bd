import PipelineSync.Dashboard.Basic

/-!
# The board

Entries for all pipelines of a configuration, or for one of them, from what the services of the
server know. Every pipeline has at least one instance, and a pipeline of which the permission
service knows nothing is nobody's.
-/

namespace PipelineSync

/-- Values under names. Of equal names the last entry counts. -/
abbrev NameTable (α : Type) := List (Name × α)

namespace NameTable

/-- The value under a name, in whatever case. -/
def get? {α : Type} (t : NameTable α) (name : Name) : Option α :=
  (t.reverse.find? fun e => e.1.same name).map Prod.snd

/-- Takes the value under a name away. -/
def erase {α : Type} (t : NameTable α) (name : Name) : NameTable α :=
  t.filter fun e => !e.1.same name

end NameTable

/-- What the services of the server tell about pipelines. History and permissions are looked up
with an effect `m`. -/
structure Services (m : Type → Type) where
  /-- Recent runs of a pipeline, the latest first. -/
  history : String → m (List Instance)
  /-- Recent runs of many pipelines in one look-up. A pipeline that never ran may be left out. -/
  batchHistory : List Name → m (NameTable (List Instance))
  /-- The permissions on every pipeline that the permission service knows. -/
  allPermissions : m (NameTable Permissions)
  /-- The permissions on one pipeline. -/
  permissions : String → m (Option Permissions)
  /-- Whether a run was triggered and is not scheduled yet. -/
  isTriggered : String → Bool
  isLocked : String → Bool
  canUnlock : String → Bool
  pauseInfo : String → PauseInfo
  /-- Whether users can start a run. -/
  canTrigger : Pipeline → Bool

namespace Services

variable {m : Type → Type} [Monad m]

/-- A look-up of many pipelines that looks up one after the other. -/
def historyOneByOne (history : String → m (List Instance)) (names : List Name) :
    m (NameTable (List Instance)) :=
  names.mapM fun n => do return (n, ← history n.text)

/-- The entry of a pipeline with the given history and permissions. -/
def entry (s : Services m) (group : String) (p : Pipeline) (permissions : Option Permissions)
    (history : List Instance) : DashboardEntry :=
  let name := p.name.text
  let lock : LockStatus :=
    { isLockable := p.isLockable, isLocked := s.isLocked name, canUnlock := s.canUnlock name }
  let instances :=
    if history.isEmpty then
      [.placeholder (if s.isTriggered name then .preparing else .empty) p]
    else history
  { name
    group
    canBeForced := s.canTrigger p
    isLocal := p.isLocal
    pauseInfo := s.pauseInfo name
    instances := instances.map fun i => Instance.complete p { i with lock }
    permissions := permissions.getD .noOne }

/-- The entries of pipelines, each with its group. The history of a name is used once. -/
def entries (s : Services m) (permissions : NameTable Permissions) :
    NameTable (List Instance) → List (Group × Pipeline) → List DashboardEntry
  | _, [] => []
  | history, (g, p) :: rest =>
    s.entry g.name p (permissions.get? p.name) ((history.get? p.name).getD [])
      :: entries s permissions (history.erase p.name) rest

/-- The entries of all pipelines of a configuration, in its order. -/
def board (s : Services m) (c : Configuration) : m (List DashboardEntry) := do
  let permissions ← s.allPermissions
  let history ← s.batchHistory (c.pipelines.map Pipeline.name)
  return s.entries permissions history
    (c.groups.flatMap fun g => g.pipelines.map fun p => (g, p))

/-- The entry of one pipeline of a group. -/
def boardEntry (s : Services m) (p : Pipeline) (group : String) : m DashboardEntry := do
  let permissions ← s.permissions p.name.text
  let history ← s.history p.name.text
  return s.entry group p permissions history

end Services

end PipelineSync
