import PipelineSync.KeyMap
import PipelineSync.Material.Basic
import PipelineSync.Name

/-!
# The configuration of a server

Pipelines in groups, and environments that list pipelines: as a config repository contributes them
(`Partial`), as the server defines them itself (`LocalConfiguration`), and as they stand together
(`Configuration`).
-/

namespace PipelineSync

/-- When a pipeline takes and releases its lock. -/
inductive LockBehavior where
  | lockOnFailure
  | unlockWhenFinished
  | none
deriving DecidableEq, Repr, Inhabited

namespace LockBehavior

/-- The word for a lock behaviour. -/
def text : LockBehavior → String
  | lockOnFailure => "lockOnFailure"
  | unlockWhenFinished => "unlockWhenFinished"
  | none => "none"

/-- The lock behaviour with a word. -/
def ofText? : String → Option LockBehavior
  | "lockOnFailure" => some lockOnFailure
  | "unlockWhenFinished" => some unlockWhenFinished
  | "none" => some none
  | _ => Option.none

end LockBehavior

/-- What starts a stage: the success of the stage before it, or somebody. -/
inductive Approval where
  | success
  | manual
deriving DecidableEq, Repr, Inhabited

namespace Approval

/-- The word for an approval. -/
def text : Approval → String
  | success => "success"
  | manual => "manual"

/-- The approval with a word. -/
def ofText? : String → Option Approval
  | "success" => some success
  | "manual" => some manual
  | _ => none

end Approval

/-- The config repository and the revision that a definition was read from. -/
structure RepositoryOrigin where
  fingerprint : Fingerprint
  /-- The address, with its password masked. -/
  url : String
  revision : String
deriving DecidableEq, Repr, Inhabited

namespace RepositoryOrigin

/-- The origin of what `material` holds at `revision`. -/
def ofMaterial (material : Material) (revision : String) : RepositoryOrigin :=
  ⟨material.fingerprint, material.maskedUrl, revision⟩

/-- The address and the revision. -/
def text (o : RepositoryOrigin) : String :=
  o.url ++ " at revision " ++ o.revision

end RepositoryOrigin

/-- Where a pipeline is defined. -/
inductive Origin where
  /-- On the server itself. -/
  | local
  | repository (origin : RepositoryOrigin)
deriving DecidableEq, Repr, Inhabited

/-- A step of a job. -/
structure Task where
  /-- The name of the element that declares the task. -/
  kind : String
  command : Option String := none
  args : List String := []
deriving DecidableEq, Repr, Inhabited

/-- Tasks that one agent runs in order. -/
structure Job where
  name : Name
  tasks : List Task := []
deriving DecidableEq, Repr, Inhabited

/-- Jobs that may run side by side. -/
structure Stage where
  name : Name
  approval : Approval := .success
  jobs : List Job
deriving DecidableEq, Repr, Inhabited

/-- Stages that run in order on the material of a change. -/
structure Pipeline where
  name : Name
  labelTemplate : Option String := none
  lockBehavior : LockBehavior := .none
  materials : List Material := []
  stages : List Stage := []
  origin : Origin := .local
deriving DecidableEq, Repr, Inhabited

namespace Pipeline

/-- Whether runs of the pipeline lock it. -/
def isLockable (p : Pipeline) : Bool := p.lockBehavior != .none

/-- Whether the pipeline is defined on the server, where it can be edited. -/
def isLocal (p : Pipeline) : Bool := p.origin == .local

end Pipeline

/-- Pipelines under one heading. The names of groups are compared exactly. -/
structure Group where
  name : String
  pipelines : List Pipeline := []
deriving DecidableEq, Repr, Inhabited

namespace Group

/-- The pipeline of a group with the given name. -/
def find? (g : Group) (name : Name) : Option Pipeline :=
  g.pipelines.find? fun p => p.name.same name

/-- Adds a group to a list: its pipelines go behind those of the group with its name, or else it
goes to the end. -/
def addTo (g : Group) : List Group → List Group
  | [] => [g]
  | h :: rest =>
    if h.name = g.name then { h with pipelines := h.pipelines ++ g.pipelines } :: rest
    else h :: addTo g rest

end Group

/-- Pipelines that run with common variables. -/
structure Environment where
  name : Name
  pipelines : List Name := []
  /-- Names and values in the order of their declaration. -/
  bindings : List (String × String) := []
deriving DecidableEq, Repr, Inhabited

/-- What one config repository contributes at one revision. -/
structure Partial where
  origin : RepositoryOrigin
  groups : List Group := []
  environments : List Environment := []
deriving DecidableEq, Repr, Inhabited

namespace Partial

/-- Whether nothing is contributed. -/
def isEmpty (p : Partial) : Bool :=
  p.groups.all (·.pipelines.isEmpty) && p.environments.isEmpty

/-- All pipelines in order. -/
def pipelines (p : Partial) : List Pipeline :=
  p.groups.flatMap Group.pipelines

/-- The pipeline with the given name. -/
def find? (p : Partial) (name : Name) : Option Pipeline :=
  p.pipelines.find? fun q => q.name.same name

end Partial

/-- What the server defines itself. -/
structure LocalConfiguration where
  groups : List Group := []
  environments : List Environment := []
deriving DecidableEq, Repr, Inhabited

/-- Everything together: the local definitions and those of every accepted partial. -/
structure Configuration where
  groups : List Group := []
  environments : List Environment := []
  partials : KeyMap Fingerprint Partial := ∅
deriving DecidableEq, Inhabited

namespace Configuration

/-- All pipelines in order. -/
def pipelines (c : Configuration) : List Pipeline :=
  c.groups.flatMap Group.pipelines

/-- The pipeline with the given name. -/
def find? (c : Configuration) (name : Name) : Option Pipeline :=
  c.pipelines.find? fun p => p.name.same name

/-- The name of the group that holds the pipeline with the given name. -/
def groupOf? (c : Configuration) (name : Name) : Option String :=
  (c.groups.find? fun g => (g.find? name).isSome).map Group.name

/-- The environment with the given name. -/
def findEnvironment? (c : Configuration) (name : Name) : Option Environment :=
  c.environments.find? fun e => e.name.same name

/-- A stop on the way through all groups and pipelines. -/
inductive Stop where
  | group (group : Group)
  | pipeline (group : Group) (pipeline : Pipeline)
deriving DecidableEq, Repr

/-- Every group, followed by its pipelines. -/
def walk (c : Configuration) : List Stop :=
  c.groups.flatMap fun g => .group g :: g.pipelines.map (.pipeline g)

end Configuration

end PipelineSync
