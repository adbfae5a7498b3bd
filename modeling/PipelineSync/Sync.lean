import PipelineSync.Engine.Cycle
import PipelineSync.Engine.Start
import PipelineSync.Settings.Basic

/-!
# Syncing

One sync starts an engine from the saved records and runs a cycle for each selected repository. What
is configured afterwards is the engine's merged configuration.
-/

namespace PipelineSync

/-- What a sync leaves. -/
structure Synced where
  /-- How the cycle of each selected repository ended. -/
  cycles : List (Settings.Repository × Except Error CycleOutcome)
  engine : Engine

namespace Settings

/-- The repositories with the given ids, or all if none is given. -/
def select (s : Settings) (ids : List String) : List Repository :=
  if ids.isEmpty then s.repositories else s.repositories.filter fun r => ids.contains r.id

end Settings

variable {σ : Type}

/-- The engine that a sync starts with. -/
def Settings.startEngine (s : Settings) (w : World σ) (world : σ) : Except Error Engine × σ :=
  Engine.start w s.localConfig {} world

/-- Runs a cycle for each of the repositories. Unless it is forced, a cycle ends early if the
revision was processed last. -/
def Synced.ofCycles (w : World σ) (repositories : List Settings.Repository) (force : Bool)
    (engine : Engine) (world : σ) : Synced × σ :=
  let (results, s) :=
    Running.runEach w (!force) (repositories.map Settings.Repository.material) ⟨engine, world⟩
  ({ cycles := repositories.zip (results.map Prod.snd), engine := s.engine }, s.world)

/-- Whether a cycle failed. -/
def Synced.isFailure : Except Error CycleOutcome → Bool
  | .error _ | .ok (.checkoutFailed _) | .ok (.faulted _ _) => true
  | .ok _ => false

/-- The number of cycles that failed. -/
def Synced.failures (s : Synced) : Nat :=
  (s.cycles.filter fun c => isFailure c.2).length

/-- Syncs: starts an engine and runs the cycles of the repositories. -/
def Settings.sync (s : Settings) (w : World σ) (repositories : List Settings.Repository)
    (force : Bool) (world : σ) : Except Error Synced × σ :=
  match s.startEngine w world with
  | (.error e, world) => (.error e, world)
  | (.ok engine, world) =>
    let (synced, world) := Synced.ofCycles w repositories force engine world
    (.ok synced, world)

end PipelineSync
