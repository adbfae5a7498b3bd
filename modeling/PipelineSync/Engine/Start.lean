import PipelineSync.Engine.Basic

/-!
# Starting an engine

An engine starts from the records that were saved: what the repositories contributed last, and what
was wrong with them. If that does not go together with the local configuration any more, all of it is
discarded; a local configuration that does not stand on its own is no start at all.
-/

namespace PipelineSync.Engine

variable {σ : Type}

/-- The partials in records; of equal keys the last counts. -/
def restoredPartials (records : List UpdateRecord) : KeyMap Fingerprint Partial :=
  .ofList (records.filterMap fun r => r.lastMerged.map fun p => (r.key, p))

/-- Reports the faults in a record. -/
def restoreHealth (w : World σ) (s : Running σ) (r : UpdateRecord) : Running σ :=
  let s := match r.lastFault with
    | some fault => s.setHealth w (.configRepository r.key) fault.message fault.description
    | none => s
  match r.lastCheckoutFault with
  | some fault => s.setHealth w (.material r.key) fault.message fault.description
  | none => s

/-- What is told when the restored partials are discarded. -/
def discardedMessage : String := "Restored config repository configuration was discarded"

/-- The merge of the local configuration with the restored partials, or else on its own. -/
def restoreMerged (w : World σ) (partials : KeyMap Fingerprint Partial) (s : Running σ) :
    Except Error Configuration × Running σ :=
  match merge s.engine.localConfig partials with
  | .ok merged => (.ok merged, s)
  | .error conflict =>
    let message := conflict.toError.message
    let s := s.say w ⟨.engine, .warn,
      "Restored configuration no longer merges, starting from local only: " ++ message⟩
    let s := s.setHealth w .global discardedMessage message
    ((merge s.engine.localConfig ∅).mapError Conflict.toError, s)

/-- Starts an engine, with the given health to begin with. -/
def start (w : World σ) (localConfig : LocalConfiguration) (health : Health) (world : σ) :
    Except Error Engine × σ :=
  match w.loadAll world with
  | (.error e, world) => (.error e, world)
  | (.ok records, world) =>
    let s : Running σ := { engine := { localConfig, health }, world }
    let s := records.foldl (restoreHealth w) s
    match restoreMerged w (restoredPartials records) s with
    | (.error e, s) => (.error e, s.world)
    | (.ok merged, s) =>
      let s := s.say w ⟨.engine, .info, "Restored " ++ toString merged.partials.entries.length
        ++ " config repositories with " ++ toString merged.pipelines.length ++ " pipelines"⟩
      (.ok { s.engine.install merged with
        records := .ofList (records.map fun r => (r.key, r)) }, s.world)

end PipelineSync.Engine
