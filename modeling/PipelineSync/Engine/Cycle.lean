import PipelineSync.Engine.Basic
import PipelineSync.Transaction.Basic

/-!
# Update cycles

A cycle brings the working copy of a material up to date, reads its fragments, and merges them with
everything else. If all goes well they take the place of what the repository contributed before; if
not, that stays, and the failure is recorded. The record is saved before anything becomes visible:
both happen in one transaction.
-/

namespace PipelineSync.Running

variable {σ : Type}

/-- Says how a transaction with callbacks ended. -/
def sayCompleted (w : World σ) (callbacks : Nat) (result : Except Error Unit) (s : Running σ) :
    Running σ :=
  let completed (word : String) (s : Running σ) : Running σ :=
    s.say w ⟨.transactions, .trace,
      "Transaction " ++ word ++ " with " ++ toString callbacks ++ " callbacks"⟩
  match result with
  | .ok () => completed "Committed" s
  | .error e =>
    completed "RolledBack"
      (s.say w ⟨.transactions, .debug,
        "Rolling back: before-commit callback failed: " ++ e.message⟩)

/-- Saves a record, and publishes a change once it is saved. -/
def commit (w : World σ) (r : UpdateRecord) (publish : Running σ → Running σ) (s : Running σ) :
    Except Error Unit × Running σ :=
  let body (t : Transaction.Session (Running σ)) :
      Except Error Unit × Transaction.Session (Running σ) :=
    match t.register { beforeCommit := fun _ s => s.save w r } with
    | (.error e, t) => (.error e, t)
    | (.ok (), t) => t.register { afterCommit := fun _ s => publish s }
  let (result, t) := Transaction.execute id body { state := s }
  (result, t.state.sayCompleted w 2 result)

/-- Records that the working copy of a material could not be brought up to date. -/
def recordCheckoutFailure (w : World σ) (f : Fingerprint) (message : String) (s : Running σ) :
    Except Error Unit × Running σ :=
  let now := w.now s.world
  let fault : Fault := ⟨"Failed to update working copy", message, now⟩
  s.keepRecord w f
    { s.engine.recordFor f now with lastCheckoutFault := some fault, updatedAt := now }

/-- Records that the working copy of a material is up to date again, if it was not. -/
def clearCheckoutFailure (w : World σ) (f : Fingerprint) (s : Running σ) :
    Option (Except Error Unit) × Running σ :=
  match s.engine.records.get? f with
  | some r =>
    if r.lastCheckoutFault.isSome then
      let (saved, s) :=
        s.keepRecord w f { r with lastCheckoutFault := none, updatedAt := w.now s.world }
      (some saved, s)
    else (none, s)
  | none => (none, s)

/-- What came of bringing a working copy up to date. -/
structure Fetched where
  /-- The directory and the revision of the working copy, or why there is none. -/
  copy : Except Error (String × String)
  /-- How saving the record went, if there was something to record. -/
  saved : Option (Except Error Unit)

/-- Brings the working copy of a material up to date. A failure is reported and recorded; a success
clears what was reported and recorded of an earlier one. -/
def fetch (w : World σ) (m : Material) (f : Fingerprint) (s : Running σ) : Fetched × Running σ :=
  match w.refresh m s.world with
  | (.error e, world) =>
    let s := { s with world }.setHealth w (.material f)
      ("Failed to update working copy of " ++ m.text) e.message
    let (saved, s) := s.recordCheckoutFailure w f e.message
    (⟨.error e, some saved⟩, s)
  | (.ok copy, world) =>
    let (saved, s) := ({ s with world }.clearHealth w (.material f)).clearCheckoutFailure w f
    (⟨.ok copy, saved⟩, s)

/-- Makes a partial part of the configuration. -/
def commitMerged (w : World σ) (m : Material) (f : Fingerprint) (revision : String) (p : Partial)
    (merged : Configuration) (s : Running σ) : Except Error Unit × Running σ :=
  let now := w.now s.world
  let r := { s.engine.recordFor f now with
    lastAttemptedRevision := some revision, lastMerged := some p, lastFault := none,
    updatedAt := now }
  s.commit w r fun s =>
    let s := s.say w ⟨.engine, .info, "Merged " ++ toString p.pipelines.length
      ++ " pipelines from " ++ m.text ++ " at revision " ++ revision⟩
    ((s.change fun e => e.install merged).setRecord f r).clearHealth w (.configRepository f)

/-- Records that the fragments at a revision were rejected. -/
def commitFault (w : World σ) (m : Material) (f : Fingerprint) (revision description : String)
    (s : Running σ) : Except Error Unit × Running σ :=
  let now := w.now s.world
  let message := "Invalid configuration in repository " ++ m.maskedUrl
  let r := { s.engine.recordFor f now with
    lastAttemptedRevision := some revision, lastFault := some ⟨message, description, now⟩,
    updatedAt := now }
  s.commit w r fun s =>
    (s.setHealth w (.configRepository f) message description).setRecord f r

/-- Whether a failure is one of the repository, and not of the engine. -/
def isFault : Error → Bool
  | .io _ => true
  | e => e.isFragmentError

/-- Accepts or rejects what was read of the fragments at a revision. -/
def settle (w : World σ) (m : Material) (f : Fingerprint) (revision : String)
    (parsed : Except Error Partial) (s : Running σ) : Except Error CycleOutcome × Running σ :=
  let candidate := parsed.bind fun p => (s.engine.candidate f p).map fun merged => (p, merged)
  match candidate with
  | .ok (p, merged) =>
    let (result, s) := s.commitMerged w m f revision p merged
    (result.map fun _ => .merged revision, s)
  | .error e =>
    if isFault e then
      let (result, s) := s.commitFault w m f revision e.message
      (result.map fun _ => .faulted revision e.message, s)
    else (.error e, s)

/-- Reads the fragments of a working copy, and accepts or rejects them. -/
def process (w : World σ) (m : Material) (f : Fingerprint) (directory revision : String)
    (s : Running σ) : Except Error CycleOutcome × Running σ :=
  let (parsed, world) := w.parse m directory revision s.world
  { s with world }.settle w m f revision parsed

/-- Whether a cycle may end early: its revision is the one that was processed last. -/
def isUnchanged (f : Fingerprint) (skipUnchanged : Bool) (revision : String) (s : Running σ) :
    Bool :=
  skipUnchanged && s.engine.revisionAtLastAttempt? f == some revision

/-- Says that a cycle ends early. -/
def sayUnchanged (w : World σ) (m : Material) (revision : String) (s : Running σ) : Running σ :=
  s.say w ⟨.engine, .debug, m.text ++ " is unchanged at revision " ++ revision⟩

/-- A cycle of a material whose turn it is. With `skipUnchanged` it ends early if the revision is
the one that was processed last. -/
def cycle (w : World σ) (m : Material) (f : Fingerprint) (skipUnchanged : Bool) (s : Running σ) :
    Except Error CycleOutcome × Running σ :=
  match s.fetch w m f with
  | (⟨.error e, _⟩, s) => (.ok (.checkoutFailed e.message), s)
  | (⟨.ok (directory, revision), _⟩, s) =>
    if s.isUnchanged f skipUnchanged revision then
      (.ok (.unchanged revision), s.sayUnchanged w m revision)
    else s.process w m f directory revision

/-- Claims a material for a cycle, unless one is running: the token is for giving it back. -/
def claim? (w : World σ) (m : Material) (s : Running σ) : Option Token × Running σ :=
  let f := m.fingerprint
  match s.engine.tracker.begin f with
  | .error _ =>
    (none, s.say w ⟨.engine, .debug, "Skipping " ++ m.text ++ ": update already in progress"⟩)
  | .ok (token, tracker) =>
    (some token, (s.change fun e => { e with tracker }).say w
      ⟨.tracker, .trace, "Update of " ++ f.short ++ " started"⟩)

/-- Gives a token back. -/
def release (w : World σ) (token : Token) (s : Running σ) : Running σ :=
  (s.change fun e => { e with tracker := e.tracker.release token }).say w
    ⟨.tracker, .trace, "Update of " ++ token.fingerprint.short ++ " finished"⟩

/-- Runs a cycle of a material, unless one is running. -/
def run (w : World σ) (m : Material) (skipUnchanged : Bool) (s : Running σ) :
    Except Error CycleOutcome × Running σ :=
  match s.claim? w m with
  | (none, s) => (.ok .alreadyInProgress, s)
  | (some token, s) =>
    let (result, s) := s.cycle w m m.fingerprint skipUnchanged
    (result, s.release w token)

/-- Runs a cycle of a material. -/
def update (w : World σ) (m : Material) (s : Running σ) :
    Except Error CycleOutcome × Running σ :=
  s.run w m false

/-- Runs a cycle for each of many materials, with what came of it. -/
def runEach (w : World σ) (skipUnchanged : Bool) : List Material → Running σ →
    List (Fingerprint × Except Error CycleOutcome) × Running σ
  | [], s => ([], s)
  | m :: rest, s =>
    let (result, s) := s.run w m skipUnchanged
    let (results, s) := runEach w skipUnchanged rest s
    ((m.fingerprint, result) :: results, s)

/-- Runs a cycle for each of many materials that ends early if the revision was processed last. -/
def updateAll (w : World σ) (ms : List Material) (s : Running σ) :
    List (Fingerprint × Except Error CycleOutcome) × Running σ :=
  runEach w true ms s

end PipelineSync.Running
