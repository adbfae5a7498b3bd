import PipelineSync.Engine.Cycle

/-!
# Cycles side by side

Cycles of different materials may run at the same time. A cycle is made of a few steps, and between
two of them others may do theirs: a `Site` is what all of them share and how far each has come, a
`Move` says whose step is next, and any list of moves is a run. A cycle that runs from beginning to
end without another in between is one such list.
-/

namespace PipelineSync

/-- How far a cycle has come. -/
inductive CycleStage where
  /-- The material is claimed. -/
  | claimed
  /-- The working copy is up to date. -/
  | fetched (directory revision : String)
  /-- The fragments have been read. -/
  | parsed (revision : String) (result : Except Error Partial)
  /-- The cycle has its answer, and has to give its token back. -/
  | answered

/-- A cycle that has begun. -/
structure OpenCycle where
  material : Material
  token : Token
  skipUnchanged : Bool
  stage : CycleStage

/-- An engine in its surroundings, and the cycles that have begun. -/
structure Site (σ : Type) where
  running : Running σ
  cycles : KeyMap Fingerprint OpenCycle := ∅

/-- The next step of somebody. -/
inductive Move where
  /-- A cycle of a material is asked for. -/
  | begin (material : Material) (skipUnchanged : Bool)
  /-- The cycle with a fingerprint does its next step. -/
  | advance (fingerprint : Fingerprint)
  /-- The cycle with a fingerprint gives its token back, at its end or because it broke off. -/
  | leave (fingerprint : Fingerprint)

/-- What a step brings to light. -/
inductive Event where
  /-- A cycle was asked for while one of the material was running. -/
  | turnedAway (fingerprint : Fingerprint)
  /-- A working copy was brought up to date, or could not be. -/
  | fetched (fingerprint : Fingerprint) (result : Running.Fetched)
  /-- A cycle ended early. -/
  | unchanged (fingerprint : Fingerprint) (revision : String)
  /-- What was read of the fragments at a revision was accepted or rejected. -/
  | settled (fingerprint : Fingerprint) (revision : String) (parsed : Except Error Partial)
      (answer : Except Error CycleOutcome)

/-- The answer that a cycle gets by an event, if it is one that answers. -/
def Event.answer? : Event → Option (Except Error CycleOutcome)
  | turnedAway _ => some (.ok .alreadyInProgress)
  | fetched _ ⟨.error e, _⟩ => some (.ok (.checkoutFailed e.message))
  | fetched _ ⟨.ok _, _⟩ => none
  | unchanged _ revision => some (.ok (.unchanged revision))
  | settled _ _ _ answer => some answer

namespace Site

variable {σ : Type}

/-- The engine at work. -/
def engine (s : Site σ) : Engine := s.running.engine

/-- What surrounds the engine. -/
def world (s : Site σ) : σ := s.running.world

/-- Asks for a cycle of a material. -/
def begin (w : World σ) (m : Material) (skipUnchanged : Bool) (s : Site σ) :
    List Event × Site σ :=
  match s.running.claim? w m with
  | (none, running) => ([.turnedAway m.fingerprint], { s with running })
  | (some token, running) =>
    ([], ⟨running, s.cycles.insert m.fingerprint ⟨m, token, skipUnchanged, .claimed⟩⟩)

/-- Does the next step of a cycle. -/
def advance (w : World σ) (f : Fingerprint) (c : OpenCycle) (s : Site σ) :
    List Event × Site σ :=
  let reach (stage : CycleStage) (running : Running σ) : Site σ :=
    ⟨running, s.cycles.insert f { c with stage }⟩
  match c.stage with
  | .claimed =>
    let (result, running) := s.running.fetch w c.material f
    match result.copy with
    | .error _ => ([.fetched f result], reach .answered running)
    | .ok (directory, revision) =>
      ([.fetched f result], reach (.fetched directory revision) running)
  | .fetched directory revision =>
    if s.running.isUnchanged f c.skipUnchanged revision then
      ([.unchanged f revision], reach .answered (s.running.sayUnchanged w c.material revision))
    else
      let (result, world) := w.parse c.material directory revision s.world
      ([], reach (.parsed revision result) { s.running with world })
  | .parsed revision result =>
    let (answer, running) := s.running.settle w c.material f revision result
    ([.settled f revision result answer], reach .answered running)
  | .answered => ([], s)

/-- Gives the token of a cycle back. -/
def leave (w : World σ) (f : Fingerprint) (c : OpenCycle) (s : Site σ) : Site σ :=
  ⟨s.running.release w c.token, s.cycles.erase f⟩

/-- Does a step. One of a cycle that has not begun does nothing. -/
def perform (w : World σ) (s : Site σ) : Move → List Event × Site σ
  | .begin m skipUnchanged => s.begin w m skipUnchanged
  | .advance f =>
    match s.cycles.get? f with
    | some c => s.advance w f c
    | none => ([], s)
  | .leave f =>
    match s.cycles.get? f with
    | some c => ([], s.leave w f c)
    | none => ([], s)

/-- Does steps one after another. -/
def performAll (w : World σ) : List Move → Site σ → List Event × Site σ
  | [], s => ([], s)
  | move :: moves, s =>
    let first := s.perform w move
    let rest := performAll w moves first.2
    (first.1 ++ rest.1, rest.2)

end Site

end PipelineSync
