import PipelineSync.Error
import PipelineSync.Files.Basic
import PipelineSync.Log
import PipelineSync.Time

/-!
# The host

What the program works on: the files, the clock, the log, and whatever else the parts that are
plugged in keep of their own.
-/

namespace PipelineSync

/-- Files, clock and log, and a state `ρ` of what is plugged in. -/
structure Host (ρ : Type) where
  files : Files := {}
  now : Time := ⟨⟨1970, 1, 1⟩, 0, 0, 0, 0⟩
  /-- The lines so far, the latest first. -/
  log : List Log.Line := []
  rest : ρ

namespace Host

variable {ρ α : Type}

/-- An operation on a host that may fail. What it did before it failed stays done. -/
abbrev Action (ρ α : Type) := ExceptT Error (StateM (Host ρ)) α

/-- Adds a line to the log. -/
def addLine (h : Host ρ) (line : Log.Line) : Host ρ := { h with log := line :: h.log }

/-- Adds lines to the log. -/
def addLines (h : Host ρ) (lines : List Log.Line) : Host ρ := lines.foldl addLine h

/-- Adds a line to the log. -/
def note (area : Log.Area) (level : Log.Level) (message : String) : Action ρ Unit :=
  modify fun h => h.addLine ⟨area, level, message⟩

/-- Changes the files, or fails with the error that `failure` makes of a fault. -/
def changeFiles (failure : FileFault → Error) (change : Files → Except FileFault Files) :
    Action ρ Unit := do
  let h ← get
  match change h.files with
  | .ok files => set { h with files }
  | .error fault => throw (failure fault)

/-! ## What operations do to a host -/

namespace Action

theorem bind_apply {β : Type} (x : Action ρ α) (f : α → Action ρ β) (h : Host ρ) :
    (x >>= f) h =
      match x h with
      | (.ok a, h) => f a h
      | (.error e, h) => (.error e, h) := by
  change ExceptT.bindCont f (x h).1 (x h).2 = _
  rcases x h with ⟨_ | _, _⟩ <;> rfl

theorem get_apply (h : Host ρ) : (get : Action ρ (Host ρ)) h = (.ok h, h) := rfl

theorem set_apply (h' h : Host ρ) : (set h' : Action ρ Unit) h = (.ok (), h') := rfl

theorem modify_apply (f : Host ρ → Host ρ) (h : Host ρ) :
    (modify f : Action ρ Unit) h = (.ok (), f h) := rfl

end Action

end Host

end PipelineSync
