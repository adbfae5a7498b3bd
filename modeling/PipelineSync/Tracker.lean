import PipelineSync.Error
import PipelineSync.KeyMap

/-!
# Cycles in progress

At most one cycle of a material runs at a time. Who starts one gets a token, and the material is
free again when the token is given back. `Holdings` keeps tokens in named places: putting a token
where another lies gives that one back.
-/

namespace PipelineSync

/-- The right to run a cycle of a material. -/
structure Token where
  fingerprint : Fingerprint
deriving DecidableEq, Repr, Inhabited

/-- The materials whose cycles are running. -/
structure Tracker where
  running : KeyMap Fingerprint Unit := ∅
deriving DecidableEq, Inhabited

namespace Tracker

/-- Whether a cycle of the material is running. -/
def isInProgress (t : Tracker) (f : Fingerprint) : Bool :=
  t.running.contains f

/-- The materials whose cycles are running, in order. -/
def inProgress (t : Tracker) : List Fingerprint :=
  t.running.keys

/-- Claims a material, unless its cycle is running. -/
def begin (t : Tracker) (f : Fingerprint) : Except Error (Token × Tracker) :=
  if t.isInProgress f then .error (.alreadyInProgress f)
  else .ok (⟨f⟩, ⟨t.running.insert f ()⟩)

/-- Gives a token back. -/
def release (t : Tracker) (token : Token) : Tracker :=
  ⟨t.running.erase token.fingerprint⟩

theorem isInProgress_insert (t : Tracker) (f g : Fingerprint) :
    isInProgress ⟨t.running.insert f ()⟩ g = if g = f then true else t.isInProgress g :=
  t.running.contains_insert f () g

theorem isInProgress_release (t : Tracker) (token : Token) (g : Fingerprint) :
    (t.release token).isInProgress g = if g = token.fingerprint then false else t.isInProgress g :=
  t.running.contains_erase token.fingerprint g

end Tracker

/-- A tracker and the tokens that are out, by the place in which each is kept. -/
structure Holdings where
  tracker : Tracker := {}
  tokens : KeyMap String Token := ∅
deriving DecidableEq, Inhabited

namespace Holdings

/-- Gives the token of a place back. -/
def release (h : Holdings) (place : String) : Holdings :=
  match h.tokens.get? place with
  | some token => ⟨h.tracker.release token, h.tokens.erase place⟩
  | none => h

/-- Whether there is a token at a place. -/
def holds (h : Holdings) (place : String) : Bool :=
  h.tokens.contains place

/-- Claims a material and keeps the token at a place, instead of the one that lies there. -/
def begin (h : Holdings) (place : String) (f : Fingerprint) : Except Error Holdings := do
  let (token, tracker) ← h.tracker.begin f
  let h := release { h with tracker } place
  return { h with tokens := h.tokens.insert place token }

end Holdings

end PipelineSync
