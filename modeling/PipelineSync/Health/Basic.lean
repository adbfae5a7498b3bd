import PipelineSync.KeyMap
import PipelineSync.Log
import PipelineSync.Material.Fingerprint

/-!
# Health

What is wrong at the moment, for users to see. There is at most one entry a scope: a new one takes
the place of the old one, and clearing the scope removes it. Trouble with a working copy and trouble
with the fragments in it have scopes of their own, so one never hides or clears the other.
-/

namespace PipelineSync

open Std

/-- What a health entry is about. -/
inductive HealthScope where
  | global
  /-- Bringing the working copy of a material up to date. -/
  | material (fingerprint : Fingerprint)
  /-- The fragments of a config repository. -/
  | configRepository (fingerprint : Fingerprint)
deriving DecidableEq, Repr, Inhabited

namespace HealthScope

/-- The rank of a scope among those of other kinds, and the text that orders it among its own. -/
def position : HealthScope → Nat × String
  | global => (0, "")
  | material f => (1, f.hex)
  | configRepository f => (2, f.hex)

theorem position_injective {a b : HealthScope} (h : a.position = b.position) : a = b := by
  cases a <;> cases b <;> simp_all [position]
  · next f g => exact congrArg Fingerprint.mk h
  · next f g => exact congrArg Fingerprint.mk h

/-- The global scope comes first, then working copies, then config repositories. -/
instance : Ord HealthScope :=
  ⟨compareLex (compareOn fun s => s.position.1) (compareOn fun s => s.position.2)⟩

instance : TransOrd HealthScope :=
  inferInstanceAs (TransCmp
    (compareLex (compareOn fun s : HealthScope => s.position.1)
      (compareOn fun s : HealthScope => s.position.2)))

instance : LawfulEqOrd HealthScope where
  compare_self := ReflCmp.compare_self
  eq_of_compare {a b} h := by
    have h : compareLex (compareOn fun s : HealthScope => s.position.1)
        (compareOn fun s : HealthScope => s.position.2) a b = .eq := h
    rw [compareLex_eq_eq] at h
    exact position_injective
      (Prod.ext (LawfulEqOrd.eq_of_compare h.1) (LawfulEqOrd.eq_of_compare h.2))

/-- A scope as entries name it. -/
def text : HealthScope → String
  | global => "global"
  | material f => "material " ++ f.short
  | configRepository f => "config repo " ++ f.short

end HealthScope

/-- How bad it is. -/
inductive Severity where
  | warning
  | error
deriving DecidableEq, Repr, Inhabited

/-- The log level for a severity. -/
def Severity.level : Severity → Log.Level
  | warning => .warn
  | error => .error

/-- What is wrong in a scope. -/
structure HealthEntry where
  severity : Severity
  /-- A summary in one line. -/
  message : String
  /-- The whole diagnosis. -/
  description : String
deriving DecidableEq, Repr, Inhabited

/-- The entries by scope. -/
structure Health where
  entries : KeyMap HealthScope HealthEntry := ∅
deriving DecidableEq, Inhabited

namespace Health

/-- Sets the entry of a scope. -/
def record (h : Health) (scope : HealthScope) (entry : HealthEntry) : Health :=
  ⟨h.entries.insert scope entry⟩

/-- Sets the entry of a scope to an error. -/
def error (h : Health) (scope : HealthScope) (message description : String) : Health :=
  h.record scope ⟨.error, message, description⟩

/-- Removes the entry of a scope. -/
def clear (h : Health) (scope : HealthScope) : Health :=
  ⟨h.entries.erase scope⟩

/-- The entry of a scope. -/
def get? (h : Health) (scope : HealthScope) : Option HealthEntry :=
  h.entries.get? scope

/-- Every entry, in the order of the scopes. -/
def all (h : Health) : List (HealthScope × HealthEntry) :=
  h.entries.entries

/-- The entries that are errors. -/
def errors (h : Health) : List (HealthScope × HealthEntry) :=
  h.all.filter fun e => e.2.severity = .error

/-- Whether a scope has no error. -/
def isHealthy (h : Health) (scope : HealthScope) : Bool :=
  match h.get? scope with
  | some e => e.severity != .error
  | none => true

/-- The log line for a new entry. -/
def recordLine (scope : HealthScope) (entry : HealthEntry) : Log.Line :=
  ⟨.health, entry.severity.level,
    "[" ++ scope.text ++ "] " ++ entry.message ++ ": " ++ entry.description⟩

/-- The log line for clearing a scope; there is none if nothing was wrong. -/
def clearLine? (h : Health) (scope : HealthScope) : Option Log.Line :=
  (h.get? scope).map fun _ => ⟨.health, .info, "[" ++ scope.text ++ "] healthy again"⟩

end Health

end PipelineSync
