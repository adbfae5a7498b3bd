import PipelineSync.Error
import PipelineSync.Log
import PipelineSync.Material.Basic
import PipelineSync.Path

/-!
# Ignore filters

A path is ignored if one of the patterns of its material matches it. Patterns are written against
paths with a `/` in front; one without is meant from the root of the working copy.
-/

namespace PipelineSync

/-- A pattern with the `/` in front that paths have. -/
def Material.anchored (pattern : String) : String :=
  if pattern.toList.head? == some '/' then pattern else "/" ++ pattern

/-- Whether a path with a `/` in front matches a pattern. -/
def Material.matchesPattern (path pattern : String) : Except Error Bool :=
  (Glob.isMatch (anchored pattern) path).mapError .glob

/-- Whether a path below the working copy is ignored. A pattern that is wrong matches nothing. -/
def Material.isIgnored (m : Material) (path : String) : Bool :=
  m.filter.any fun pattern =>
    match matchesPattern (Path.filterForm path) pattern with
    | .ok matched => matched
    | .error _ => false

/-- What there is to tell when a path is held against the filter: the patterns up to the first that
matches are tried, and those that are wrong are told of. -/
def Material.filterLines (path : String) : List String → List Log.Line
  | [] => []
  | pattern :: rest =>
    match matchesPattern (Path.filterForm path) pattern with
    | .ok true => []
    | .ok false => filterLines path rest
    | .error e =>
      ⟨.materials, .warn, "Ignoring invalid filter pattern '" ++ pattern ++ "': " ++ e.message⟩
        :: filterLines path rest

end PipelineSync
