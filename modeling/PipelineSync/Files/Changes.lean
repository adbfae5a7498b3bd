import PipelineSync.Files.Basic

/-!
# Changes between files

What has to be done to bring one state of the files to another. All paths start at the root.
-/

namespace PipelineSync

/-- A step from one state of the files to another. -/
inductive FileChange where
  /-- Removes a file, or a directory with all that is in it. -/
  | remove (path : String)
  | makeDir (path : String)
  | write (path text : String)
deriving DecidableEq, Repr

namespace Files

/-- All paths from the root, with a `/` behind directories. -/
def allPaths (fs : Files) : List String :=
  match fs.root with
  | .dir es => Tree.pathsOfEntries "/" es
  | .file _ => []

/-- The step that makes what is at a path of `after`, unless it is so already. -/
def changeAt? (before after : Files) (path : String) : Option FileChange :=
  if path.toList.getLast? == some '/' then
    if before.isDir path then none else some (.makeDir path)
  else match after.readText path with
    | .ok text =>
      match before.readText path with
      | .ok old => if old = text then none else some (.write path text)
      | .error _ => some (.write path text)
    | .error _ => none

/-- Whether a path holds something of another kind, or nothing, afterwards. -/
def isGone (before after : Files) (path : String) : Bool :=
  before.isDir path != after.isDir path || !after.holds path

/-- The steps from one state of the files to another: what is gone is removed first. -/
def changes (before after : Files) : List FileChange :=
  (before.allPaths.filter (isGone before after)).map .remove
    ++ after.allPaths.filterMap (changeAt? before after)

end Files

end PipelineSync
