import PipelineSync.Error
import PipelineSync.Files.Basic

/-!
# Finding fragments

The fragments of a working copy are the files below it whose names end in the suffix of fragments.
Directories in which version control keeps its own files are not searched. Entries are visited in
the order of their names, and the entries of a directory where the directory stands.
-/

namespace PipelineSync

namespace Discovery

/-- Directories in which version control keeps its own files. -/
def metadataDirectories : List String := [".git", ".hg", ".svn"]

/-- A fragment file, by the names that lead to it from the root of the working copy. -/
structure Found where
  names : List String
  content : Content
deriving DecidableEq, Repr

/-- The path of a fragment from the root of the working copy. -/
def Found.relative (f : Found) : String := Text.join "/" f.names

mutual

/-- The fragments of a tree under a name; `names` lead to it. -/
def fragmentsOf (names : List String) (name : String) : Tree → List Found
  | .file content => if Path.isFragmentName name then [⟨names, content⟩] else []
  | .dir es =>
    if metadataDirectories.contains name then [] else fragmentsOfEntries names es

/-- The fragments of the entries of a directory. -/
def fragmentsOfEntries (names : List String) : List (String × Tree) → List Found
  | [] => []
  | (name, t) :: rest =>
    fragmentsOf (names ++ [name]) name t ++ fragmentsOfEntries names rest

end

/-- The name under which the root of a working copy counts. -/
def rootName (root : String) : String := (Path.fileName? root).getD root

/-- The fragments below a path that are not ignored. -/
def find (files : Files) (root : String) (isIgnored : String → Bool) :
    Except Error (List Found) :=
  match files.find? root with
  | .error fault => .error (.io ("IO error for operation on " ++ root ++ ": " ++ fault.text))
  | .ok t => .ok ((fragmentsOf [] (rootName root) t).filter fun f => !isIgnored f.relative)

/-- The path of a fragment below a root. -/
def pathBelow (root : String) (f : Found) : String :=
  if f.names.isEmpty then root else Path.join root f.relative

end Discovery

end PipelineSync
