import PipelineSync.Files.Tree
import PipelineSync.Path

/-!
# Files by path

A tree of files with a current directory, from which relative paths start.
-/

namespace PipelineSync

/-- All files, and the current directory. -/
structure Files where
  root : Tree := .dir []
  /-- The names that lead to the current directory. -/
  here : List String := []
deriving Inhabited

namespace Files

/-- The names that a path leads through from the root. -/
def resolve (fs : Files) (path : String) : List String :=
  (Path.components path).foldl (fun names c =>
    match c with
    | .root => []
    | .here => names
    | .up => names.dropLast
    | .named name => names ++ [name]) fs.here

/-- What is at a path. -/
def find? (fs : Files) (path : String) : Except FileFault Tree :=
  fs.root.find? (fs.resolve path)

/-- Whether there is something at a path. -/
def holds (fs : Files) (path : String) : Bool :=
  (fs.find? path).isOk

/-- Whether there is a directory at a path. -/
def isDir (fs : Files) (path : String) : Bool :=
  match fs.find? path with
  | .ok t => t.isDir
  | .error _ => false

/-- The text of a file. -/
def readText (fs : Files) (path : String) : Except FileFault String :=
  match fs.find? path with
  | .ok (.file (.text s)) => .ok s
  | .ok (.file .binary) => .error .notText
  | .ok (.dir _) => .error .isADirectory
  | .error fault => .error fault

/-- The entries of a directory. -/
def readDir (fs : Files) (path : String) : Except FileFault (List (String × Tree)) :=
  match fs.find? path with
  | .ok (.dir es) => .ok es
  | .ok (.file _) => .error .notADirectory
  | .error fault => .error fault

/-- Changes the tree at a path. -/
def change (fs : Files) (path : String)
    (operation : List String → Tree → Except FileFault Tree) : Except FileFault Files :=
  (operation (fs.resolve path) fs.root).map fun root => { fs with root }

/-- Writes a file into a directory that is there. -/
def write (fs : Files) (path : String) (content : Content) : Except FileFault Files :=
  fs.change path (Tree.writeFile content)

/-- Makes a directory and those on the way to it. -/
def makeDir (fs : Files) (path : String) : Except FileFault Files :=
  fs.change path Tree.makeDir

/-- Removes a directory with all that is in it. -/
def removeDir (fs : Files) (path : String) : Except FileFault Files :=
  fs.change path Tree.removeDir

/-- Moves a file over the one that is at `target`, if any. -/
def rename (fs : Files) (source target : String) : Except FileFault Files := do
  match ← fs.find? source with
  | .file content =>
    let fs ← fs.change target (Tree.writeFile content)
    fs.change source Tree.removeFile
  | .dir _ => .error .isADirectory

/-- All paths below the current directory, in increasing order, with a `/` behind directories. -/
def listing (fs : Files) : List String :=
  match fs.root.find? fs.here with
  | .ok (.dir es) => (Tree.pathsOfEntries "" es).mergeSort (fun a b => a ≤ b)
  | _ => []

end Files

end PipelineSync
