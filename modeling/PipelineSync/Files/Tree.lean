/-!
# Trees of files

Files and directories as a value. A tree is reached by lists of names; an operation that cannot be
carried out says why, in the words of the operating system.
-/

namespace PipelineSync

/-- What a file holds. -/
inductive Content where
  | text (s : String)
  /-- Bytes that are no text. -/
  | binary
deriving DecidableEq, Repr, Inhabited

/-- Why a file or directory cannot be used. -/
inductive FileFault where
  | notFound
  | exists
  | notADirectory
  | isADirectory
  | notText
deriving DecidableEq, Repr

/-- The wording of a fault. -/
def FileFault.text : FileFault → String
  | notFound => "No such file or directory (os error 2)"
  | .exists => "File exists (os error 17)"
  | notADirectory => "Not a directory (os error 20)"
  | isADirectory => "Is a directory (os error 21)"
  | notText => "stream did not contain valid UTF-8"

/-- A file, or a directory with its entries in increasing order of their names. -/
inductive Tree where
  | file (content : Content)
  | dir (entries : List (String × Tree))
deriving Inhabited

namespace Tree

/-- Whether the tree is a directory. -/
def isDir : Tree → Bool
  | .dir _ => true
  | .file _ => false

/-- The tree that a list of names leads to. -/
def find? : Tree → List String → Except FileFault Tree
  | t, [] => .ok t
  | .file _, _ :: _ => .error .notADirectory
  | .dir es, name :: names =>
    match es.lookup name with
    | some t => find? t names
    | none => .error .notFound

/-- Puts an entry into a directory, instead of the one with its name. -/
def setEntry (name : String) (t : Tree) : List (String × Tree) → List (String × Tree)
  | [] => [(name, t)]
  | e :: rest =>
    if name < e.1 then (name, t) :: e :: rest
    else if name = e.1 then (name, t) :: rest
    else e :: setEntry name t rest

/-- Changes the entry at the end of a list of names: `change` gets the tree that is there, if any,
and gives the one to put there, if any. The directories on the way have to be there. -/
def modify (change : Option Tree → Except FileFault (Option Tree)) :
    List String → Tree → Except FileFault Tree
  | [], t => do
    match ← change (some t) with
    | some t => return t
    | none => return .dir []
  | _ :: _, .file _ => .error .notADirectory
  | [name], .dir es => do
    match ← change (es.lookup name) with
    | some t => return .dir (setEntry name t es)
    | none => return .dir (es.filter fun e => e.1 != name)
  | name :: next :: names, .dir es =>
    match es.lookup name with
    | some t => do return .dir (setEntry name (← modify change (next :: names) t) es)
    | none => .error .notFound

/-- Makes a directory and those on the way to it, as far as they are not there. -/
def makeDir : List String → Tree → Except FileFault Tree
  | [], .dir es => .ok (.dir es)
  | [], .file _ => .error .exists
  | _ :: _, .file _ => .error .notADirectory
  | name :: names, .dir es => do
    return .dir (setEntry name (← makeDir names ((es.lookup name).getD (.dir []))) es)

/-- Puts a file in place of the one that is there, if any. -/
def writeFile (content : Content) : List String → Tree → Except FileFault Tree :=
  modify fun
    | some (.dir _) => .error .isADirectory
    | _ => .ok (some (.file content))

/-- Removes a directory with all that is in it. -/
def removeDir : List String → Tree → Except FileFault Tree :=
  modify fun
    | some (.dir _) => .ok none
    | some (.file _) => .error .notADirectory
    | none => .error .notFound

/-- Removes a file. -/
def removeFile : List String → Tree → Except FileFault Tree :=
  modify fun
    | some (.dir _) => .error .isADirectory
    | some (.file _) => .ok none
    | none => .error .notFound

mutual

/-- The paths of a tree that stands at `base`, with a `/` behind the directories. -/
def paths (base : String) : Tree → List String
  | .file _ => [base]
  | .dir es => (base ++ "/") :: pathsOfEntries (base ++ "/") es

/-- The paths of entries of a directory. -/
def pathsOfEntries (base : String) : List (String × Tree) → List String
  | [] => []
  | (name, t) :: rest => t.paths (base ++ name) ++ pathsOfEntries base rest

end

end Tree

end PipelineSync
