import PipelineSync.Data.Basic
import PipelineSync.Files.Basic
import PipelineSync.Text.Hexadecimal

/-!
# Files to write

Descriptions of files and directories, which are put into a tree together with the directories that
hold them.
-/

namespace PipelineSync

/-- A file with its content, or a directory. -/
structure FileEntry where
  path : String
  /-- Nothing for a directory. -/
  content : Option Content
deriving DecidableEq, Repr, Inhabited

namespace FileEntry

/-- The bytes that pairs of hexadecimal digits write. -/
def bytes? : List Char → Option (List UInt8)
  | [] => some []
  | a :: b :: rest => do
    return UInt8.ofNat ((← Text.hexValue? a) * 16 + (← Text.hexValue? b)) :: (← bytes? rest)
  | [_] => none

/-- What a file with the given bytes holds. -/
def contentOfBytes (bytes : List UInt8) : Content :=
  match String.fromUTF8? ⟨bytes.toArray⟩ with
  | some s => .text s
  | none => .binary

/-- Reads a file with its content as text or in hexadecimal digits, or else a directory. -/
def ofData? (d : Data) : Option FileEntry := do
  let fs ← d.asFields? [["path"], ["content"], ["hex"]]
  let path ← fs.required? "path" Data.asText?
  match fs.lookup "content", fs.lookup "hex" with
  | some content, _ => return ⟨path, some (.text (← content.asText?))⟩
  | none, some hex => return ⟨path, some (contentOfBytes (← bytes? (← hex.asText?).toList))⟩
  | none, none => return ⟨path, none⟩

/-- The file or directory, below a directory. -/
def below (dir : String) (e : FileEntry) : FileEntry := { e with path := Path.join dir e.path }

end FileEntry

namespace Files

/-- The names that lead to the directory of a path. -/
def parent (path : String) : String :=
  String.ofList ((path.toList.reverse.dropWhile (· != '/')).drop 1).reverse

/-- Puts a file or directory in its place, as far as that is possible. -/
def put (fs : Files) (e : FileEntry) : Files :=
  match e.content with
  | none => (fs.makeDir e.path).toOption.getD fs
  | some content =>
    let fs := (fs.makeDir (parent e.path)).toOption.getD fs
    (fs.write e.path content).toOption.getD fs

/-- Puts files and directories in their places below a directory, which is made. -/
def putBelow (fs : Files) (dir : String) (es : List FileEntry) : Files :=
  (es.map (·.below dir)).foldl put ((fs.makeDir dir).toOption.getD fs)

end Files

end PipelineSync
