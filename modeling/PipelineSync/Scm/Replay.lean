import PipelineSync.Files.Entry
import PipelineSync.Scm.Command

/-!
# Replayed programs

A runner that starts no programs: it plays recorded responses one after the other and keeps the
calls, to try out what runs programs.
-/

namespace PipelineSync

/-- What one run of a program leaves. -/
structure Response where
  result : ProgramResult := {}
  /-- The files that the program writes, if it writes any. -/
  files : Option (List FileEntry) := none
deriving Inhabited

namespace Response

/-- The bytes of an output, as text or in hexadecimal digits. -/
def output? (fs : Data.Fields) (name : String) : Option (List UInt8) := do
  match ← fs.optional? name Data.asText?, ← fs.optional? (name ++ "_hex") Data.asText? with
  | some text, _ => return text.toUTF8.toList
  | none, some hex => FileEntry.bytes? hex.toList
  | none, none => return []

/-- Reads a response. -/
def ofData? (d : Data) : Option Response := do
  let fs ← d.asFields? [["exit"], ["stdout"], ["stderr"], ["stdout_hex"], ["stderr_hex"], ["files"]]
  return {
    result := ⟨← fs.getD? "exit" 0 Data.asNat?, ← output? fs "stdout", ← output? fs "stderr"⟩
    files := ← fs.optional? "files" (Data.asList? FileEntry.ofData?) }

end Response

/-- The programs there are, the responses to come, and the calls so far. -/
structure Replay where
  programs : List String := ["git", "hg", "svn"]
  responses : List Response := []
  calls : List Invocation := []
deriving Inhabited

namespace Replay

/-- The directory that a program fills. -/
def target (i : Invocation) : String :=
  if ["clone", "checkout"].contains (i.args.headD "") then i.args.getLastD ""
  else i.directory.getD "."

/-- Plays the next response, if the program is there and its directory too. -/
def run : Runner Replay := fun i h =>
  match h.files.find? (i.directory.getD ".") with
  | .error fault => (.error fault, h)
  | .ok (.file _) => (.error .notADirectory, h)
  | .ok (.dir _) =>
    if h.rest.programs.contains i.program then
      let response := h.rest.responses.head?.getD {}
      let files := match response.files with
        | some es => h.files.putBelow (target i) es
        | none => h.files
      let rest := { h.rest with
        responses := h.rest.responses.drop 1, calls := h.rest.calls ++ [i] }
      (.ok response.result, { h with files, rest })
    else (.error .notFound, h)

end Replay

end PipelineSync
