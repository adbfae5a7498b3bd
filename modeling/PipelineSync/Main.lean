import PipelineSync.CommandLine.Places
import PipelineSync.Files.Changes
import PipelineSync.Files.Entry
import Std.Time.DateTime.Timestamp

/-!
# The command line

The outer layer: brings what a command looks at into a tree of files, runs the command on it, and
carries out what has changed. No programs are started from here: to the commands it looks as if none
were installed.
-/

namespace PipelineSync.CommandLine

/-- Puts what is at a path, with all below it, into a tree of files. -/
partial def readInto (files : Files) (path : String) : IO Files := do
  let place := (IO.FS.DirEntry.mk path ".").path
  if ← place.isDir then
    (← place.readDir).foldlM (fun files e => readInto files (Path.join path e.fileName))
      (files.put ⟨path, none⟩)
  else
    try
      let bytes ← IO.FS.readBinFile path
      return files.put ⟨path, some (FileEntry.contentOfBytes bytes.toList)⟩
    catch _ => return files

/-- Carries out a change, as far as that is possible. -/
def carryOut (change : FileChange) : IO Unit := do
  try
    match change with
    | .makeDir path => IO.FS.createDirAll path
    | .write path text => IO.FS.writeFile path text
    | .remove path =>
      if path.toList.getLast? == some '/' then IO.FS.removeDirAll path else IO.FS.removeFile path
  catch _ => return

/-- The variables of the environment. -/
def readVariables : IO Variables := do
  let values ← variableNames.mapM fun name => return (name, ← IO.getEnv name)
  return fun name => (values.lookup name).join

/-- The files that a command looks at. -/
def readFiles (env : Variables) (words : List String) : IO Files := do
  let here := (← IO.currentDir).toString
  let files := ({ } : Files).put ⟨here, none⟩
  let files := { files with here := files.resolve here }
  match Request.ofWords env words with
  | .error _ => return files
  | .ok r =>
    let files ← r.command.places.foldlM readInto files
    (r.command.settingsPlaces env files).foldlM readInto files

/-- The runner that finds no program. -/
def noPrograms : Runner Unit := fun _ h => (.error .notFound, h)

/-- Runs a command line. -/
def execute (words : List String) : IO Outcome := do
  let env ← readVariables
  let files ← readFiles env words
  let now := (← Std.Time.Timestamp.now).toNanosecondsSinceUnixEpoch.toInt
  let now := Time.ofUnix (now.fdiv 1000000000) (now.fmod 1000000000).toNat
  let (outcome, h) := run noPrograms env words { files, now, rest := () }
  (files.changes h.files).forM carryOut
  return outcome

end PipelineSync.CommandLine

/-- Prints the outcome of a command line. -/
def main (words : List String) : IO UInt32 := do
  let outcome ← PipelineSync.CommandLine.execute words
  IO.print outcome.output
  IO.eprint outcome.errors
  return outcome.exitCode.toUInt32
