import PipelineSync.Diagnosis.Json
import PipelineSync.Diagnosis.Wanted
import PipelineSync.Error
import PipelineSync.Files.Basic
import PipelineSync.Json.Text
import PipelineSync.Log
import PipelineSync.Record.Codec

/-!
# Record stores

Records are kept in files, one a repository: a record is written to a file beside its own and moved
into place, so a file never holds a part of a record. Whoever only wants to look can keep records in
memory.
-/

namespace PipelineSync

/-- Files of records, all in one directory. -/
structure RecordFiles where
  directory : String
deriving DecidableEq, Repr

namespace RecordFiles

/-- The record files below a data directory. -/
def below (dataDirectory : String) : RecordFiles := ⟨Path.join dataDirectory "config-repos"⟩

/-- The file of a record. -/
def recordPath (store : RecordFiles) (key : Fingerprint) : String :=
  Path.join store.directory (key.hex ++ ".json")

/-- The file to which a record is written first. -/
def draftPath (store : RecordFiles) (key : Fingerprint) : String :=
  let path := store.recordPath key
  path ++ (if Path.fileName? path = some ".json" then ".json.tmp" else ".tmp")

/-- The failure to use a file. -/
def failure (path : String) (fault : FileFault) : Error := .persistence path fault.text

/-- The failure to find a record in a text. -/
def invalid (path text : String) : Error :=
  .invalidRecord path ((Json.complaint? Shape.updateRecord text).getD "invalid record")

/-- The record in a file. -/
def read (files : Files) (path : String) : Except Error UpdateRecord := do
  let text ← (files.readText path).mapError (failure path)
  match (Json.parse? text).bind UpdateRecord.ofData? with
  | some r => return r
  | none => throw (invalid path text)

/-- The record with a key. -/
def load (store : RecordFiles) (files : Files) (key : Fingerprint) :
    Except Error (Option UpdateRecord) :=
  let path := store.recordPath key
  if files.holds path then (read files path).map some else .ok none

/-- Whether a file has the name of a record: more than the ending, and the ending. -/
def isRecordName (name : String) : Bool :=
  let suffix := ".json".toList
  suffix.length < name.toList.length && suffix.isSuffixOf name.toList

/-- Every file with the name of a record, with the record in it or why there is none. -/
def readAll (store : RecordFiles) (files : Files) :
    Except Error (List (String × Except Error UpdateRecord)) :=
  if files.holds store.directory then do
    let entries ← (files.readDir store.directory).mapError (failure store.directory)
    let names := (entries.map Prod.fst).filter isRecordName
    return names.map fun name =>
      let path := Path.join store.directory name
      (path, read files path)
  else .ok []

/-- The line that tells of a file that is skipped. -/
def skippedLine (e : Error) : Log.Line :=
  ⟨.records, .warn, "Skipping unreadable update record: " ++ e.message⟩

/-- Every record, in the order of the files, and what there is to tell about it. -/
def loadAll (store : RecordFiles) (files : Files) :
    Except Error (List UpdateRecord × List Log.Line) := do
  let all ← store.readAll files
  let records := all.filterMap fun (_, r) => r.toOption
  let skipped := all.filterMap fun (_, r) =>
    match r with
    | .ok _ => none
    | .error e => some (skippedLine e)
  let line : Log.Line := ⟨.records, .debug,
    "Loaded " ++ toString records.length ++ " update records from " ++ store.directory⟩
  return (records, if files.holds store.directory then skipped ++ [line] else [])

/-- Writes a record to its file. When a step fails, those before it have been done. -/
def save (store : RecordFiles) (files : Files) (r : UpdateRecord) : Except Error Unit × Files :=
  let draft := store.draftPath r.key
  let path := store.recordPath r.key
  match files.makeDir store.directory with
  | .error fault => (.error (failure store.directory fault), files)
  | .ok files =>
    match files.write draft (.text (Json.text r.toData)) with
    | .error fault => (.error (failure draft fault), files)
    | .ok files =>
      match files.rename draft path with
      | .error fault => (.error (failure path fault), files)
      | .ok files => (.ok (), files)

end RecordFiles

/-- Records in memory. -/
abbrev RecordTable := KeyMap Fingerprint UpdateRecord

namespace RecordTable

/-- Every record, in the order of the keys. -/
def loadAll (t : RecordTable) : List UpdateRecord := t.values

/-- Keeps a record, instead of the one with its key. -/
def save (t : RecordTable) (r : UpdateRecord) : RecordTable := t.insert r.key r

end RecordTable

end PipelineSync
