import PipelineSync.Proofs.Files.Directory
import PipelineSync.Proofs.Lists
import PipelineSync.Proofs.Record.Codec
import PipelineSync.Record.Store

/-!
# Saves that fail on the way

A save may be stopped at any of its steps: the directory cannot be made, the draft cannot be written
and may be left with anything in it, the draft cannot be moved. Whatever happens to saves, each record
that was saved stays as it is until the next save of its key succeeds: `loads_last_saved`.

What carries this is `Keeps`: the files with the names of records are those of the last saves, and
every other file is a draft.
-/

namespace PipelineSync

namespace RecordFiles

/-! ## Saves that fail -/

/-- The operations on files that a save consists of. Each ends well or with the message of the
operating system, and gives the files that are there afterwards. -/
structure Operations where
  makeDir : Files → String → Except String Unit × Files
  write : Files → String → Content → Except String Unit × Files
  rename : Files → String → String → Except String Unit × Files

/-- Either the files afterwards, or the files as they were. -/
def outcome (files : Files) : Except FileFault Files → Except String Unit × Files
  | .ok files' => (.ok (), files')
  | .error fault => (.error fault.text, files)

/-- The operations with nothing in their way. -/
def Operations.undisturbed : Operations where
  makeDir files dir := outcome files (files.makeDir dir)
  write files path content := outcome files (files.write path content)
  rename files source target := outcome files (files.rename source target)

/-- Saves a record by the given operations. -/
def saveBy (ops : Operations) (store : RecordFiles) (files : Files) (r : UpdateRecord) :
    Except Error Unit × Files :=
  let draft := store.draftPath r.key
  let path := store.recordPath r.key
  match ops.makeDir files store.directory with
  | (.error message, files) => (.error (.persistence store.directory message), files)
  | (.ok _, files) =>
    match ops.write files draft (.text (Json.text r.toData)) with
    | (.error message, files) => (.error (.persistence draft message), files)
    | (.ok _, files) =>
      match ops.rename files draft path with
      | (.error message, files) => (.error (.persistence path message), files)
      | (.ok _, files) => (.ok (), files)

theorem saveBy_undisturbed (store : RecordFiles) (files : Files) (r : UpdateRecord) :
    saveBy .undisturbed store files r = store.save files r := by
  unfold saveBy save Operations.undisturbed
  dsimp only
  cases files.makeDir store.directory with
  | error fault => rfl
  | ok made =>
    dsimp only [outcome]
    cases made.write (store.draftPath r.key) (.text (Json.text r.toData)) with
    | error fault => rfl
    | ok written =>
      dsimp only
      cases written.rename (store.draftPath r.key) (store.recordPath r.key) <;> rfl

/-- What is in the way of a save. -/
inductive Obstacle where
  | none
  /-- The directory cannot be made, though some of those on the way to it may be. -/
  | directory (made : Nat) (message : String)
  /-- The draft cannot be written; there may be one with any content afterwards. -/
  | draft (left : Option Content) (message : String)
  /-- The draft cannot be moved into place. -/
  | move (message : String)

/-- The operations with an obstacle in their way. -/
def Obstacle.operations : Obstacle → Operations
  | none => .undisturbed
  | directory n message =>
    { Operations.undisturbed with
      makeDir := fun files dir =>
        let left := files.change dir fun names => Tree.makeDir (names.take n)
        (.error message, left.toOption.getD files) }
  | draft left message =>
    { Operations.undisturbed with
      write := fun files path _ =>
        let left := left.bind fun content => (files.write path content).toOption
        (.error message, left.getD files) }
  | move message =>
    { Operations.undisturbed with rename := fun files _ _ => (.error message, files) }

/-- A save with what is in its way, if anything is. -/
structure Attempt where
  record : UpdateRecord
  obstacle : Obstacle := .none

/-- Saves a record as far as it goes. -/
def saveDespite (store : RecordFiles) (files : Files) (a : Attempt) : Except Error Unit × Files :=
  saveBy a.obstacle.operations store files a.record

/-- Saves one record after the other, and gives what came of each. -/
def saveAll (store : RecordFiles) (files : Files) :
    List Attempt → List (UpdateRecord × Except Error Unit) × Files
  | [] => ([], files)
  | a :: rest =>
    let (outcome, files) := store.saveDespite files a
    let (outcomes, files) := saveAll store files rest
    ((a.record, outcome) :: outcomes, files)

/-- The records that are known after a save. -/
def note (saved : RecordTable) (e : UpdateRecord × Except Error Unit) : RecordTable :=
  match e.2 with
  | .ok _ => saved.save e.1
  | .error _ => saved

/-- The last record of each key whose save went well. -/
def lastSaved (outcomes : List (UpdateRecord × Except Error Unit)) : RecordTable :=
  outcomes.foldl note ∅

/-! ## Names of files -/

/-- Whether a key can be part of a file name. -/
def IsKey (key : Fingerprint) : Prop :=
  key.hex ≠ "" ∧ '/' ∉ key.hex.toList

instance (key : Fingerprint) : Decidable (IsKey key) :=
  inferInstanceAs (Decidable (_ ∧ _))

/-- The name of the file of a record. -/
def fileName (key : Fingerprint) : String := key.hex ++ ".json"

/-- The name of the file to which a record is written first. -/
def draftName (key : Fingerprint) : String := key.hex ++ ".json.tmp"

theorem isName_append {key : Fingerprint} (h : IsKey key) {suffix : String}
    (hlength : 2 ≤ suffix.toList.length) (hslash : '/' ∉ suffix.toList) :
    Path.IsName (key.hex ++ suffix) := by
  have hlong : 3 ≤ (key.hex ++ suffix).toList.length := by
    have : key.hex.toList ≠ [] := by simpa using h.1
    have := List.length_pos_iff.2 this
    simp only [String.toList_append, List.length_append]
    omega
  refine ⟨?_, ?_, ?_, ?_⟩
  · intro heq
    rw [heq] at hlong
    exact absurd hlong (by decide)
  · intro heq
    rw [heq] at hlong
    exact absurd hlong (by decide)
  · intro heq
    rw [heq] at hlong
    exact absurd hlong (by decide)
  · simp [h.2, hslash]

theorem isName_fileName {key : Fingerprint} (h : IsKey key) : Path.IsName (fileName key) :=
  isName_append h (by decide) (by decide)

theorem isName_draftName {key : Fingerprint} (h : IsKey key) : Path.IsName (draftName key) :=
  isName_append h (by decide) (by decide)

theorem fileName_inj {a b : Fingerprint} : fileName a = fileName b ↔ a = b := by
  constructor
  · intro h
    have := congrArg String.toList h
    rw [fileName, fileName, String.toList_append, String.toList_append,
      List.append_cancel_right_eq, String.toList_inj] at this
    exact congrArg Fingerprint.mk this
  · rintro rfl
    rfl

theorem isRecordName_fileName {key : Fingerprint} (h : IsKey key) :
    isRecordName (fileName key) = true := by
  have hne : key.hex.toList ≠ [] := by simpa using h.1
  have hlength := List.length_pos_iff.2 hne
  have hsuffix : ".json".toList.isSuffixOf (fileName key).toList = true := by
    rw [List.isSuffixOf_iff_suffix, fileName, String.toList_append]
    exact List.suffix_append _ _
  unfold isRecordName
  dsimp only
  rw [hsuffix, Bool.and_true, decide_eq_true_eq, fileName, String.toList_append,
    List.length_append]
  omega

theorem isRecordName_draftName (key : Fingerprint) : isRecordName (draftName key) = false := by
  have hsuffix : ¬ ".json".toList <:+ (draftName key).toList := by
    rintro ⟨front, hfront⟩
    have := congrArg List.getLast? hfront
    simp [draftName] at this
  unfold isRecordName
  rw [Bool.and_eq_false_iff]
  right
  rw [← Bool.not_eq_true, List.isSuffixOf_iff_suffix]
  exact hsuffix

theorem fileName_ne_draftName {a b : Fingerprint} (h : IsKey a) : fileName a ≠ draftName b := by
  intro heq
  have := isRecordName_fileName h
  rw [heq, isRecordName_draftName] at this
  exact Bool.false_ne_true this

theorem draftPath_eq (store : RecordFiles) {key : Fingerprint} (h : IsKey key) :
    store.draftPath key = Path.join store.directory (draftName key) := by
  have hname := isName_fileName h
  have hfile : Path.fileName? (store.recordPath key) = some (fileName key) := by
    unfold Path.fileName? recordPath
    rw [show key.hex ++ ".json" = fileName key from rfl, Path.components_join hname,
      List.getLast?_concat]
  have hne : fileName key ≠ ".json" := by
    intro heq
    have := congrArg String.toList heq
    simp [fileName, h.1] at this
  have hdraft : fileName key ++ ".tmp" = draftName key := by
    rw [fileName, draftName, String.append_assoc]
    rfl
  obtain ⟨front, hfront⟩ := Path.exists_join_eq store.directory
  have hrecord : store.recordPath key = front ++ fileName key := hfront _ hname.isAbsolute
  unfold draftPath
  dsimp only
  rw [hfile, if_neg fun heq => hne (Option.some.inj heq), hfront _ (isName_draftName h).isAbsolute,
    hrecord, String.append_assoc, hdraft]

/-! ## What the files hold -/

/-- A record is kept under its key, and can be read back from its text. -/
structure Kept (es : List (String × Tree)) (key : Fingerprint) (r : UpdateRecord) : Prop where
  isKey : IsKey key
  validTimes : r.HasValidTimes
  lookup : es.lookup (fileName key) = some (.file (.text (Json.text r.toData)))

/-- The entries of the directory: the last record of each key in its file, and drafts. -/
structure Stored (saved : RecordTable) (es : List (String × Tree)) : Prop where
  ordered : Tree.Ordered es
  kept : ∀ key r, saved.get? key = some r → Kept es key r
  entry : ∀ name t, es.lookup name = some t →
    (∃ key r, saved.get? key = some r ∧ name = fileName key) ∨
      ∃ key content, name = draftName key ∧ t = .file content

theorem get?_save (saved : RecordTable) (r : UpdateRecord) (key : Fingerprint) :
    (saved.save r).get? key = if key = r.key then some r else saved.get? key :=
  KeyMap.get?_insert saved r.key r key

namespace Stored

variable {saved : RecordTable} {es : List (String × Tree)}

theorem nil : Stored ∅ [] where
  ordered := List.Pairwise.nil
  kept := nofun
  entry := nofun

theorem isDir_eq_false (h : Stored saved es) {name : String} {t : Tree}
    (ht : es.lookup name = some t) : t.isDir = false := by
  rcases h.entry name t ht with ⟨key, r, hr, rfl⟩ | ⟨key, content, -, rfl⟩
  · have := (h.kept key r hr).lookup.symm.trans ht
    rw [← Option.some.inj this]
    rfl
  · rfl

theorem lookup_fileName (h : Stored saved es) {key : Fingerprint} (hkey : IsKey key) :
    es.lookup (fileName key) =
      (saved.get? key).map fun r => .file (.text (Json.text r.toData)) := by
  cases hr : saved.get? key with
  | some r => exact (h.kept key r hr).lookup
  | none =>
    rw [Option.map_none, Option.eq_none_iff_forall_ne_some]
    intro t ht
    rcases h.entry _ t ht with ⟨other, r, hother, heq⟩ | ⟨other, content, heq, -⟩
    · rw [fileName_inj.1 heq, hother] at hr
      exact Option.some_ne_none r hr
    · exact fileName_ne_draftName hkey heq

/-- Any draft may come to the files. -/
theorem draft (h : Stored saved es) (key : Fingerprint) (content : Content) :
    Stored saved (Tree.setEntry (draftName key) (.file content) es) where
  ordered := h.ordered.setEntry _ _
  kept := by
    intro other r hr
    obtain ⟨hkey, htimes, hlookup⟩ := h.kept other r hr
    refine ⟨hkey, htimes, ?_⟩
    rw [Tree.lookup_setEntry, if_neg (fileName_ne_draftName hkey), hlookup]
  entry := by
    intro name t ht
    rw [Tree.lookup_setEntry] at ht
    split at ht
    · next hname => exact Or.inr ⟨key, content, hname, (Option.some.inj ht).symm⟩
    · exact h.entry name t ht

/-- A draft that is moved into place saves its record. -/
theorem save (h : Stored saved es) {r : UpdateRecord} (hkey : IsKey r.key)
    (htimes : r.HasValidTimes) :
    Stored (saved.save r) ((Tree.setEntry (fileName r.key) (.file (.text (Json.text r.toData)))
      es).filter fun e => e.1 != draftName r.key) where
  ordered := (h.ordered.setEntry _ _).filter _
  kept := by
    intro key r' hr
    have hlookup (hkey : IsKey key) :
        ((Tree.setEntry (fileName r.key) (.file (.text (Json.text r.toData))) es).filter
          fun e => e.1 != draftName r.key).lookup (fileName key) =
            if fileName key = fileName r.key then some (.file (.text (Json.text r.toData)))
            else es.lookup (fileName key) := by
      rw [Tree.lookup_filter_ne, if_neg (fileName_ne_draftName hkey), Tree.lookup_setEntry]
    rw [get?_save] at hr
    by_cases hsame : key = r.key
    · subst hsame
      rw [if_pos rfl] at hr
      obtain rfl := Option.some.inj hr
      exact ⟨hkey, htimes, (hlookup hkey).trans (if_pos rfl)⟩
    · rw [if_neg hsame] at hr
      obtain ⟨hkey', htimes', hold⟩ := h.kept key r' hr
      refine ⟨hkey', htimes', ?_⟩
      rw [hlookup hkey', if_neg (mt fileName_inj.1 hsame), hold]
  entry := by
    intro name t ht
    rw [Tree.lookup_filter_ne, Tree.lookup_setEntry] at ht
    split at ht
    · cases ht
    · split at ht
      · next hname =>
        refine Or.inl ⟨r.key, r, ?_, hname⟩
        rw [get?_save, if_pos rfl]
      · rcases h.entry name t ht with ⟨key, r', hr, hname⟩ | hdraft
        · left
          by_cases hsame : key = r.key
          · refine ⟨r.key, r, ?_, hsame ▸ hname⟩
            rw [get?_save, if_pos rfl]
          · refine ⟨key, r', ?_, hname⟩
            rw [get?_save, if_neg hsame, hr]
        · exact Or.inr hdraft

end Stored

/-- The files hold the records of a table, and what is there besides does no harm. -/
def Keeps (store : RecordFiles) (files : Files) (saved : RecordTable) : Prop :=
  ∃ es, files.entriesAt? store.directory = some es ∧ Stored saved es

namespace Keeps

variable {store : RecordFiles} {files : Files} {saved : RecordTable}

/-! ## Saving -/

/-- With nothing in the way a save goes well. -/
theorem save (h : store.Keeps files saved) {r : UpdateRecord} (hkey : IsKey r.key)
    (htimes : r.HasValidTimes) :
    ∃ files', store.save files r = (.ok (), files') ∧ store.Keeps files' (saved.save r) := by
  obtain ⟨es, hes, hstored⟩ := h
  obtain ⟨made, hmade, hdir⟩ := Files.exists_makeDir hes
  obtain ⟨written, hwritten, hdraft⟩ := Files.exists_write hdir (isName_draftName hkey)
    (fun t => hstored.isDir_eq_false) (.text (Json.text r.toData))
  have hstored' := hstored.draft r.key (.text (Json.text r.toData))
  obtain ⟨moved, hmoved, hfile⟩ := Files.exists_rename hdraft (isName_draftName hkey)
    (isName_fileName hkey) (fileName_ne_draftName hkey).symm
    ((Tree.lookup_setEntry _ _ _ _).trans (if_pos rfl)) (fun t => hstored'.isDir_eq_false)
  refine ⟨moved, ?_, _, Files.entriesAt?_of_find? hfile, hstored'.save hkey htimes⟩
  unfold RecordFiles.save
  rw [store.draftPath_eq hkey, hmade]
  dsimp only
  rw [hwritten]
  dsimp only
  rw [show store.recordPath r.key = Path.join store.directory (fileName r.key) from rfl, hmoved]

/-- Whatever comes of a save, the files hold the records that are known after it. -/
theorem saveDespite (h : store.Keeps files saved) {a : Attempt} (hkey : IsKey a.record.key)
    (htimes : a.record.HasValidTimes) :
    store.Keeps (store.saveDespite files a).2
      (note saved (a.record, (store.saveDespite files a).1)) := by
  obtain ⟨r, obstacle⟩ := a
  obtain ⟨es, hes, hstored⟩ := id h
  obtain ⟨made, hmade, hdir⟩ := Files.exists_makeDir hes
  have hdraft (content : Content) := Files.exists_write hdir (isName_draftName hkey)
    (fun t => hstored.isDir_eq_false) content
  unfold RecordFiles.saveDespite
  cases obstacle with
  | none =>
    obtain ⟨files', hsave, hkeeps⟩ := h.save hkey htimes
    dsimp only [Obstacle.operations]
    rw [saveBy_undisturbed, hsave]
    exact hkeeps
  | directory n message =>
    obtain ⟨left, hleft, hes'⟩ := Files.exists_makeDir_take hes n
    dsimp only [Obstacle.operations, saveBy]
    rw [hleft]
    exact ⟨es, hes', hstored⟩
  | draft left message =>
    dsimp only [Obstacle.operations, saveBy, Operations.undisturbed]
    rw [hmade]
    cases left with
    | none => exact ⟨es, Files.entriesAt?_of_find? hdir, hstored⟩
    | some content =>
      obtain ⟨written, hwritten, hfile⟩ := hdraft content
      dsimp only [outcome]
      rw [store.draftPath_eq hkey, Option.bind_some, hwritten]
      exact ⟨_, Files.entriesAt?_of_find? hfile, hstored.draft _ _⟩
  | move message =>
    obtain ⟨written, hwritten, hfile⟩ := hdraft (.text (Json.text r.toData))
    dsimp only [Obstacle.operations, saveBy, Operations.undisturbed]
    rw [hmade]
    dsimp only [outcome]
    rw [store.draftPath_eq hkey, hwritten]
    exact ⟨_, Files.entriesAt?_of_find? hfile, hstored.draft _ _⟩

theorem saveAll (h : store.Keeps files saved) {attempts : List Attempt}
    (hattempts : ∀ a ∈ attempts, IsKey a.record.key ∧ a.record.HasValidTimes) :
    store.Keeps (store.saveAll files attempts).2
      ((store.saveAll files attempts).1.foldl note saved) := by
  induction attempts generalizing files saved with
  | nil => exact h
  | cons a attempts ih =>
    obtain ⟨hkey, htimes⟩ := hattempts a List.mem_cons_self
    exact ih (h.saveDespite hkey htimes) fun b hb => hattempts b (List.mem_cons_of_mem a hb)

/-! ## Loading -/

theorem read_recordPath (h : store.Keeps files saved) {key : Fingerprint} {r : UpdateRecord}
    (hr : saved.get? key = some r) :
    read files (store.recordPath key) = .ok r.withoutPasswords := by
  obtain ⟨es, hes, hstored⟩ := h
  obtain ⟨hkey, htimes, hlookup⟩ := hstored.kept key r hr
  have hfind : files.find? (store.recordPath key) = .ok (.file (.text (Json.text r.toData))) := by
    have := Files.find?_join hes (isName_fileName hkey)
    rwa [hlookup] at this
  have htext : files.readText (store.recordPath key) = .ok (Json.text r.toData) := by
    unfold Files.readText
    rw [hfind]
  unfold read
  rw [htext]
  simp only [Except.mapError, ok_bind, UpdateRecord.ofData?_parse?_text htimes]
  rfl

theorem load (h : store.Keeps files saved) {key : Fingerprint} (hkey : IsKey key) :
    store.load files key = .ok ((saved.get? key).map UpdateRecord.withoutPasswords) := by
  obtain ⟨es, hes, hstored⟩ := id h
  have hfind := Files.find?_join hes (isName_fileName hkey)
  rw [hstored.lookup_fileName hkey] at hfind
  unfold RecordFiles.load Files.holds
  dsimp only
  rw [show store.recordPath key = Path.join store.directory (fileName key) from rfl, hfind]
  cases hr : saved.get? key with
  | none => rfl
  | some r =>
    have hread := h.read_recordPath hr
    exact congrArg (Except.map some) hread

/-- The files with the names of records are those of the saved keys. -/
theorem names_perm {es : List (String × Tree)} (h : Stored saved es) :
    ((es.map Prod.fst).filter isRecordName).Perm (saved.keys.map fileName) := by
  rw [List.perm_ext_iff_of_nodup (h.ordered.nodup.filter _)
    (saved.nodup_keys.map fun a b hab => fileName_inj.1 hab)]
  intro name
  rw [List.mem_filter, List.mem_map, List.mem_map]
  constructor
  · rintro ⟨⟨⟨name, t⟩, he, rfl⟩, hname⟩
    rcases h.entry name t (h.ordered.lookup_of_mem he) with ⟨key, r, hr, rfl⟩ | ⟨key, -, rfl, -⟩
    · exact ⟨key, List.mem_map.2 ⟨(key, r), KeyMap.get?_eq_some_iff.1 hr, rfl⟩, rfl⟩
    · rw [isRecordName_draftName] at hname
      exact absurd hname Bool.false_ne_true
  · rintro ⟨key, hkey, rfl⟩
    obtain ⟨⟨key, r⟩, he, rfl⟩ := List.mem_map.1 hkey
    obtain ⟨hkey, -, hlookup⟩ := h.kept key r (KeyMap.get?_eq_some_iff.2 he)
    exact ⟨⟨_, mem_of_lookup hlookup, rfl⟩, isRecordName_fileName hkey⟩

theorem readAll_eq {es : List (String × Tree)} (hes : files.entriesAt? store.directory = some es) :
    store.readAll files = .ok (((es.map Prod.fst).filter isRecordName).map fun name =>
      (Path.join store.directory name, read files (Path.join store.directory name))) := by
  unfold readAll Files.holds Files.readDir
  rcases Files.find?_of_entriesAt? hes with hdir | ⟨hnone, rfl⟩
  · rw [hdir]
    rfl
  · rw [hnone]
    rfl

theorem loadAll (h : store.Keeps files saved) :
    ∃ records, (store.loadAll files).map Prod.fst = .ok records ∧
      records.Perm (saved.values.map UpdateRecord.withoutPasswords) := by
  obtain ⟨es, hes, hstored⟩ := id h
  let names := (es.map Prod.fst).filter isRecordName
  let readName (name : String) := (read files (Path.join store.directory name)).toOption
  have hrecords : (saved.keys.map fileName).filterMap readName =
      saved.values.map UpdateRecord.withoutPasswords := by
    unfold KeyMap.keys KeyMap.values
    rw [List.map_map, List.map_map, List.filterMap_map, ← List.filterMap_eq_map]
    apply List.filterMap_congr
    rintro ⟨key, r⟩ he
    have hread := h.read_recordPath (KeyMap.get?_eq_some_iff.2 he)
    exact congrArg Except.toOption hread
  refine ⟨names.filterMap readName, ?_, ?_⟩
  · unfold RecordFiles.loadAll
    rw [readAll_eq hes, ok_bind, List.filterMap_map]
    rfl
  · rw [← hrecords]
    exact (names_perm hstored).filterMap readName

end Keeps

/-- However saves fail, what is loaded is what was last saved, and the next save goes well. -/
theorem loads_last_saved {store : RecordFiles} {files : Files}
    (hempty : files.entriesAt? store.directory = some []) {attempts : List Attempt}
    (hattempts : ∀ a ∈ attempts, IsKey a.record.key ∧ a.record.HasValidTimes) :
    let (outcomes, files') := store.saveAll files attempts
    let saved := lastSaved outcomes
    (∀ key, IsKey key →
      store.load files' key = .ok ((saved.get? key).map UpdateRecord.withoutPasswords)) ∧
    (∃ records, (store.loadAll files').map Prod.fst = .ok records ∧
      records.Perm (saved.values.map UpdateRecord.withoutPasswords)) ∧
    ∀ r, IsKey r.key → r.HasValidTimes → (store.save files' r).1 = .ok () := by
  have hkeeps : store.Keeps (store.saveAll files attempts).2
      (lastSaved (store.saveAll files attempts).1) :=
    Keeps.saveAll ⟨[], hempty, Stored.nil⟩ hattempts
  refine ⟨fun key hkey => hkeeps.load hkey, hkeeps.loadAll, fun r hkey htimes => ?_⟩
  obtain ⟨files', hsave, -⟩ := hkeeps.save hkey htimes
  rw [hsave]

/-- A first save, one that leaves a part of its draft, one whose draft stays where it is, and one of
another key. -/
def troubled : List Attempt :=
  let r := UpdateRecord.leapSecond
  let later := { r with lastAttemptedRevision := some "r2" }
  [⟨r, .none⟩, ⟨later, .draft (some (.text "\x7b")) "No space left on device (os error 28)"⟩,
    ⟨later, .move "Permission denied (os error 13)"⟩,
    ⟨{ r with key := ⟨"0f0"⟩, lastMerged := none }, .none⟩]

theorem troubled_loads_last_saved :
    let store := RecordFiles.below "/data"
    let files : Files := { root := .dir [("data", .dir [])] }
    let (outcomes, files') := store.saveAll files troubled
    let saved := lastSaved outcomes
    files.entriesAt? store.directory = some [] ∧
    (∀ a ∈ troubled, IsKey a.record.key ∧ a.record.HasValidTimes) ∧
    outcomes.map (fun e => e.2.isOk) = [true, false, false, true] ∧
    (∀ key, IsKey key →
      store.load files' key = .ok ((saved.get? key).map UpdateRecord.withoutPasswords)) ∧
    (∃ records, (store.loadAll files').map Prod.fst = .ok records ∧
      records.Perm (saved.values.map UpdateRecord.withoutPasswords)) ∧
    ∀ r, IsKey r.key → r.HasValidTimes → (store.save files' r).1 = .ok () := by
  have hempty : Files.entriesAt? { root := .dir [("data", .dir [])] }
      (RecordFiles.below "/data").directory = some [] := rfl
  have hattempts : ∀ a ∈ troubled, IsKey a.record.key ∧ a.record.HasValidTimes := by
    have htimes := UpdateRecord.hasValidTimes_leapSecond
    intro a ha
    simp only [troubled, List.mem_cons, List.not_mem_nil, or_false] at ha
    rcases ha with rfl | rfl | rfl | rfl <;>
      exact ⟨by decide, htimes.updatedAt, htimes.lastFault, htimes.lastCheckoutFault⟩
  have h := loads_last_saved hempty hattempts
  exact ⟨hempty, hattempts, rfl, h⟩

end RecordFiles

end PipelineSync
