import PipelineSync.Files.Basic
import PipelineSync.Proofs.Files.Tree

/-!
# Files of one directory

What making a directory, writing and moving files does to the entries of one directory, in terms of
paths: the names of files are joined to the path of the directory.
-/

namespace PipelineSync

namespace Files

variable {fs : Files} {dir : String} {es : List (String × Tree)}

theorem resolve_join (fs : Files) (dir : String) {name : String} (h : Path.IsName name) :
    fs.resolve (Path.join dir name) = fs.resolve dir ++ [name] := by
  unfold resolve
  rw [Path.components_join h, List.foldl_append]
  rfl

/-- The entries of a directory; there are none where it can still be made. -/
def entriesAt? (fs : Files) (dir : String) : Option (List (String × Tree)) :=
  Tree.entriesAt? (fs.resolve dir) fs.root

theorem entriesAt?_of_find? (h : fs.find? dir = .ok (.dir es)) : fs.entriesAt? dir = some es :=
  Tree.entriesAt?_of_find? h

theorem find?_of_entriesAt? (h : fs.entriesAt? dir = some es) :
    fs.find? dir = .ok (.dir es) ∨ fs.find? dir = .error .notFound ∧ es = [] :=
  Tree.find?_of_entriesAt? h

theorem find?_join (h : fs.entriesAt? dir = some es) {name : String} (hname : Path.IsName name) :
    fs.find? (Path.join dir name) =
      match es.lookup name with
      | some t => .ok t
      | none => .error .notFound := by
  unfold find?
  rw [resolve_join fs dir hname]
  rcases Tree.find?_of_entriesAt? h with hdir | ⟨hnone, rfl⟩
  · exact Tree.find?_entry hdir name
  · exact Tree.find?_append_of_error hnone [name]

theorem exists_makeDir (h : fs.entriesAt? dir = some es) :
    ∃ fs', fs.makeDir dir = .ok fs' ∧ fs'.find? dir = .ok (.dir es) := by
  obtain ⟨root, hroot, hes⟩ := Tree.exists_makeDir h
  refine ⟨{ fs with root }, ?_, hes⟩
  unfold makeDir change
  rw [hroot]
  rfl

/-- Making some of the directories on the way to a directory leaves its entries as they are. -/
theorem exists_makeDir_take (h : fs.entriesAt? dir = some es) (n : Nat) :
    ∃ fs', fs.change dir (fun names => Tree.makeDir (names.take n)) = .ok fs' ∧
      fs'.entriesAt? dir = some es := by
  unfold entriesAt? at h
  rw [← List.take_append_drop n (fs.resolve dir)] at h
  obtain ⟨root, hroot, hes⟩ := Tree.exists_makeDir_append h
  rw [List.take_append_drop] at hes
  refine ⟨{ fs with root }, ?_, hes⟩
  unfold change
  dsimp only
  rw [hroot]
  rfl

theorem exists_change {operation : Option Tree → Except FileFault (Option Tree)}
    {es' : List (String × Tree)} (h : fs.find? dir = .ok (.dir es)) {name : String}
    (hname : Path.IsName name) (hes : Tree.changeEntry operation name es = .ok es') :
    ∃ fs', fs.change (Path.join dir name) (Tree.modify operation) = .ok fs' ∧
      fs'.find? dir = .ok (.dir es') := by
  obtain ⟨root, hroot, hes'⟩ := Tree.exists_modify h hes
  refine ⟨{ fs with root }, ?_, hes'⟩
  unfold change
  rw [resolve_join fs dir hname, hroot]
  rfl

theorem exists_write (h : fs.find? dir = .ok (.dir es)) {name : String} (hname : Path.IsName name)
    (hfile : ∀ t, es.lookup name = some t → t.isDir = false) (content : Content) :
    ∃ fs', fs.write (Path.join dir name) content = .ok fs' ∧
      fs'.find? dir = .ok (.dir (Tree.setEntry name (.file content) es)) := by
  apply exists_change h hname
  unfold Tree.changeEntry
  cases hlookup : es.lookup name with
  | none => rfl
  | some t =>
    cases t with
    | file _ => rfl
    | dir _ => exact absurd (hfile _ hlookup) Bool.true_eq_false.mp

theorem exists_remove (h : fs.find? dir = .ok (.dir es)) {name : String} (hname : Path.IsName name)
    {content : Content} (hlookup : es.lookup name = some (.file content)) :
    ∃ fs', fs.change (Path.join dir name) Tree.removeFile = .ok fs' ∧
      fs'.find? dir = .ok (.dir (es.filter fun e => e.1 != name)) := by
  apply exists_change h hname
  unfold Tree.changeEntry
  rw [hlookup]
  rfl

theorem exists_rename (h : fs.find? dir = .ok (.dir es)) {source target : String}
    (hsource : Path.IsName source) (htarget : Path.IsName target) (hne : source ≠ target)
    {content : Content} (hcontent : es.lookup source = some (.file content))
    (hfile : ∀ t, es.lookup target = some t → t.isDir = false) :
    ∃ fs', fs.rename (Path.join dir source) (Path.join dir target) = .ok fs' ∧
      fs'.find? dir = .ok (.dir
        ((Tree.setEntry target (.file content) es).filter fun e => e.1 != source)) := by
  obtain ⟨moved, hmoved, hes⟩ := exists_write h htarget hfile content
  have hlookup : (Tree.setEntry target (.file content) es).lookup source =
      some (.file content) := by
    rw [Tree.lookup_setEntry, if_neg hne, hcontent]
  obtain ⟨fs', hfs', hes'⟩ := exists_remove hes hsource hlookup
  refine ⟨fs', ?_, hes'⟩
  have hfind := find?_join (entriesAt?_of_find? h) hsource
  rw [hcontent] at hfind
  unfold rename
  rw [hfind]
  change (fs.write (Path.join dir target) content >>= fun fs =>
    fs.change (Path.join dir source) Tree.removeFile) = _
  rw [hmoved]
  exact hfs'

end Files

end PipelineSync
