import PipelineSync.Fragment.Discovery
import PipelineSync.Proofs.Files.Tree
import PipelineSync.Proofs.Lists
import PipelineSync.Proofs.Material.Filter

/-!
# Which fragments are found

A search goes through a tree entry by entry. `Discovery.mem_fragmentsOf_iff` says what it finds, and
`Discovery.sorted_fragmentsOf` in which order, both by induction on the tree; the order of entries
within directories makes the order of the paths. `Discovery.exists_found` puts together what a search
below the root of a working copy gives, with the filter of a material applied.
-/

namespace PipelineSync

/-! ## Trees -/

/-- A tree as it can stand on a disk: every directory has its entries in the order of their names, and
under names that can stand in a directory. -/
inductive Tree.Regular : Tree → Prop where
  | file (content : Content) : Regular (.file content)
  | dir {es : List (String × Tree)} (ordered : Ordered es) (names : ∀ e ∈ es, Path.IsName e.1)
      (entries : ∀ e ∈ es, Regular e.2) : Regular (.dir es)

theorem Tree.Regular.isName {t u : Tree} (h : t.Regular) {names : List String}
    (hfind : t.find? names = .ok u) {name : String} (hmem : name ∈ names) : Path.IsName name := by
  induction names generalizing t with
  | nil => cases hmem
  | cons first rest ih =>
    cases h with
    | file content => cases hfind
    | dir ordered hnames entries =>
      rw [find?_dir_cons] at hfind
      split at hfind
      · next t' hlookup =>
        have hentry := mem_of_lookup hlookup
        rcases List.mem_cons.1 hmem with rfl | hmem
        · exact hnames _ hentry
        · exact ih (entries _ hentry) hfind hmem
      · cases hfind

theorem Path.isFragmentName_iff {name : String} :
    isFragmentName name = true ↔ ∃ stem, stem ≠ "" ∧ name = stem ++ fragmentSuffix := by
  unfold isFragmentName
  rw [Bool.and_eq_true, decide_eq_true_iff, List.isSuffixOf_iff_suffix]
  constructor
  · rintro ⟨hlength, front, hfront⟩
    have hname : name = String.ofList front ++ fragmentSuffix := by
      apply String.toList_injective
      simp [hfront]
    refine ⟨String.ofList front, ?_, hname⟩
    rintro hempty
    rw [hempty, String.empty_append] at hname
    rw [hname] at hlength
    exact Nat.lt_irrefl _ hlength
  · rintro ⟨stem, hstem, rfl⟩
    have hpos : 0 < stem.toList.length := List.length_pos_of_ne_nil (by simpa using hstem)
    have hlength : fragmentSuffix.toList.length = fragmentSuffix.length := String.length_toList
    refine ⟨?_, stem.toList, by simp⟩
    rw [String.toList_append, List.length_append]
    omega

namespace Discovery

/-! ## The search -/

theorem fragmentsOfEntries_eq_flatMap (names : List String) (es : List (String × Tree)) :
    fragmentsOfEntries names es = es.flatMap fun e => fragmentsOf (names ++ [e.1]) e.1 e.2 := by
  induction es with
  | nil => simp [fragmentsOfEntries]
  | cons e es ih => rw [fragmentsOfEntries, ih, List.flatMap_cons]

/-- A path leads from a tree that stands under `name` to a fragment, through directories that are
searched. -/
structure Leads (name : String) (t : Tree) (path : List String) (content : Content) : Prop where
  file : t.find? path = .ok (.file content)
  named : ∃ last ∈ (name :: path).getLast?, Path.isFragmentName last = true
  searched : ∀ dir ∈ (name :: path).dropLast, dir ∉ metadataDirectories

theorem leads_file_iff {name : String} {held content : Content} {path : List String} :
    Leads name (.file held) path content ↔
      path = [] ∧ content = held ∧ Path.isFragmentName name = true := by
  constructor
  · intro h
    cases path with
    | nil =>
      have hfile := h.file
      simp only [Tree.find?, Except.ok.injEq, Tree.file.injEq] at hfile
      exact ⟨rfl, hfile.symm, by simpa using h.named⟩
    | cons first rest => cases h.file
  · rintro ⟨rfl, rfl, hname⟩
    exact ⟨rfl, by simpa using hname, by simp⟩

theorem leads_dir_iff {name : String} {es : List (String × Tree)} (hes : Tree.Ordered es)
    {content : Content} {path : List String} :
    Leads name (.dir es) path content ↔
      name ∉ metadataDirectories ∧
        ∃ e ∈ es, ∃ rest, path = e.1 :: rest ∧ Leads e.1 e.2 rest content := by
  constructor
  · intro h
    cases path with
    | nil => cases h.file
    | cons first rest =>
      have hfile := h.file
      rw [Tree.find?_dir_cons] at hfile
      split at hfile
      · next t hlookup =>
        obtain ⟨hname, hsearched⟩ := List.forall_mem_cons.1 h.searched
        exact ⟨hname, (first, t), mem_of_lookup hlookup, rest, rfl, hfile, h.named, hsearched⟩
      · cases hfile
  · rintro ⟨hname, e, he, rest, rfl, h⟩
    refine ⟨?_, h.named, List.forall_mem_cons.2 ⟨hname, h.searched⟩⟩
    rw [Tree.find?_dir_cons, hes.lookup_of_mem he]
    exact h.file

variable {t : Tree}

/-- What a search finds are the files that paths lead to. -/
theorem mem_fragmentsOf_iff (h : t.Regular) {names : List String} {name : String} {f : Found} :
    f ∈ fragmentsOf names name t ↔ ∃ path, f.names = names ++ path ∧ Leads name t path f.content := by
  induction h generalizing names name with
  | file held =>
    obtain ⟨fnames, content⟩ := f
    simp only [fragmentsOf, leads_file_iff]
    split <;> simp_all
  | @dir es ordered hnames entries ih =>
    simp only [fragmentsOf, leads_dir_iff ordered]
    split
    · next hname => simp_all
    · next hname =>
      rw [fragmentsOfEntries_eq_flatMap, List.mem_flatMap]
      constructor
      · rintro ⟨e, he, hf⟩
        obtain ⟨rest, hnames, hleads⟩ := (ih e he).1 hf
        exact ⟨e.1 :: rest, by simpa using hnames, by simpa using hname, e, he, rest, rfl, hleads⟩
      · rintro ⟨path, hnames, -, e, he, rest, rfl, hleads⟩
        exact ⟨e, he, (ih e he).2 ⟨rest, by simpa using hnames, hleads⟩⟩

/-- A search finds fragments in the order of their paths. -/
theorem sorted_fragmentsOf (h : t.Regular) (names : List String) (name : String) :
    (fragmentsOf names name t).Pairwise fun a b => a.names < b.names := by
  induction h generalizing names name with
  | file held =>
    rw [fragmentsOf]
    split
    · exact List.pairwise_singleton _ _
    · exact .nil
  | @dir es ordered hnames entries ih =>
    rw [fragmentsOf]
    split
    · exact .nil
    · rw [fragmentsOfEntries_eq_flatMap, List.pairwise_flatMap]
      refine ⟨fun e he => ih e he _ _, ?_⟩
      -- Paths through two entries differ first in the names of the entries.
      apply ordered.imp_of_mem
      intro d e hd he hlt a ha b hb
      obtain ⟨pathA, hpathA, -⟩ := (mem_fragmentsOf_iff (entries d hd)).1 ha
      obtain ⟨pathB, hpathB, -⟩ := (mem_fragmentsOf_iff (entries e he)).1 hb
      rw [hpathA, hpathB, List.append_assoc, List.append_assoc]
      exact List.append_left_lt (List.cons_lt_cons_iff.2 (Or.inl hlt))

/-! ## What is found -/

/-- Whether a file below a directory is a fragment: its name has something in front of the suffix of
fragments, and no directory on the way to it is one of version control. -/
structure IsFragment (t : Tree) (f : Found) : Prop where
  file : t.find? f.names = .ok (.file f.content)
  named : ∃ dirs stem, stem ≠ "" ∧ f.names = dirs ++ [stem ++ ".gocd.xml"]
  searched : ∀ dir ∈ f.names.dropLast, dir ∉ metadataDirectories

theorem IsFragment.names_ne_nil {f : Found} (h : IsFragment t f) : f.names ≠ [] := by
  obtain ⟨dirs, stem, -, hnames⟩ := h.named
  rw [hnames]
  exact List.concat_ne_nil _ _

theorem leads_root_iff {name : String} (hname : name ∉ metadataDirectories)
    {es : List (String × Tree)} {f : Found} :
    Leads name (.dir es) f.names f.content ↔ IsFragment (.dir es) f := by
  obtain ⟨path, content⟩ := f
  constructor
  · intro h
    cases path with
    | nil => cases h.file
    | cons first rest =>
      refine ⟨h.file, ?_, (List.forall_mem_cons.1 h.searched).2⟩
      obtain ⟨last, hlast, hfragment⟩ := h.named
      obtain ⟨stem, hstem, rfl⟩ := Path.isFragmentName_iff.1 hfragment
      obtain ⟨dirs, hdirs⟩ := List.getLast?_eq_some_iff.1 hlast
      cases dirs with
      | nil => cases hdirs
      | cons d dirs => exact ⟨dirs, stem, hstem, (List.cons.inj hdirs).2⟩
  · rintro ⟨hfile, ⟨dirs, stem, hstem, rfl⟩, hsearched⟩
    refine ⟨hfile, ⟨stem ++ ".gocd.xml", ?_, Path.isFragmentName_iff.2 ⟨stem, hstem, rfl⟩⟩, ?_⟩
    · rw [← List.cons_append, List.getLast?_concat]
      rfl
    · rw [← List.cons_append, List.dropLast_concat]
      rw [List.dropLast_concat] at hsearched
      exact List.forall_mem_cons.2 ⟨hname, hsearched⟩

/-- A search below a directory finds every fragment that the filter of the material leaves, once, and
nothing else, in the order of their paths. -/
theorem exists_found {files : Files} {root : String} {es : List (String × Tree)}
    (hdir : files.find? root = .ok (.dir es)) (hregular : (Tree.dir es).Regular)
    (hroot : rootName root ∉ metadataDirectories) (m : Material) :
    ∃ found, Discovery.find files root m.isIgnored = .ok found ∧
      (∀ f, f ∈ found ↔ IsFragment (.dir es) f ∧ ¬m.Excludes ("/" ++ Text.join "/" f.names)) ∧
      (found.Pairwise fun a b => a.names < b.names) ∧
      ∀ f ∈ found, Path.components (pathBelow root f) =
        Path.components root ++ f.names.map .named := by
  have hmem (f : Found) :
      f ∈ fragmentsOf [] (rootName root) (.dir es) ↔ IsFragment (.dir es) f := by
    rw [mem_fragmentsOf_iff hregular, ← leads_root_iff hroot]
    simp
  refine ⟨_, by rw [Discovery.find, hdir], ?_, (sorted_fragmentsOf hregular _ _).filter _, ?_⟩
  · intro f
    rw [List.mem_filter, hmem, Bool.not_eq_true', ← Bool.not_eq_true, m.isIgnored_iff_excludes]
    refine and_congr_right fun h => ?_
    rw [Found.relative, Path.filterForm_names h.names_ne_nil fun _ => hregular.isName h.file]
  · intro f hf
    have h := (hmem f).1 (List.mem_filter.1 hf).1
    rw [pathBelow, if_neg (by simpa using h.names_ne_nil), Found.relative,
      Path.components_join_names root h.names_ne_nil fun _ => hregular.isName h.file]

/-- A working copy with a file of version control, fragments in a directory and beside it, a file that
is all suffix, and generated fragments. -/
def workingCopy : List (String × Tree) :=
  [(".git", .dir [("kept.gocd.xml", .file .binary)]),
    ("a", .dir [(".gocd.xml", .file .binary), ("b.gocd.xml", .file .binary)]),
    ("a.gocd.xml", .file .binary),
    ("gen", .dir [("c.gocd.xml", .file .binary)])]

/-- A material whose filter has a pattern that is wrong and one for what is generated. -/
def filteredMaterial : Material :=
  { kind := .git, url := "https://example.com/site.git", filter := ["[", "gen/**"] }

theorem regular_workingCopy : (Tree.dir workingCopy).Regular := by
  have hdir {names : List String} (hordered : names.Pairwise (· < ·))
      (hnames : ∀ name ∈ names, Path.IsName name) :
      (Tree.dir (names.map fun name => (name, .file .binary))).Regular := by
    refine .dir (List.pairwise_map.2 hordered) ?_ ?_
    · exact List.forall_mem_map.2 hnames
    · exact List.forall_mem_map.2 fun _ _ => .file .binary
  unfold Path.IsName at hdir
  refine .dir ?_ ?_ ?_
  · unfold Tree.Ordered workingCopy
    decide
  · unfold workingCopy Path.IsName
    simp only [List.forall_mem_cons]
    decide
  · unfold workingCopy
    simp only [List.forall_mem_cons]
    exact ⟨@hdir [_] (by decide) (by decide), @hdir [_, _] (by decide) (by decide), .file .binary,
      @hdir [_] (by decide) (by decide), List.forall_mem_nil _⟩

theorem exists_found_workingCopy :
    let files : Files := ⟨.dir [("work", .dir workingCopy)], []⟩
    files.find? "work" = .ok (.dir workingCopy) ∧ (Tree.dir workingCopy).Regular ∧
      rootName "work" ∉ metadataDirectories ∧
      ∃ found, Discovery.find files "work" filteredMaterial.isIgnored = .ok found ∧
        found.map Found.names = [["a", "b.gocd.xml"], ["a.gocd.xml"]] ∧
        (∀ f, f ∈ found ↔ IsFragment (.dir workingCopy) f ∧
          ¬filteredMaterial.Excludes ("/" ++ Text.join "/" f.names)) ∧
        found.Pairwise fun a b => a.names < b.names := by
  intro files
  have hdir : files.find? "work" = .ok (.dir workingCopy) := rfl
  have hroot : rootName "work" ∉ metadataDirectories := by decide
  obtain ⟨found, hfound, hmem, hsorted, -⟩ :=
    exists_found hdir regular_workingCopy hroot filteredMaterial
  have hnames : ((Discovery.find files "work" filteredMaterial.isIgnored).toOption.map fun l =>
      l.map Found.names) = some [["a", "b.gocd.xml"], ["a.gocd.xml"]] := by decide +kernel
  rw [hfound] at hnames
  exact ⟨hdir, regular_workingCopy, hroot, found, hfound, Option.some.inj hnames, hmem, hsorted⟩

end Discovery

end PipelineSync
