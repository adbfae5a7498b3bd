import PipelineSync.Fragment.Collection
import PipelineSync.Proofs.Merge.Content

/-!
# The fragments of a repository together

The files of a repository stand together or none of them counts. `Collection.ofFiles_eq_ok_iff` says
when they do, and what they come to; `Collection.ofFiles_together` adds which file is to blame if
they do not. All levels at which fragments are taken together, the pipelines of a group, the groups
and the environments of a file and the files, follow one rule, `foldlM_eq_ok_iff`.
-/

namespace PipelineSync

/-! ## Groups and files -/

theorem Group.foldl_addTo_joined (gs added : List Group) :
    added.foldl (fun there g => g.addTo there) (joined gs) = joined (gs ++ added) := by
  induction added generalizing gs with
  | nil => simp
  | cons g added ih =>
    rw [List.foldl_cons, ← joined_append_singleton, ih, List.append_assoc]
    rfl

/-- What a file declares, if it can be read and holds a proper fragment. -/
def Fragment.ofFound (validator : Validator) (origin : RepositoryOrigin)
    (found : Discovery.Found) : Except Error Fragment :=
  match found.content with
  | .binary => .error (.io FileFault.notText.text)
  | .text text => parse validator origin found.relative text

/-- What the files declare that can be read and hold proper fragments, each with its path. -/
def Fragment.ofFiles (validator : Validator) (origin : RepositoryOrigin)
    (files : List Discovery.Found) : List (String × Fragment) :=
  files.filterMap fun found =>
    (ofFound validator origin found).toOption.map fun f => (found.relative, f)

namespace Collection

/-- The names that groups define, each with the file. -/
def definitions (file : String) (gs : List Group) : List (Name × String) :=
  gs.flatMap fun g => g.pipelines.map fun p => (p.name, file)

/-- The collection that fragments come to, each with its file. -/
def ofFragments (fs : List (String × Fragment)) : Collection where
  groups := Group.joined (fs.flatMap fun f => f.2.groups)
  environments := fs.flatMap fun f => f.2.environments
  definedIn := fs.flatMap fun f => definitions f.1 f.2.groups

/-- No two pipelines and no two environments of a collection have names that differ only in case. -/
structure Distinct (c : Collection) : Prop where
  pipelines : (c.definedIn.map fun d => d.1.key).Nodup
  environments : (c.environments.map fun e => e.name.key).Nodup

section Keys

variable {α κ : Type} {key : α → κ}

theorem nodup_map_front {there before later : List α}
    (h : ((there ++ (before ++ later)).map key).Nodup) : ((there ++ before).map key).Nodup := by
  rw [← List.append_assoc, List.map_append] at h
  exact h.of_append_left

theorem nodup_map_append_singleton {l : List α} {a : α} (h : (l.map key).Nodup) :
    ((l ++ [a]).map key).Nodup ↔ key a ∉ l.map key := by
  rw [List.map_append, List.map_singleton, List.nodup_append']
  simp [h]

end Keys

section Additions

variable {file : String} {c c' : Collection}

/-! ## What a file adds -/

theorem definer?_eq_none_iff {definedIn : List (Name × String)} {n : Name} :
    definer? definedIn n = none ↔ n.key ∉ definedIn.map fun d => d.1.key := by
  simp [definer?, Name.same_iff]

theorem define_eq_ok_iff {g : Group} {definedIn definedIn' : List (Name × String)} {p : Pipeline} :
    define file g definedIn p = .ok definedIn' ↔
      p.name.key ∉ definedIn.map (fun d => d.1.key) ∧
        definedIn' = definedIn ++ [(p.name, file)] := by
  rw [← definer?_eq_none_iff, define]
  cases definer? definedIn p.name with
  | some earlier => exact ⟨nofun, fun h => nomatch h.1⟩
  | none => exact ⟨fun h => ⟨rfl, (Except.ok.inj h).symm⟩, fun h => congrArg Except.ok h.2.symm⟩

theorem addGroup_eq_ok_iff {g : Group} (hc : (c.definedIn.map fun d => d.1.key).Nodup) :
    c.addGroup file g = .ok c' ↔
      ((c.definedIn ++ definitions file [g]).map fun d => d.1.key).Nodup ∧
        c' = { c with
          groups := g.addTo c.groups
          definedIn := c.definedIn ++ definitions file [g] } := by
  let build (ps : List Pipeline) := c.definedIn ++ ps.map fun p => (p.name, file)
  have hfold (definedIn : List (Name × String)) :
      g.pipelines.foldlM (define file g) (build []) = .ok definedIn ↔
        ((build g.pipelines).map fun d => d.1.key).Nodup ∧ definedIn = build g.pipelines := by
    refine foldlM_eq_ok_iff (fun ps => ((build ps).map fun d => d.1.key).Nodup) build ?_ ?_ ?_
    · intro before later h
      have happend : (before ++ later).map (fun p => (p.name, file)) =
          before.map (fun p => (p.name, file)) ++ later.map fun p => (p.name, file) :=
        List.map_append
      simp only [build, happend] at h
      exact nodup_map_front h
    · intro before p definedIn hbefore
      have happend : build (before ++ [p]) = build before ++ [(p.name, file)] := by simp [build]
      rw [define_eq_ok_iff, happend, nodup_map_append_singleton hbefore]
    · simpa [build] using hc
  have hbuild : build g.pipelines = c.definedIn ++ definitions file [g] := by
    simp [build, definitions]
  have hstart : build [] = c.definedIn := List.append_nil _
  rw [hbuild, hstart] at hfold
  rw [addGroup]
  simp only [bind_eq_ok_iff, hfold]
  constructor
  · rintro ⟨_, ⟨hnodup, rfl⟩, h⟩
    exact ⟨hnodup, (Except.ok.inj h).symm⟩
  · rintro ⟨hnodup, rfl⟩
    exact ⟨_, ⟨hnodup, rfl⟩, rfl⟩

theorem foldlM_addGroup_eq_ok_iff {gs : List Group}
    (hc : (c.definedIn.map fun d => d.1.key).Nodup) :
    gs.foldlM (addGroup file) c = .ok c' ↔
      ((c.definedIn ++ definitions file gs).map fun d => d.1.key).Nodup ∧
        c' = { c with
          groups := gs.foldl (fun there g => g.addTo there) c.groups
          definedIn := c.definedIn ++ definitions file gs } := by
  let build (gs : List Group) : Collection := { c with
    groups := gs.foldl (fun there g => g.addTo there) c.groups
    definedIn := c.definedIn ++ definitions file gs }
  have hstart : build [] = c := by simp [build, definitions]
  have hfold : gs.foldlM (addGroup file) (build []) = .ok c' ↔
      ((build gs).definedIn.map fun d => d.1.key).Nodup ∧ c' = build gs := by
    refine foldlM_eq_ok_iff (fun gs => ((build gs).definedIn.map fun d => d.1.key).Nodup) build
      ?_ ?_ (hstart ▸ hc)
    · intro before later h
      simp only [build, definitions, List.flatMap_append] at h
      exact nodup_map_front h
    · intro before g c' hbefore
      rw [addGroup_eq_ok_iff hbefore]
      simp [build, definitions]
  rwa [hstart] at hfold

theorem addEnvironment_eq_ok_iff {e : Environment} :
    c.addEnvironment file e = .ok c' ↔
      e.name.key ∉ c.environments.map (fun e => e.name.key) ∧
        c' = { c with environments := c.environments ++ [e] } := by
  have hany : (c.environments.any fun other => other.name.same e.name) = false ↔
      e.name.key ∉ c.environments.map fun e => e.name.key := by
    simp [Name.same_iff]
  rw [← hany, addEnvironment]
  cases c.environments.any fun other => other.name.same e.name with
  | true => exact ⟨nofun, fun h => nomatch h.1⟩
  | false => exact ⟨fun h => ⟨rfl, (Except.ok.inj h).symm⟩, fun h => congrArg Except.ok h.2.symm⟩

theorem foldlM_addEnvironment_eq_ok_iff {es : List Environment}
    (hc : (c.environments.map fun e => e.name.key).Nodup) :
    es.foldlM (addEnvironment file) c = .ok c' ↔
      ((c.environments ++ es).map fun e => e.name.key).Nodup ∧
        c' = { c with environments := c.environments ++ es } := by
  let build (es : List Environment) : Collection :=
    { c with environments := c.environments ++ es }
  have hstart : build [] = c := by simp [build]
  have hfold : es.foldlM (addEnvironment file) (build []) = .ok c' ↔
      ((build es).environments.map fun e => e.name.key).Nodup ∧ c' = build es := by
    refine foldlM_eq_ok_iff (fun es => ((build es).environments.map fun e => e.name.key).Nodup)
      build ?_ ?_ (hstart ▸ hc)
    · exact fun before later h => nodup_map_front h
    · intro before e c' hbefore
      have happend : build (before ++ [e]) =
          { build before with environments := (build before).environments ++ [e] } := by
        simp [build]
      rw [addEnvironment_eq_ok_iff, happend, nodup_map_append_singleton hbefore]
  rwa [hstart] at hfold

/-- A collection with what another file declares. -/
def plus (c : Collection) (file : String) (f : Fragment) : Collection where
  groups := f.groups.foldl (fun there g => g.addTo there) c.groups
  environments := c.environments ++ f.environments
  definedIn := c.definedIn ++ definitions file f.groups

theorem addFragment_eq_ok_iff {f : Fragment} (hc : c.Distinct) :
    c.addFragment file f = .ok c' ↔ (c.plus file f).Distinct ∧ c' = c.plus file f := by
  rw [addFragment]
  simp only [bind_eq_ok_iff, foldlM_addGroup_eq_ok_iff hc.pipelines]
  constructor
  · rintro ⟨grouped, ⟨hpipelines, rfl⟩, h⟩
    rw [foldlM_addEnvironment_eq_ok_iff (by exact hc.environments)] at h
    obtain ⟨henvironments, rfl⟩ := h
    exact ⟨⟨hpipelines, henvironments⟩, rfl⟩
  · rintro ⟨hdistinct, rfl⟩
    refine ⟨_, ⟨hdistinct.pipelines, rfl⟩, ?_⟩
    rw [foldlM_addEnvironment_eq_ok_iff (by exact hc.environments)]
    exact ⟨hdistinct.environments, rfl⟩

theorem ofFragments_append_singleton (fs : List (String × Fragment)) (file : String)
    (f : Fragment) : ofFragments (fs ++ [(file, f)]) = (ofFragments fs).plus file f := by
  simp [ofFragments, plus, Group.foldl_addTo_joined]

end Additions

/-! ## Files that stand together -/

theorem Distinct.of_ofFragments_append {fs gs : List (String × Fragment)}
    (h : (ofFragments (fs ++ gs)).Distinct) : (ofFragments fs).Distinct where
  pipelines := by
    have := h.pipelines
    simp only [ofFragments, List.flatMap_append, List.map_append] at this
    exact this.of_append_left
  environments := by
    have := h.environments
    simp only [ofFragments, List.flatMap_append, List.map_append] at this
    exact this.of_append_left

section Files

variable (validator : Validator) (origin : RepositoryOrigin)

/-- The groups that files declare, in the order of the files and of their documents. -/
def declaredGroups (files : List Discovery.Found) : List Group :=
  (Fragment.ofFiles validator origin files).flatMap fun f => f.2.groups

/-- The environments that files declare, in the same order. -/
def declaredEnvironments (files : List Discovery.Found) : List Environment :=
  (Fragment.ofFiles validator origin files).flatMap fun f => f.2.environments

/-- Files that stand together: all of them can be read and hold proper fragments, and no two of the
pipelines and no two of the environments that they declare have names that differ only in case. -/
structure Acceptable (files : List Discovery.Found) : Prop where
  proper : ∀ found ∈ files, ∃ f, Fragment.ofFound validator origin found = .ok f
  pipelines : ((declaredGroups validator origin files).flatMap Group.pipelines).Pairwise
    fun p q => ¬ p.name.same q.name = true
  environments : (declaredEnvironments validator origin files).Pairwise
    fun a b => ¬ a.name.same b.name = true

variable {validator : Validator} {origin : RepositoryOrigin} {files : List Discovery.Found}

theorem nodup_map_key_iff {α : Type} {name : α → Name} {l : List α} :
    (l.map fun a => (name a).key).Nodup ↔
      l.Pairwise fun a b => ¬ (name a).same (name b) = true := by
  rw [List.Nodup, List.pairwise_map]
  simp only [Ne, Name.same_iff]

theorem acceptable_iff :
    Acceptable validator origin files ↔
      (∀ found ∈ files, ∃ f, Fragment.ofFound validator origin found = .ok f) ∧
        (ofFragments (Fragment.ofFiles validator origin files)).Distinct := by
  have hpipelines : ((ofFragments (Fragment.ofFiles validator origin files)).definedIn.map
        fun d => d.1.key).Nodup ↔
      ((declaredGroups validator origin files).flatMap Group.pipelines).Pairwise
        fun p q => ¬ p.name.same q.name = true := by
    rw [← nodup_map_key_iff]
    simp [ofFragments, definitions, declaredGroups, List.flatMap_assoc, List.map_flatMap,
      Function.comp_def]
  constructor
  · rintro ⟨hproper, hp, he⟩
    exact ⟨hproper, hpipelines.2 hp, nodup_map_key_iff.2 he⟩
  · rintro ⟨hproper, hp, he⟩
    exact ⟨hproper, hpipelines.1 hp, nodup_map_key_iff.1 he⟩

theorem Acceptable.of_append {before later : List Discovery.Found}
    (h : Acceptable validator origin (before ++ later)) : Acceptable validator origin before := by
  rw [acceptable_iff] at h ⊢
  obtain ⟨hproper, hdistinct⟩ := h
  rw [Fragment.ofFiles, List.filterMap_append] at hdistinct
  exact ⟨fun found hfound => hproper found (List.mem_append_left _ hfound),
    hdistinct.of_ofFragments_append⟩

theorem addFile_eq (c : Collection) (found : Discovery.Found) :
    c.addFile validator origin found =
      (Fragment.ofFound validator origin found >>= c.addFragment found.relative) := by
  rw [addFile, Fragment.ofFound]
  cases found.content <;> rfl

theorem addFile_eq_ok_iff {before : List Discovery.Found} {found : Discovery.Found}
    {c : Collection} (hbefore : Acceptable validator origin before) :
    addFile validator origin (ofFragments (Fragment.ofFiles validator origin before)) found =
        .ok c ↔
      Acceptable validator origin (before ++ [found]) ∧
        c = ofFragments (Fragment.ofFiles validator origin (before ++ [found])) := by
  obtain ⟨hproper, hdistinct⟩ := acceptable_iff.1 hbefore
  rw [addFile_eq, acceptable_iff]
  cases hfound : Fragment.ofFound validator origin found with
  | error e =>
    constructor
    · intro h
      cases h
    · rintro ⟨⟨hall, -⟩, -⟩
      obtain ⟨f, hf⟩ := hall found (by simp)
      cases hfound.symm.trans hf
  | ok f =>
    have hfiles : Fragment.ofFiles validator origin (before ++ [found]) =
        Fragment.ofFiles validator origin before ++ [(found.relative, f)] := by
      simp [Fragment.ofFiles, hfound, Except.toOption]
    have hall : ∀ other ∈ before ++ [found],
        ∃ f, Fragment.ofFound validator origin other = .ok f := by
      intro other hother
      rcases List.mem_append.1 hother with hother | hother
      · exact hproper other hother
      · exact ⟨f, List.mem_singleton.1 hother ▸ hfound⟩
    rw [ok_bind, hfiles, ofFragments_append_singleton, addFragment_eq_ok_iff hdistinct]
    constructor
    · rintro ⟨h, hc⟩
      exact ⟨⟨hall, h⟩, hc⟩
    · rintro ⟨⟨-, h⟩, hc⟩
      exact ⟨h, hc⟩

/-- Files add up if, and only if, they stand together. -/
theorem ofFiles_eq_ok_iff {c : Collection} :
    ofFiles validator origin files = .ok c ↔
      Acceptable validator origin files ∧
        c = ofFragments (Fragment.ofFiles validator origin files) :=
  foldlM_eq_ok_iff (Acceptable validator origin)
    (fun files => ofFragments (Fragment.ofFiles validator origin files))
    (fun _ _ h => h.of_append) (fun _ _ _ h => addFile_eq_ok_iff h) ⟨by simp, .nil, .nil⟩

/-- Files that do not add up fail at the first that the ones before it do not stand together with,
whatever comes after it. -/
theorem exists_of_ofFiles_eq_error {e : Error} (h : ofFiles validator origin files = .error e) :
    ∃ before found after, files = before ++ found :: after ∧
      Acceptable validator origin before ∧ ¬ Acceptable validator origin (before ++ [found]) ∧
      ∀ later, ofFiles validator origin (before ++ found :: later) = .error e := by
  obtain ⟨before, found, after, c, hfiles, hbefore, hfound⟩ := exists_of_foldlM_eq_error h
  have hfails (later : List Discovery.Found) :
      ofFiles validator origin (before ++ found :: later) = .error e := by
    rw [ofFiles, List.foldlM_append, hbefore, ok_bind, List.foldlM_cons, hfound]
    rfl
  refine ⟨before, found, after, hfiles, (ofFiles_eq_ok_iff.1 hbefore).1, fun hgood => ?_, hfails⟩
  exact nomatch (hfails []).symm.trans (ofFiles_eq_ok_iff.2 ⟨hgood, rfl⟩)

end Files

/-- The files of a repository are taken together or not at all, and nothing of them is lost. They
are taken if all of them can be read and hold proper fragments, and if no two of the pipelines and
no two of the environments they declare have names that differ only in case. What they come to has
the names of their groups, each once and in the order in which they are first seen, and under each
the pipelines of the groups of exactly that name in the order of the files; and it has all their
environments. If they are not taken, then the fault is that of the first file that does not stand
together with those before it, as it is found when no other files follow, or any others. -/
theorem ofFiles_together (validator : Validator) (origin : RepositoryOrigin)
    (files : List Discovery.Found) :
    let gs := declaredGroups validator origin files
    let es := declaredEnvironments validator origin files
    ((∃ c, ofFiles validator origin files = .ok c) ↔
      (∀ found ∈ files, ∃ f, Fragment.ofFound validator origin found = .ok f) ∧
      (gs.flatMap Group.pipelines).Pairwise (fun p q => ¬ p.name.same q.name = true) ∧
      es.Pairwise (fun a b => ¬ a.name.same b.name = true)) ∧
    (∀ c, ofFiles validator origin files = .ok c →
      (c.groups.map Group.name).Nodup ∧
      c.groups.map Group.name = (gs.map Group.name).eraseDups ∧
      (∀ g ∈ c.groups, g.pipelines = (gs.filter (·.name = g.name)).flatMap Group.pipelines) ∧
      (c.groups.flatMap Group.pipelines).Perm (gs.flatMap Group.pipelines) ∧
      c.environments = es) ∧
    (∀ e, ofFiles validator origin files = .error e →
      ∃ before found after, files = before ++ found :: after ∧
        Acceptable validator origin before ∧
        ¬ Acceptable validator origin (before ++ [found]) ∧
        ofFiles validator origin (before ++ [found]) = .error e ∧
        ∀ later, ofFiles validator origin (before ++ found :: later) = .error e) ∧
    ∀ (tree : Files) (root : String) (isIgnored : String → Bool),
      Discovery.find tree root isIgnored = .ok files →
        Partial.parse validator tree root isIgnored origin =
          (ofFiles validator origin files).map (toPartial origin) := by
  intro gs es
  refine ⟨⟨?_, ?_⟩, ?_, ?_, ?_⟩
  · rintro ⟨c, h⟩
    obtain ⟨hproper, hpipelines, henvironments⟩ := (ofFiles_eq_ok_iff.1 h).1
    exact ⟨hproper, hpipelines, henvironments⟩
  · rintro ⟨hproper, hpipelines, henvironments⟩
    exact ⟨_, ofFiles_eq_ok_iff.2 ⟨⟨hproper, hpipelines, henvironments⟩, rfl⟩⟩
  · intro c h
    obtain ⟨-, rfl⟩ := ofFiles_eq_ok_iff.1 h
    have hnames : (Group.joined gs).map Group.name = (gs.map Group.name).eraseDups :=
      Group.map_name_joined gs
    exact ⟨hnames ▸ Group.nodup_eraseDups _, hnames, fun g => Group.pipelines_of_mem_joined,
      Group.joined_perm gs, rfl⟩
  · intro e h
    obtain ⟨before, found, after, hfiles, hgood, hbad, hfails⟩ := exists_of_ofFiles_eq_error h
    exact ⟨before, found, after, hfiles, hgood, hbad, hfails [], hfails⟩
  · intro tree root isIgnored hfind
    rw [Partial.parse, hfind, ok_bind]
    cases ofFiles validator origin files <;> rfl

/-- A file that declares one pipeline, and no more of it than its name. -/
def sampleFile (path group pipeline : String) : Discovery.Found where
  names := [path]
  content := .text ("<cruise><pipelines group=\"" ++ group ++ "\"><pipeline name=\"" ++ pipeline
    ++ "\"/></pipelines></cruise>")

/-- A validator to which all documents are fragments. -/
def lenient : Validator := fun _ _ => .ok ()

/-- The third file is to blame, although no one can read the fourth. -/
example : ofFiles lenient ⟨⟨"site"⟩, "https://config.example", "r1"⟩
    [sampleFile "a.gocd.xml" "apps" "web", sampleFile "b.gocd.xml" "Apps" "shop",
      sampleFile "c.gocd.xml" "apps" "WEB", ⟨["d.gocd.xml"], .binary⟩] =
    .error (.schemaViolation "c.gocd.xml"
      "/cruise/pipelines[@group='apps']/pipeline[@name='WEB']"
      "pipeline 'WEB' is already defined in a.gocd.xml") := by decide +kernel

end Collection

end PipelineSync
