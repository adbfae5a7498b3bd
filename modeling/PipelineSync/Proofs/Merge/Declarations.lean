import PipelineSync.Proofs.Merge.Sources

/-!
# A merge as a fold over declarations

Sources declare groups and environments, and a merge adds one declaration after another
(`merge_eq`). So what every addition keeps holds of the whole, and a merge that fails does so at one
declaration, with those before it added, or at the end (`merge_eq_error`).
-/

namespace PipelineSync

/-- A group, with the source that declares it, or an environment. -/
inductive Declaration where
  | group (source : String) (g : Group)
  | environment (e : Environment)

namespace Declaration

/-- Adds what is declared. -/
def add (m : Merge) : Declaration → Except Conflict Merge
  | group source g => m.addGroup source g
  | environment e => m.addEnvironment e

def groups : Declaration → List Group
  | group _ g => [g]
  | environment _ => []

def environments : Declaration → List Environment
  | group _ _ => []
  | environment e => [e]

/-- The pipelines that are defined, each with the source. -/
def definitions : Declaration → List (Name × String)
  | group source g => g.pipelines.map fun p => (p.name, source)
  | environment _ => []

/-- What a source declares: its groups, then its environments. -/
def ofSource (source : String) (gs : List Group) (es : List Environment) : List Declaration :=
  gs.map (group source) ++ es.map environment

theorem groups_ofSource (source : String) (gs : List Group) (es : List Environment) :
    (ofSource source gs es).flatMap groups = gs := by
  simp [ofSource, List.flatMap_append, List.flatMap_map, groups, List.flatMap_eq_nil_iff]

theorem environments_ofSource (source : String) (gs : List Group) (es : List Environment) :
    (ofSource source gs es).flatMap environments = es := by
  simp [ofSource, List.flatMap_append, List.flatMap_map, environments, List.flatMap_eq_nil_iff]

theorem foldlM_ofSource (source : String) (gs : List Group) (es : List Environment) (m : Merge) :
    (ofSource source gs es).foldlM add m = m.addSource source gs es := by
  rw [ofSource, List.foldlM_append, List.foldlM_map, Merge.addSource]
  simp only [List.foldlM_map]
  rfl

end Declaration

/-- All declarations in the order in which they are merged. -/
def declarations (localConfig : LocalConfiguration) (partials : KeyMap Fingerprint Partial) :
    List Declaration :=
  Declaration.ofSource Merge.localSource localConfig.groups localConfig.environments ++
    partials.values.flatMap fun p =>
      Declaration.ofSource (Merge.partialSource p) p.groups p.environments

section Declared

variable (localConfig : LocalConfiguration) (partials : KeyMap Fingerprint Partial)

theorem declarations_groups :
    (declarations localConfig partials).flatMap Declaration.groups =
      declaredGroups localConfig partials := by
  rw [declarations, List.flatMap_append, Declaration.groups_ofSource, List.flatMap_assoc]
  simp only [Declaration.groups_ofSource]
  rfl

theorem declarations_environments :
    (declarations localConfig partials).flatMap Declaration.environments =
      declaredEnvironments localConfig partials := by
  rw [declarations, List.flatMap_append, Declaration.environments_ofSource, List.flatMap_assoc]
  simp only [Declaration.environments_ofSource]
  rfl

theorem merge_eq :
    merge localConfig partials = (do
      let m ← (declarations localConfig partials).foldlM Declaration.add {}
      m.checkReferences
      return { groups := m.groups, environments := m.environments, partials }) := by
  rw [declarations, List.foldlM_append, Declaration.foldlM_ofSource, merge, bind_assoc]
  simp only [foldlM_flatMap, Declaration.foldlM_ofSource]

variable {localConfig : LocalConfiguration} {partials : KeyMap Fingerprint Partial}

theorem merge_eq_ok_iff {c : Configuration} :
    merge localConfig partials = .ok c ↔
      ∃ m, (declarations localConfig partials).foldlM Declaration.add {} = .ok m ∧
        m.checkReferences = .ok () ∧
        c = { groups := m.groups, environments := m.environments, partials } := by
  rw [merge_eq]
  simp only [bind_eq_ok_iff]
  constructor
  · rintro ⟨m, hfold, u, hcheck, hc⟩
    exact ⟨m, hfold, hcheck, (Except.ok.inj hc).symm⟩
  · rintro ⟨m, hfold, hcheck, rfl⟩
    exact ⟨m, hfold, (), hcheck, rfl⟩

/-- A merge fails at a declaration, or because of a reference. -/
theorem merge_eq_error {conflict : Conflict} (h : merge localConfig partials = .error conflict) :
    (∃ before d after m, declarations localConfig partials = before ++ d :: after ∧
      before.foldlM Declaration.add {} = .ok m ∧ d.add m = .error conflict) ∨
    ∃ m, (declarations localConfig partials).foldlM Declaration.add {} = .ok m ∧
      m.checkReferences = .error conflict := by
  rw [merge_eq] at h
  rcases bind_eq_error h with hfold | ⟨m, hfold, h⟩
  · exact Or.inl (exists_of_foldlM_eq_error hfold)
  · rcases bind_eq_error h with hcheck | ⟨_, -, h⟩
    · exact Or.inr ⟨m, hfold, hcheck⟩
    · cases h

end Declared

/-! ## What the additions keep -/

namespace Merge

variable {m m' : Merge} {ds : List Declaration} {d : Declaration}

/-- A merge has noted all definitions and all listings of declarations, the latest first. -/
structure Notes (m : Merge) (ds : List Declaration) : Prop where
  definedIn : m.definedIn = (ds.flatMap Declaration.definitions).reverse
  environmentOf : m.environmentOf = (listings (ds.flatMap Declaration.environments)).reverse

theorem foldlM_define_eq {source : String} {definedIn definedIn' : List (Name × String)}
    {ps : List Pipeline} (hok : ps.foldlM (define source) definedIn = .ok definedIn') :
    definedIn' = (ps.map fun p => (p.name, source)).reverse ++ definedIn := by
  refine foldlM_cons_eq (g := fun p : Pipeline => (p.name, source)) ?_ hok
  intro d p d' hdefine
  exact (define_eq_ok_iff.1 hdefine).2.symm

theorem foldlM_assign_eq {environment : Name} {entries entries' : List (Name × Name)}
    {ns : List Name} (hok : ns.foldlM (assign environment) entries = .ok entries') :
    entries' = (ns.map fun n => (n, environment)).reverse ++ entries := by
  refine foldlM_cons_eq (g := fun n : Name => (n, environment)) ?_ hok
  intro d n d' hassign
  exact (assign_eq_ok_iff.1 hassign).2.symm

theorem Notes.add (h : m.Notes ds) (hok : d.add m = .ok m') : m'.Notes (ds ++ [d]) := by
  cases d with
  | group source g =>
    obtain ⟨definedIn, hd, rfl⟩ := addGroup_eq_ok hok
    have hdefinedIn := foldlM_define_eq hd
    constructor
    · simp [hdefinedIn, h.definedIn, Declaration.definitions]
    · simp [h.environmentOf, Declaration.environments]
  | environment e =>
    obtain ⟨environmentOf, environments, ha, -, rfl⟩ := addEnvironment_eq_ok hok
    have henvironmentOf := foldlM_assign_eq ha
    constructor
    · simp [h.definedIn, Declaration.definitions]
    · simp [henvironmentOf, h.environmentOf, Declaration.environments, listings]

theorem Holds.add
    (h : m.Holds (ds.flatMap Declaration.groups) (ds.flatMap Declaration.environments))
    (hok : d.add m = .ok m') :
    m'.Holds ((ds ++ [d]).flatMap Declaration.groups)
      ((ds ++ [d]).flatMap Declaration.environments) := by
  rw [List.flatMap_append, List.flatMap_append, List.flatMap_singleton, List.flatMap_singleton]
  cases d with
  | group source g =>
    rw [Declaration.environments, List.append_nil]
    exact addGroup_holds h hok
  | environment e =>
    rw [Declaration.groups, List.append_nil]
    exact addEnvironment_holds h hok

/-- What holds of a merge once declarations have been added. -/
theorem notes_of_foldlM (h : ds.foldlM Declaration.add {} = .ok m) : m.Notes ds :=
  foldlM_induction_nil (fun ds m => m.Notes ds) (fun _ _ _ _ => Notes.add) ⟨rfl, rfl⟩ h

theorem holds_of_foldlM (h : ds.foldlM Declaration.add {} = .ok m) :
    m.Holds (ds.flatMap Declaration.groups) (ds.flatMap Declaration.environments) :=
  foldlM_induction_nil
    (fun ds m => m.Holds (ds.flatMap Declaration.groups) (ds.flatMap Declaration.environments))
    (fun _ _ _ _ => Holds.add) holds_empty h

end Merge

theorem merge_holds {localConfig : LocalConfiguration} {partials : KeyMap Fingerprint Partial}
    {c : Configuration} (h : merge localConfig partials = .ok c) :
    ∃ m : Merge,
      m.Holds (declaredGroups localConfig partials) (declaredEnvironments localConfig partials) ∧
      m.checkReferences = .ok () ∧
      c = { groups := m.groups, environments := m.environments, partials } := by
  obtain ⟨m, hfold, hcheck, rfl⟩ := merge_eq_ok_iff.1 h
  have hholds := Merge.holds_of_foldlM hfold
  rw [declarations_groups, declarations_environments] at hholds
  exact ⟨m, hholds, hcheck, rfl⟩

end PipelineSync
