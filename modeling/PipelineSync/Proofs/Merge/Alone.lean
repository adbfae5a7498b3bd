import PipelineSync.Proofs.Fragment.Together
import PipelineSync.Proofs.Merge.Conflicts

/-!
# One repository on its own

The fragments of a repository are taken together by rules much like those of a merge. `Together` says
what the first make sure of, and a merge leaves such a partial as it is (`Together.content`). Of the
conflicts that a merge can meet only two are left, both about what environments list:
`ofFiles_merge_alone`.
-/

namespace PipelineSync

namespace Group

theorem addTo_of_forall_ne {g : Group} {gs : List Group} (h : ∀ other ∈ gs, other.name ≠ g.name) :
    g.addTo gs = gs ++ [g] := by
  induction gs with
  | nil => rfl
  | cons other gs ih =>
    obtain ⟨hother, hgs⟩ := List.forall_mem_cons.1 h
    rw [addTo, if_neg hother, ih hgs, List.cons_append]

/-- Groups under different names have nothing to join. -/
theorem joined_eq_self {gs : List Group} (h : (gs.map name).Nodup) : joined gs = gs := by
  induction gs using List.reverseRecOn with
  | nil => rfl
  | append_singleton gs g ih =>
    rw [List.map_append, List.map_singleton, List.nodup_append'] at h
    obtain ⟨hgs, -, hnew⟩ := h
    rw [joined_append_singleton, ih hgs]
    apply addTo_of_forall_ne
    intro other hother heq
    exact hnew (List.mem_map_of_mem hother) (List.mem_singleton.2 heq)

end Group

/-- What a merge makes of environments under different names: it leaves them as they are. -/
theorem Merge.environments_of_foldlM {ds : List Declaration} {m : Merge}
    (hdistinct : (ds.flatMap Declaration.environments).Pairwise
      fun a b => ¬ a.name.same b.name = true)
    (h : ds.foldlM Declaration.add {} = .ok m) :
    m.environments = ds.flatMap Declaration.environments := by
  refine foldlM_induction_nil (fun ds (m : Merge) =>
    (ds.flatMap Declaration.environments).Pairwise (fun a b => ¬ a.name.same b.name = true) →
      m.environments = ds.flatMap Declaration.environments) ?_ (fun _ => rfl) h hdistinct
  intro before d m m' hm hadd hall
  rw [List.flatMap_append, List.flatMap_singleton] at hall ⊢
  obtain ⟨hbefore, -, hapart⟩ := List.pairwise_append.1 hall
  cases d with
  | group source g =>
    obtain ⟨definedIn, -, rfl⟩ := addGroup_eq_ok hadd
    rw [Declaration.environments, List.append_nil]
    exact hm hbefore
  | environment e =>
    obtain ⟨environmentOf, environments, -, hplace, rfl⟩ := addEnvironment_eq_ok hadd
    rw [hm hbefore] at hplace
    rcases placeEnvironment_ok hplace with ⟨hplaced, -⟩ | ⟨front, there, back, -, hsplit, hsame, -⟩
    · exact hplaced
    · have hthere : there ∈ before.flatMap Declaration.environments := by simp [hsplit]
      exact absurd hsame (hapart there hthere e (List.mem_singleton_self e))

namespace Partial

/-- What the fragments of a repository make sure of together: groups, pipelines and environments have
different names, for pipelines and environments without regard to case. -/
structure Together (p : Partial) : Prop where
  groups : (p.groups.map Group.name).Nodup
  pipelines : p.pipelines.Pairwise fun q r => ¬ q.name.same r.name = true
  environments : p.environments.Pairwise fun a b => ¬ a.name.same b.name = true

theorem together_of_ofFiles {validator : Validator} {origin : RepositoryOrigin}
    {files : List Discovery.Found} {c : Collection}
    (h : Collection.ofFiles validator origin files = .ok c) : (c.toPartial origin).Together := by
  obtain ⟨hgood, rfl⟩ := Collection.ofFiles_eq_ok_iff.1 h
  constructor
  · have hnames := Group.map_name_joined (Collection.declaredGroups validator origin files)
    exact hnames ▸ Group.nodup_eraseDups _
  · have hperm := Group.joined_perm (Collection.declaredGroups validator origin files)
    exact (hperm.pairwise_iff fun hqr hrq => hqr (Name.same_symm hrq)).2 hgood.pipelines
  · exact hgood.environments

/-- The map with this partial only. -/
def alone (f : Fingerprint) (p : Partial) : KeyMap Fingerprint Partial :=
  (∅ : KeyMap Fingerprint Partial).insert f p

variable {f : Fingerprint} {p : Partial}

theorem declaredGroups_alone : declaredGroups {} (alone f p) = p.groups :=
  List.append_nil p.groups

theorem declaredEnvironments_alone : declaredEnvironments {} (alone f p) = p.environments :=
  List.append_nil p.environments

theorem declaredDefinitions_alone :
    (declaredDefinitions {} (alone f p)).map Prod.fst = p.pipelines.map Pipeline.name := by
  rw [declaredDefinitions, definitions_map_fst, declarations_groups, declaredGroups_alone]
  rfl

theorem Together.definitions (h : p.Together) :
    (declaredDefinitions {} (alone f p)).Pairwise fun d e => ¬ d.1.same e.1 = true := by
  have hnames : (p.pipelines.map Pipeline.name).Pairwise fun m n => ¬ m.same n = true :=
    List.pairwise_map.2 h.pipelines
  rw [← declaredDefinitions_alone (f := f)] at hnames
  exact List.pairwise_map.1 hnames

/-- A pipeline is defined in the sources if it is one of the partial. -/
theorem exists_definition_iff {n : Name} :
    (∃ d ∈ declaredDefinitions {} (alone f p), d.1.same n = true) ↔
      ∃ q ∈ p.pipelines, q.name.same n = true := by
  have hmem (k : Name) : (∃ d ∈ declaredDefinitions {} (alone f p), d.1 = k) ↔
      ∃ q ∈ p.pipelines, q.name = k := by
    rw [← List.mem_map, declaredDefinitions_alone, List.mem_map]
  constructor
  · rintro ⟨d, hd, hdn⟩
    obtain ⟨q, hq, hqd⟩ := (hmem d.1).1 ⟨d, hd, rfl⟩
    exact ⟨q, hq, hqd ▸ hdn⟩
  · rintro ⟨q, hq, hqn⟩
    obtain ⟨d, hd, hdq⟩ := (hmem q.name).2 ⟨q, hq, rfl⟩
    exact ⟨d, hd, hdq ▸ hqn⟩

/-- What is left to ask of a partial: environments list pipelines that it defines, and no pipeline
is listed by two of them. -/
structure ListsOwn (p : Partial) : Prop where
  defined : ∀ e ∈ p.environments, ∀ n ∈ e.pipelines, ∃ q ∈ p.pipelines, q.name.same n = true
  apart : p.environments.Pairwise fun a b => ∀ n : Name, n.isIn a.pipelines = true →
    ¬ n.isIn b.pipelines = true

theorem Together.compatible_iff (h : p.Together) :
    Compatible (declaredDefinitions {} (alone f p)) (declaredEnvironments {} (alone f p)) ↔
      p.ListsOwn := by
  rw [declaredEnvironments_alone]
  constructor
  · intro hcompatible
    refine ⟨fun e he n hn => exists_definition_iff.1 (hcompatible.defined e he n hn), ?_⟩
    refine h.environments.imp_of_mem fun ha hb hab n hna hnb => ?_
    exact hab (hcompatible.separate _ ha _ hb n hna hnb)
  · intro hown
    refine ⟨h.definitions, fun a ha b hb n hna hnb => ?_, ?_, fun e he n hn => ?_⟩
    · by_contra hdiffer
      have hsymm : Std.Symm fun a b : Environment => ∀ n : Name, n.isIn a.pipelines = true →
          ¬ n.isIn b.pipelines = true := ⟨fun a b hab n hnb hna => hab n hna hnb⟩
      have hne : a ≠ b := fun hab => hdiffer (hab ▸ Name.same_self a.name)
      exact hown.apart.forall ha hb hne n hna hnb
    · exact h.environments.imp fun hab key first second hcontradicts => hab hcontradicts.name
    · exact exists_definition_iff.2 (hown.defined e he n hn)

/-- A merge of such a partial leaves it as it is. -/
theorem Together.content (h : p.Together) {c : Configuration}
    (hc : merge {} (alone f p) = .ok c) :
    c.groups = p.groups ∧ c.environments = p.environments := by
  obtain ⟨m, hfold, -, rfl⟩ := merge_eq_ok_iff.1 hc
  have hgroups := (Merge.holds_of_foldlM hfold).groups
  rw [declarations_groups, declaredGroups_alone, Group.joined_eq_self h.groups] at hgroups
  have henvironments : (declarations {} (alone f p)).flatMap Declaration.environments =
      p.environments := (declarations_environments _ _).trans declaredEnvironments_alone
  refine ⟨hgroups, ?_⟩
  rw [← henvironments]
  exact Merge.environments_of_foldlM (henvironments ▸ h.environments) hfold

/-- The conflicts that such a partial can have are about what its environments list. -/
theorem Together.conflict (h : p.Together) {conflict : Conflict}
    (hc : merge {} (alone f p) = .error conflict) :
    (∃ n first second, conflict = .inTwoEnvironments n first second) ∨
      ∃ e n, conflict = .unknownPipeline e n := by
  have hmet := merge_isMetIn hc
  cases conflict with
  | definedTwice n first second =>
    obtain ⟨k, hsub, hsame⟩ := hmet
    have hdiffer := List.pairwise_iff_forall_sublist.1 h.definitions hsub
    exact absurd hsame hdiffer
  | inTwoEnvironments n first second => exact Or.inl ⟨n, first, second, rfl⟩
  | differentValues e key first second =>
    obtain ⟨a, b, hsub, -, hcontradicts⟩ := hmet
    rw [declaredEnvironments_alone] at hsub
    exact absurd hcontradicts.name (List.pairwise_iff_forall_sublist.1 h.environments hsub)
  | unknownPipeline e n => exact Or.inr ⟨e, n, rfl⟩

end Partial

namespace Collection

/-- Fragments that are taken together and then merged on their own, under whatever key: the merge
accepts them if, and only if, every pipeline that an environment lists is defined in them, and no
two environments list the same pipeline. It leaves the groups and the environments as they are. If
it fails, then it is for what environments list; a pipeline that is defined twice or a variable with
two values is never the reason. -/
theorem ofFiles_merge_alone {validator : Validator} {origin : RepositoryOrigin}
    {files : List Discovery.Found} {c : Collection} (h : ofFiles validator origin files = .ok c)
    (f : Fingerprint) :
    let p := c.toPartial origin
    let merged := merge {} ((∅ : KeyMap Fingerprint Partial).insert f p)
    ((∃ d, merged = .ok d) ↔
      (∀ e ∈ p.environments, ∀ n ∈ e.pipelines, ∃ q ∈ p.pipelines, q.name.same n = true) ∧
      p.environments.Pairwise fun a b => ∀ n : Name, n.isIn a.pipelines = true →
        ¬ n.isIn b.pipelines = true) ∧
    (∀ d, merged = .ok d → d.groups = p.groups ∧ d.environments = p.environments) ∧
    (∀ conflict, merged = .error conflict →
      (∀ n first second, conflict ≠ .definedTwice n first second) ∧
      ∀ e key first second, conflict ≠ .differentValues e key first second) ∧
    ∀ (tree : Files) (root : String) (isIgnored : String → Bool),
      Discovery.find tree root isIgnored = .ok files →
        Partial.parse validator tree root isIgnored origin = .ok p := by
  intro p merged
  have htogether : p.Together := Partial.together_of_ofFiles h
  refine ⟨?_, fun d hd => htogether.content hd, fun conflict hconflict => ?_, ?_⟩
  · rw [merge_ok_iff]
    refine htogether.compatible_iff.trans ⟨?_, ?_⟩
    · exact fun hown => ⟨hown.defined, hown.apart⟩
    · exact fun ⟨hdefined, hapart⟩ => ⟨hdefined, hapart⟩
  · rcases htogether.conflict hconflict with ⟨_, _, _, rfl⟩ | ⟨_, _, rfl⟩
    · exact ⟨nofun, nofun⟩
    · exact ⟨nofun, nofun⟩
  · intro tree root isIgnored hfind
    rw [Partial.parse, hfind, ok_bind, h]
    rfl

/-- A file with an environment that lists a pipeline. -/
def environmentFile (path environment pipeline : String) : Discovery.Found where
  names := [path]
  content := .text ("<cruise><environments><environment name=\"" ++ environment
    ++ "\"><pipelines><pipeline name=\"" ++ pipeline
    ++ "\"/></pipelines></environment></environments></cruise>")

/-- Two files, of which the second spells the pipeline of the first in another way. -/
def spellings : List Discovery.Found :=
  [sampleFile "apps.gocd.xml" "apps" "Web", environmentFile "uat.gocd.xml" "uat" "WEB"]

theorem ofFiles_merge_alone_spellings :
    let origin : RepositoryOrigin := ⟨⟨"web"⟩, "https://config.example", "r1"⟩
    ∃ c d, ofFiles lenient origin spellings = .ok c ∧
      merge {} ((∅ : KeyMap Fingerprint Partial).insert ⟨"web"⟩ (c.toPartial origin)) = .ok d ∧
      d.groups = c.groups ∧ d.environments = [{ name := ⟨"uat"⟩, pipelines := [⟨"WEB"⟩] }] := by
  intro origin
  let web : Pipeline := { name := ⟨"Web"⟩, origin := .repository origin }
  have hfiles : ofFiles lenient origin spellings = .ok {
      groups := [⟨"apps", [web]⟩]
      environments := [{ name := ⟨"uat"⟩, pipelines := [⟨"WEB"⟩] }]
      definedIn := [(⟨"Web"⟩, "apps.gocd.xml")] } := by decide +kernel
  obtain ⟨haccepts, hcontent, -⟩ := ofFiles_merge_alone hfiles ⟨"web"⟩
  have hlisted : web.name.same ⟨"WEB"⟩ = true := by decide
  obtain ⟨d, hd⟩ := haccepts.2
    ⟨by simpa [toPartial, Partial.pipelines] using hlisted, List.pairwise_singleton _ _⟩
  exact ⟨_, d, hfiles, hd, (hcontent d hd).1, (hcontent d hd).2⟩

end Collection

end PipelineSync
