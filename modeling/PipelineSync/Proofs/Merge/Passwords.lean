import PipelineSync.Proofs.Merge.Sources
import PipelineSync.Record.Basic

/-!
# Merging without passwords

What is saved of a configuration leaves the passwords of materials out. A merge asks for names only,
so it comes to the same with passwords and without: `merge_withoutPasswords`.
-/

namespace PipelineSync

/-- A material without its password. -/
def Material.withoutPassword (m : Material) : Material :=
  { m with password := none }

/-- A pipeline without the passwords of its materials. -/
def Pipeline.withoutPasswords (p : Pipeline) : Pipeline :=
  { p with materials := p.materials.map Material.withoutPassword }

/-- A group without the passwords in its pipelines. -/
def Group.withoutPasswords (g : Group) : Group :=
  { g with pipelines := g.pipelines.map Pipeline.withoutPasswords }

/-- A partial without the passwords in its groups. -/
def Partial.withoutPasswords (p : Partial) : Partial :=
  { p with groups := p.groups.map Group.withoutPasswords }

/-- A local configuration without the passwords in its groups. -/
def LocalConfiguration.withoutPasswords (c : LocalConfiguration) : LocalConfiguration :=
  { c with groups := c.groups.map Group.withoutPasswords }

/-- A configuration without the passwords in its groups and partials. -/
def Configuration.withoutPasswords (c : Configuration) : Configuration :=
  { c with
    groups := c.groups.map Group.withoutPasswords
    partials := c.partials.map fun _ => Partial.withoutPasswords }

/-- A record without the passwords in what it keeps. -/
def UpdateRecord.withoutPasswords (r : UpdateRecord) : UpdateRecord :=
  { r with lastMerged := r.lastMerged.map Partial.withoutPasswords }

theorem Pipeline.withoutPasswords_twice (p : Pipeline) :
    p.withoutPasswords.withoutPasswords = p.withoutPasswords := by
  simp [withoutPasswords, Material.withoutPassword]

theorem Group.withoutPasswords_twice (g : Group) :
    g.withoutPasswords.withoutPasswords = g.withoutPasswords := by
  simp [withoutPasswords, Pipeline.withoutPasswords_twice]

theorem Partial.withoutPasswords_twice (p : Partial) :
    p.withoutPasswords.withoutPasswords = p.withoutPasswords := by
  simp [withoutPasswords, Group.withoutPasswords_twice]

namespace Merge

/-- A merge without the passwords in its groups. -/
def withoutPasswords (m : Merge) : Merge :=
  { m with groups := m.groups.map Group.withoutPasswords }

theorem addTo_withoutPasswords (g : Group) (gs : List Group) :
    g.withoutPasswords.addTo (gs.map Group.withoutPasswords) =
      (g.addTo gs).map Group.withoutPasswords := by
  induction gs with
  | nil => rfl
  | cons h gs ih =>
    rw [List.map_cons, Group.addTo, Group.addTo, ih]
    have hname : h.withoutPasswords.name = g.withoutPasswords.name ↔ h.name = g.name := Iff.rfl
    by_cases hg : h.name = g.name
    · rw [if_pos (hname.2 hg), if_pos hg, List.map_cons]
      simp [Group.withoutPasswords]
    · rw [if_neg (mt hname.1 hg), if_neg hg, List.map_cons]

theorem addGroup_withoutPasswords (source : String) (m : Merge) (g : Group) :
    m.withoutPasswords.addGroup source g.withoutPasswords =
      (m.addGroup source g).map withoutPasswords := by
  have hdefine : g.withoutPasswords.pipelines.foldlM (define source) m.definedIn =
      g.pipelines.foldlM (define source) m.definedIn := List.foldlM_map
  rw [addGroup, addGroup, withoutPasswords, hdefine, addTo_withoutPasswords]
  cases g.pipelines.foldlM (define source) m.definedIn <;> rfl

theorem addEnvironment_withoutPasswords (m : Merge) (e : Environment) :
    m.withoutPasswords.addEnvironment e = (m.addEnvironment e).map withoutPasswords := by
  rw [addEnvironment, addEnvironment, withoutPasswords]
  cases e.pipelines.foldlM (assign e.name) m.environmentOf with
  | error c => rfl
  | ok environmentOf =>
    rw [ok_bind, ok_bind]
    cases placeEnvironment e m.environments <;> rfl

theorem addSource_withoutPasswords (source : String) (m : Merge) (gs : List Group)
    (es : List Environment) :
    m.withoutPasswords.addSource source (gs.map Group.withoutPasswords) es =
      (m.addSource source gs es).map withoutPasswords := by
  rw [addSource, addSource, foldlM_map_hom (addGroup_withoutPasswords source)]
  cases gs.foldlM (addGroup source) m with
  | error c => rfl
  | ok m' =>
    have := foldlM_map_hom (ψ := id) addEnvironment_withoutPasswords es m'
    rw [List.map_id] at this
    exact this

end Merge

theorem merge_withoutPasswords (localConfig : LocalConfiguration)
    (partials : KeyMap Fingerprint Partial) :
    merge localConfig.withoutPasswords (partials.map fun _ => Partial.withoutPasswords) =
      (merge localConfig partials).map Configuration.withoutPasswords := by
  have hlocal : Merge.addSource {} Merge.localSource localConfig.withoutPasswords.groups
        localConfig.withoutPasswords.environments =
      (Merge.addSource {} Merge.localSource localConfig.groups localConfig.environments).map
        Merge.withoutPasswords :=
    Merge.addSource_withoutPasswords _ {} _ _
  let add (m : Merge) (p : Partial) : Except Conflict Merge :=
    m.addSource (Merge.partialSource p) p.groups p.environments
  have hfold (m : Merge) :
      (partials.values.map Partial.withoutPasswords).foldlM add m.withoutPasswords =
        (partials.values.foldlM add m).map Merge.withoutPasswords :=
    foldlM_map_hom (fun m p => Merge.addSource_withoutPasswords (Merge.partialSource p) m _ _) _ _
  rw [merge, merge, KeyMap.values_map, hlocal]
  cases Merge.addSource {} Merge.localSource localConfig.groups localConfig.environments with
  | error c => rfl
  | ok m =>
    rw [ok_bind]
    change (List.foldlM add m.withoutPasswords _ >>= _) = _
    rw [hfold]
    change _ = Except.map Configuration.withoutPasswords (partials.values.foldlM add m >>= _)
    cases partials.values.foldlM add m with
    | error c => rfl
    | ok m =>
      rw [ok_bind]
      change m.checkReferences >>= _ = _
      cases m.checkReferences <;> rfl

/-- Partials that are equal but for passwords merge into configurations that are. -/
theorem exists_merge_of_eq_withoutPasswords {localConfig : LocalConfiguration}
    {ps qs : KeyMap Fingerprint Partial} {c : Configuration}
    (h : (ps.map fun _ => Partial.withoutPasswords) = qs.map fun _ => Partial.withoutPasswords)
    (hc : merge localConfig qs = .ok c) :
    ∃ c', merge localConfig ps = .ok c' ∧ c'.withoutPasswords = c.withoutPasswords := by
  have hmerge : (merge localConfig ps).map Configuration.withoutPasswords =
      (merge localConfig qs).map Configuration.withoutPasswords := by
    rw [← merge_withoutPasswords, h, merge_withoutPasswords]
  rw [hc] at hmerge
  cases hc' : merge localConfig ps with
  | error conflict => rw [hc'] at hmerge; cases hmerge
  | ok c' =>
    rw [hc'] at hmerge
    exact ⟨c', rfl, Except.ok.inj hmerge⟩

end PipelineSync
