import Mathlib.Data.List.Nodup
import Mathlib.Data.List.Pairwise
import PipelineSync.Proofs.Merge.Declarations

/-!
# What an accepted merge contains

A merge that is accepted loses nothing, makes nothing up, and names nothing twice. The lemmas read
this off `Merge.Holds`, one part at a time, and `merge_content` puts them together.
-/

namespace PipelineSync

namespace Group

theorem map_name_joined (gs : List Group) : (joined gs).map name = (gs.map name).eraseDups := by
  rw [joined, List.map_map]
  exact List.map_id _

theorem pipelines_of_mem_joined {gs : List Group} {g : Group} (h : g ∈ joined gs) :
    g.pipelines = (gs.filter (·.name = g.name)).flatMap pipelines := by
  obtain ⟨n, -, rfl⟩ := List.mem_map.1 h
  rfl

end Group

namespace Merge

variable {m : Merge} {gs : List Group} {es : List Environment}

theorem Holds.pipelines_perm (h : m.Holds gs es) :
    (m.groups.flatMap Group.pipelines).Perm (gs.flatMap Group.pipelines) :=
  h.groups ▸ Group.joined_perm gs

theorem Holds.pipelines_distinct (h : m.Holds gs es) :
    (m.groups.flatMap Group.pipelines).Pairwise fun p q => ¬ p.name.same q.name = true :=
  (h.pipelines_perm.pairwise_iff fun hpq hqp => hpq (Name.same_symm hqp)).2
    h.defines.distinct

theorem Collects.distinct {there added : List Environment} (h : Collects there added) :
    there.Pairwise fun a b => ¬ a.name.same b.name = true := by
  have hnames : (there.map Environment.name).Pairwise fun m n => m.key ≠ n.key := by
    rw [h.names]
    exact pairwise_eraseDupsBy Name.key _
  exact (List.pairwise_map.1 hnames).imp fun hkey hsame => hkey (Name.same_iff.1 hsame)

/-- An environment lists what the environments of its name list among them. -/
theorem Collects.isIn_pipelines_iff {there added : List Environment} (h : Collects there added)
    {t : Environment} (ht : t ∈ there) (n : Name) :
    n.isIn t.pipelines = true ↔
      ∃ e ∈ added, e.name.same t.name = true ∧ n.isIn e.pipelines = true := by
  constructor
  · intro hn
    obtain ⟨k, hk, hnk⟩ := Name.isIn_iff.1 hn
    obtain ⟨e, he, het, hmem⟩ := h.listed t ht k hk
    exact ⟨e, he, het, Name.isIn_iff.2 ⟨k, hmem, hnk⟩⟩
  · rintro ⟨e, he, het, hn⟩
    obtain ⟨k, hk, hnk⟩ := Name.isIn_iff.1 hn
    obtain ⟨u, hu, hue, hkept⟩ := h.kept e he
    -- the environment that took `e` in is the only one of that name
    have htu : t = u := by
      by_contra hne
      have hsymm : Std.Symm fun a b : Environment => ¬ a.name.same b.name = true :=
        ⟨fun a b hab hba => hab (Name.same_symm hba)⟩
      exact h.distinct.forall ht hu hne
        (Name.same_trans (Name.same_symm het) (Name.same_symm hue))
    obtain ⟨l, hl, hkl⟩ := Name.isIn_iff.1 (hkept k hk)
    exact Name.isIn_iff.2 ⟨l, htu ▸ hl, Name.same_trans hnk hkl⟩

theorem Holds.same_of_isIn (h : m.Holds gs es) {a b : Environment} (ha : a ∈ m.environments)
    (hb : b ∈ m.environments) {n : Name} (hna : n.isIn a.pipelines = true)
    (hnb : n.isIn b.pipelines = true) : a.name.same b.name = true := by
  obtain ⟨d, hd, hda, hnd⟩ := (h.collects.isIn_pipelines_iff ha n).1 hna
  obtain ⟨e, he, heb, hne⟩ := (h.collects.isIn_pipelines_iff hb n).1 hnb
  have hde : d.name.same e.name = true := h.assigns.same hd he hnd hne
  exact Name.same_trans (Name.same_symm hda) (Name.same_trans hde heb)

theorem Holds.defined_of_checkReferences (h : m.Holds gs es) (hr : m.checkReferences = .ok ())
    {e : Environment} (he : e ∈ m.environments) {n : Name} (hn : n ∈ e.pipelines) :
    ∃ p ∈ m.groups.flatMap Group.pipelines, p.name.same n = true := by
  have hfind := checkReferences_eq_ok_iff.1 hr e he n hn
  rw [Ne, h.defines.find?_eq_none_iff] at hfind
  push Not at hfind
  obtain ⟨p, hp, hpn⟩ := hfind
  exact ⟨p, h.pipelines_perm.mem_iff.2 hp, hpn⟩

end Merge

/-- What an accepted merge contains, against the groups `gs` and the environments `es` of the local
configuration and then of the partials, in the order of their fingerprints. The groups have the
names of the sources, each once and in the order in which they are first seen, and each holds the
pipelines of the groups of its name in the order of the sources; so every pipeline is there once,
as it was declared, and no two have names that differ only in case. The environments have the names
of the sources likewise, but without regard to case; each lists what the environments of its name
list, no pipeline is in two of them, and all that they list is defined. -/
theorem merge_content {localConfig : LocalConfiguration} {partials : KeyMap Fingerprint Partial}
    {c : Configuration} (h : merge localConfig partials = .ok c) :
    let gs := declaredGroups localConfig partials
    let es := declaredEnvironments localConfig partials
    ((c.groups.map Group.name).Nodup ∧
      c.groups.map Group.name = (gs.map Group.name).eraseDups ∧
      (∀ g ∈ c.groups, g.pipelines = (gs.filter (·.name = g.name)).flatMap Group.pipelines) ∧
      c.pipelines.Perm (gs.flatMap Group.pipelines) ∧
      ∀ p ∈ gs.flatMap Group.pipelines, c.pipelines.count p = 1) ∧
    c.pipelines.Pairwise (fun p q => ¬ p.name.same q.name = true) ∧
    (c.environments.Pairwise (fun a b => ¬ a.name.same b.name = true) ∧
      c.environments.map Environment.name = (es.map Environment.name).eraseDupsBy Name.same ∧
      (∀ a ∈ c.environments, ∀ n ∈ a.pipelines,
        ∃ e ∈ es, e.name.same a.name = true ∧ n ∈ e.pipelines) ∧
      ∀ a ∈ c.environments, ∀ n : Name, n.isIn a.pipelines = true ↔
        ∃ e ∈ es, e.name.same a.name = true ∧ n.isIn e.pipelines = true) ∧
    c.environments.Pairwise (fun a b => ∀ n : Name, n.isIn a.pipelines = true →
      ¬ n.isIn b.pipelines = true) ∧
    (∀ a ∈ c.environments, ∀ n ∈ a.pipelines, ∃ p ∈ c.pipelines, p.name.same n = true) ∧
    c.partials = partials := by
  obtain ⟨m, hm, hr, rfl⟩ := merge_holds h
  intro gs es
  have hnames : m.groups.map Group.name = (gs.map Group.name).eraseDups := by
    rw [hm.groups, Group.map_name_joined]
  have hnodup : (m.groups.flatMap Group.pipelines).Nodup :=
    hm.pipelines_distinct.imp fun {p q} hpq (heq : p = q) =>
      hpq (heq ▸ Name.same_self _)
  refine ⟨⟨?_, hnames, ?_, hm.pipelines_perm, ?_⟩, hm.pipelines_distinct,
    ⟨hm.collects.distinct, hm.collects.names, hm.collects.listed, ?_⟩, ?_, ?_, rfl⟩
  · exact hnames ▸ Group.nodup_eraseDups _
  · intro g hg
    exact Group.pipelines_of_mem_joined (hm.groups ▸ hg)
  · intro p hp
    exact List.count_eq_one_of_mem hnodup (hm.pipelines_perm.mem_iff.2 hp)
  · intro a ha n
    exact hm.collects.isIn_pipelines_iff ha n
  · refine hm.collects.distinct.imp_of_mem fun ha hb hab n hna hnb => ?_
    exact hab (hm.same_of_isIn ha hb hna hnb)
  · intro a ha n hn
    exact hm.defined_of_checkReferences hr ha hn

/-- A local configuration whose group and environment other sources take up again. -/
def sampleLocal : LocalConfiguration where
  groups := [⟨"infra", [{ name := ⟨"Deploy"⟩ }]⟩, ⟨"apps", []⟩, ⟨"infra", [{ name := ⟨"dns"⟩ }]⟩]
  environments := [{ name := ⟨"UAT"⟩, pipelines := [⟨"deploy"⟩, ⟨"DNS"⟩] }]

/-- Two partials that add to the groups and to the environment of `sampleLocal`. -/
def samplePartials : KeyMap Fingerprint Partial := .ofList [
  (⟨"2b"⟩, {
    origin := ⟨⟨"2b"⟩, "https://example.com/b.git", "r7"⟩
    groups := [⟨"apps", [{ name := ⟨"web"⟩ }]⟩]
    environments := [{ name := ⟨"prod"⟩, pipelines := [⟨"WEB"⟩] }] }),
  (⟨"1a"⟩, {
    origin := ⟨⟨"1a"⟩, "https://example.com/a.git", "r1"⟩
    groups := [⟨"infra", [{ name := ⟨"mail"⟩ }]⟩, ⟨"tools", [{ name := ⟨"lint"⟩ }]⟩]
    environments := [{ name := ⟨"uat"⟩, pipelines := [⟨"DEPLOY"⟩, ⟨"mail"⟩] }] })]

theorem merge_content_sample :
    ∃ c, merge sampleLocal samplePartials = .ok c ∧
      c.groups.map Group.name = ["infra", "apps", "tools"] ∧
      c.pipelines.Perm ([⟨"Deploy"⟩, ⟨"dns"⟩, ⟨"mail"⟩, ⟨"lint"⟩, ⟨"web"⟩].map fun n =>
        { name := n }) ∧
      c.environments.map Environment.name = [⟨"UAT"⟩, ⟨"prod"⟩] ∧
      c.partials = samplePartials := by
  have hok : (merge sampleLocal samplePartials).isOk = true := by decide +kernel
  cases h : merge sampleLocal samplePartials with
  | error conflict => rw [h] at hok; cases hok
  | ok c =>
    obtain ⟨⟨-, hgroups, -, hpipelines, -⟩, -, ⟨-, henvironments, -⟩, -, -, hpartials⟩ :=
      merge_content h
    have hdeclared : (declaredGroups sampleLocal samplePartials).flatMap Group.pipelines =
        [⟨"Deploy"⟩, ⟨"dns"⟩, ⟨"mail"⟩, ⟨"lint"⟩, ⟨"web"⟩].map fun n => { name := n } := by
      decide +kernel
    exact ⟨c, rfl, hgroups.trans (by decide +kernel), hdeclared ▸ hpipelines,
      henvironments.trans (by decide +kernel), hpartials⟩

end PipelineSync
