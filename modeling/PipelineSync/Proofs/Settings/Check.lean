import Mathlib.Data.List.Nodup
import PipelineSync.Proofs.Glob.Grammar
import PipelineSync.Proofs.Material.Folder
import PipelineSync.Proofs.Record.Interrupted
import PipelineSync.Settings.Check

/-!
# Which settings are accepted

Settings go through a check, one repository after the other and the local configuration at last.
`Settings.Usable` says in words of its own what they have to be, without any order, and
`Repository.Breaks` what can be wrong with a repository that comes behind others. The settings that
are accepted are the usable ones, and of all others the first repository that breaks a rule is told
(`check_accepts_usable`). Two things follow for settings that are accepted: no two repositories
share a record or a directory, and their patterns never turn out to be invalid later
(`patterns_stay_valid`).
-/

namespace PipelineSync

namespace Text

theorem isBlankText_eq_false_iff {s : String} :
    isBlankText s = false ↔ ∃ c ∈ s.toList, isBlank c = false := by
  simp [isBlankText]

end Text

namespace Settings

/-! ## What settings have to be -/

/-- What a repository has to be by itself. -/
structure Repository.Proper (r : Repository) : Prop where
  id : ∃ c ∈ r.id.toList, Text.isBlank c = false
  plugin : r.plugin = "gocd-xml"
  url : ∃ c ∈ r.material.url.toList, Text.isBlank c = false
  kind : r.material.kind = .git ∨ r.material.kind = .hg ∨ r.material.kind = .svn
  patterns : ∀ pattern ∈ r.material.filter, Glob.Valid pattern

/-- What settings have to be. -/
structure Usable (s : Settings) : Prop where
  proper : ∀ r ∈ s.repositories, r.Proper
  ids : (s.repositories.map Repository.id).Nodup
  fingerprints : (s.repositories.map fun r => r.material.fingerprint).Nodup
  localConfig : ∃ c, merge s.localConfig ∅ = .ok c

/-- What is wrong with a repository, given the ones before it. -/
inductive Repository.Breaks (earlier : List Repository) (r : Repository) : Fault → Prop where
  | emptyId (h : ∀ c ∈ r.id.toList, Text.isBlank c = true) :
    Breaks earlier r (.emptyId (earlier.length + 1))
  | duplicateId (h : r.id ∈ earlier.map Repository.id) : Breaks earlier r (.duplicateId r.id)
  | unsupportedPlugin (h : r.plugin ≠ "gocd-xml") :
    Breaks earlier r (.unsupportedPlugin r.id r.plugin)
  | emptyUrl (h : ∀ c ∈ r.material.url.toList, Text.isBlank c = true) :
    Breaks earlier r (.emptyUrl r.id)
  | notScm (h : ¬ (r.material.kind = .git ∨ r.material.kind = .hg ∨ r.material.kind = .svn)) :
    Breaks earlier r (.notScm r.id r.material.kind)
  | invalidPattern {pattern : String} {e : Glob.Error} (hmem : pattern ∈ r.material.filter)
      (h : Glob.compile pattern = .error e) : Breaks earlier r (.invalidPattern r.id pattern e)
  | sameRepository {other : Repository} (hmem : other ∈ earlier)
      (h : other.material.fingerprint = r.material.fingerprint) :
    Breaks earlier r (.sameRepository other.id r.id)

/-- None of the repositories breaks a rule, given the ones before it. -/
def NoneBreaks (rs : List Repository) : Prop :=
  ∀ before r after, rs = before ++ r :: after → ∀ fault, ¬ r.Breaks before fault

/-! ## One repository -/

section Repository

variable {earlier : List Repository} {r : Repository} {fault : Fault}

theorem isScm_eq_true_iff {k : Material.Kind} : k.isScm = true ↔ k = .git ∨ k = .hg ∨ k = .svn := by
  cases k <;> decide

theorem invalidPattern?_eq_none_iff {patterns : List String} :
    invalidPattern? patterns = none ↔ ∀ pattern ∈ patterns, Glob.Valid pattern := by
  rw [invalidPattern?, List.findSome?_eq_none_iff]
  refine forall₂_congr fun pattern _ => ?_
  rw [← Glob.exists_compile_iff]
  cases Glob.compile pattern <;> simp

theorem exists_of_invalidPattern? {patterns : List String} {pattern : String} {e : Glob.Error}
    (h : invalidPattern? patterns = some (pattern, e)) :
    pattern ∈ patterns ∧ Glob.compile pattern = .error e := by
  obtain ⟨p, hp, hcompile⟩ := List.exists_of_findSome?_eq_some h
  cases hresult : Glob.compile p with
  | ok tokens => simp [hresult] at hcompile
  | error e' =>
    obtain ⟨rfl, rfl⟩ : p = pattern ∧ e' = e := by simpa [hresult] using hcompile
    exact ⟨hp, hresult⟩

/-- A fault that is told of a repository is one that it has. -/
theorem breaks_of_fault? (h : r.fault? earlier = some fault) : r.Breaks earlier fault := by
  unfold Repository.fault? at h
  split at h
  · next hid =>
    obtain rfl := Option.some.inj h
    exact .emptyId (by simpa [Text.isBlankText] using hid)
  split at h
  · next hid =>
    obtain rfl := Option.some.inj h
    obtain ⟨other, hmem, hsame⟩ := List.any_eq_true.1 hid
    exact .duplicateId (List.mem_map.2 ⟨other, hmem, of_decide_eq_true hsame⟩)
  split at h
  · next hplugin =>
    obtain rfl := Option.some.inj h
    exact .unsupportedPlugin hplugin
  split at h
  · next hurl =>
    obtain rfl := Option.some.inj h
    exact .emptyUrl (by simpa [Text.isBlankText] using hurl)
  split at h
  · next hkind =>
    obtain rfl := Option.some.inj h
    exact .notScm (by rw [← isScm_eq_true_iff]; simpa using hkind)
  split at h
  · next pattern e hpattern =>
    obtain rfl := Option.some.inj h
    obtain ⟨hmem, hcompile⟩ := exists_of_invalidPattern? hpattern
    exact .invalidPattern hmem hcompile
  · obtain ⟨other, hother, rfl⟩ := Option.map_eq_some_iff.1 h
    exact .sameRepository (List.mem_of_find?_eq_some hother) (by simpa using List.find?_some hother)

theorem any_id_eq_false_iff :
    earlier.any (·.id = r.id) = false ↔ r.id ∉ earlier.map Repository.id := by
  rw [Bool.eq_false_iff, ne_eq, List.any_eq_true, List.mem_map]
  simp only [decide_eq_true_eq]

/-- Nothing is told of a repository that is proper and new. -/
theorem fault?_eq_none_iff : r.fault? earlier = none ↔ r.Proper ∧
    r.id ∉ earlier.map Repository.id ∧
      r.material.fingerprint ∉ earlier.map fun other => other.material.fingerprint := by
  have hrule {p : Prop} [Decidable p] {f : Fault} {later : Option Fault} :
      (if p then some f else later) = none ↔ ¬ p ∧ later = none := by
    split <;> simp [*]
  have hscm : ¬ (!r.material.kind.isScm) = true ↔
      r.material.kind = .git ∨ r.material.kind = .hg ∨ r.material.kind = .svn := by
    rw [← isScm_eq_true_iff]
    simp
  have hpatterns : invalidPattern? r.material.filter = none ↔
      ∀ pattern ∈ r.material.filter, Glob.Valid pattern := invalidPattern?_eq_none_iff
  have hrules : r.fault? earlier = none ↔ (∃ c ∈ r.id.toList, Text.isBlank c = false) ∧
      r.id ∉ earlier.map Repository.id ∧ r.plugin = "gocd-xml" ∧
      (∃ c ∈ r.material.url.toList, Text.isBlank c = false) ∧
      (r.material.kind = .git ∨ r.material.kind = .hg ∨ r.material.kind = .svn) ∧
      (∀ pattern ∈ r.material.filter, Glob.Valid pattern) ∧
      r.material.fingerprint ∉ earlier.map fun other => other.material.fingerprint := by
    unfold Repository.fault?
    rw [hrule, hrule, hrule, hrule, hrule, hscm, Bool.not_eq_true, Bool.not_eq_true,
      Bool.not_eq_true, Text.isBlankText_eq_false_iff, Text.isBlankText_eq_false_iff,
      any_id_eq_false_iff, not_not, supportedPlugin, ← hpatterns]
    cases invalidPattern? r.material.filter <;> simp
  rw [hrules]
  constructor
  · rintro ⟨hid, hnewId, hplugin, hurl, hkind, hpatterns, hnew⟩
    exact ⟨⟨hid, hplugin, hurl, hkind, hpatterns⟩, hnewId, hnew⟩
  · rintro ⟨⟨hid, hplugin, hurl, hkind, hpatterns⟩, hnewId, hnew⟩
    exact ⟨hid, hnewId, hplugin, hurl, hkind, hpatterns, hnew⟩

/-- A repository of which nothing is told has no fault. -/
theorem not_breaks_of_fault?_eq_none (h : r.fault? earlier = none) : ¬ r.Breaks earlier fault := by
  obtain ⟨hproper, hid, hfingerprint⟩ := fault?_eq_none_iff.1 h
  have hnotBlank {text : String} (hall : ∀ c ∈ text.toList, Text.isBlank c = true) :
      ¬ ∃ c ∈ text.toList, Text.isBlank c = false := by
    rintro ⟨c, hc, hblank⟩
    rw [hall c hc] at hblank
    cases hblank
  intro hbreaks
  cases hbreaks with
  | emptyId hall => exact hnotBlank hall hproper.id
  | duplicateId hmem => exact hid hmem
  | unsupportedPlugin hne => exact hne hproper.plugin
  | emptyUrl hall => exact hnotBlank hall hproper.url
  | notScm hkind => exact hkind hproper.kind
  | invalidPattern hmem hcompile =>
    obtain ⟨tokens, htokens⟩ := Glob.exists_compile_iff.2 (hproper.patterns _ hmem)
    rw [hcompile] at htokens
    cases htokens
  | sameRepository hmem hsame => exact hfingerprint (List.mem_map.2 ⟨_, hmem, hsame⟩)

end Repository

/-! ## All repositories -/

section Repositories

variable {earlier rs : List Repository} {fault : Fault}

/-- Keys of which the last is new. -/
theorem nodup_map_append_singleton_iff {α β : Type} {key : α → β} {l : List α} {a : α} :
    ((l ++ [a]).map key).Nodup ↔ (l.map key).Nodup ∧ key a ∉ l.map key := by
  rw [List.map_append, List.map_singleton, ← List.concat_eq_append, List.nodup_concat]
  exact and_comm

/-- The repositories are proper, and all ids and fingerprints differ. -/
theorem firstFault?_eq_none_iff (hids : (earlier.map Repository.id).Nodup)
    (hfingerprints : (earlier.map fun r => r.material.fingerprint).Nodup) :
    firstFault? earlier rs = none ↔ (∀ r ∈ rs, r.Proper) ∧
      ((earlier ++ rs).map Repository.id).Nodup ∧
        ((earlier ++ rs).map fun r => r.material.fingerprint).Nodup := by
  -- the repositories that have been checked are distinct, so a new one stays distinct from them
  induction rs generalizing earlier with
  | nil => simp [firstFault?, hids, hfingerprints]
  | cons r rs ih =>
    have hsplit : earlier ++ r :: rs = earlier ++ [r] ++ rs := by simp
    have hfront {β : Type} {key : Repository → β} (h : ((earlier ++ [r] ++ rs).map key).Nodup) :
        ((earlier ++ [r]).map key).Nodup := by
      rw [List.map_append] at h
      exact h.of_append_left
    rw [firstFault?, Option.or_eq_none_iff, fault?_eq_none_iff, List.forall_mem_cons, hsplit]
    constructor
    · rintro ⟨⟨hproper, hid, hfingerprint⟩, hrest⟩
      obtain ⟨hall, hnodup⟩ := (ih (nodup_map_append_singleton_iff.2 ⟨hids, hid⟩)
        (nodup_map_append_singleton_iff.2 ⟨hfingerprints, hfingerprint⟩)).1 hrest
      exact ⟨⟨hproper, hall⟩, hnodup⟩
    · rintro ⟨⟨hproper, hall⟩, hidsAll, hfingerprintsAll⟩
      refine ⟨⟨hproper, (nodup_map_append_singleton_iff.1 (hfront hidsAll)).2,
        (nodup_map_append_singleton_iff.1 (hfront hfingerprintsAll)).2⟩, ?_⟩
      exact (ih (hfront hidsAll) (hfront hfingerprintsAll)).2 ⟨hall, hidsAll, hfingerprintsAll⟩

/-- The fault that is told is one of a repository, and nothing is told of those before it. -/
theorem exists_of_firstFault? (h : firstFault? earlier rs = some fault) :
    ∃ before r after, rs = before ++ r :: after ∧ firstFault? earlier before = none ∧
      r.fault? (earlier ++ before) = some fault := by
  induction rs generalizing earlier with
  | nil => cases h
  | cons r rs ih =>
    rw [firstFault?] at h
    cases hr : r.fault? earlier with
    | some found =>
      rw [hr] at h
      exact ⟨[], r, rs, rfl, rfl, by rw [List.append_nil, hr]; exact h⟩
    | none =>
      rw [hr, Option.none_or] at h
      obtain ⟨before, r', after, rfl, hbefore, hfault⟩ := ih h
      refine ⟨r :: before, r', after, rfl, ?_, ?_⟩
      · rw [firstFault?, hr, hbefore, Option.none_or]
      · rwa [List.append_assoc] at hfault

theorem fault?_of_firstFault?_eq_none {before after : List Repository} {r : Repository}
    (h : firstFault? earlier (before ++ r :: after) = none) :
    r.fault? (earlier ++ before) = none := by
  induction before generalizing earlier with
  | nil =>
    rw [List.nil_append, firstFault?, Option.or_eq_none_iff] at h
    rw [List.append_nil]
    exact h.1
  | cons q before ih =>
    rw [List.cons_append, firstFault?, Option.or_eq_none_iff] at h
    have := ih h.2
    rwa [List.append_assoc] at this

theorem noneBreaks_of_firstFault?_eq_none (h : firstFault? [] rs = none) : NoneBreaks rs := by
  rintro before r after rfl fault
  exact not_breaks_of_fault?_eq_none (fault?_of_firstFault?_eq_none h)

end Repositories

/-! ## Settings -/

variable {s : Settings}

theorem fault?_eq_none_iff_usable : s.fault? = none ↔ s.Usable := by
  have hrepositories : firstFault? [] s.repositories = none ↔ (∀ r ∈ s.repositories, r.Proper) ∧
      (s.repositories.map Repository.id).Nodup ∧
        (s.repositories.map fun r => r.material.fingerprint).Nodup :=
    firstFault?_eq_none_iff List.nodup_nil List.nodup_nil
  have hlocal : s.fault? = none ↔
      firstFault? [] s.repositories = none ∧ ∃ c, merge s.localConfig ∅ = .ok c := by
    unfold fault?
    cases firstFault? [] s.repositories with
    | some fault => simp
    | none => cases merge s.localConfig ∅ <;> simp
  rw [hlocal, hrepositories]
  constructor
  · rintro ⟨⟨hproper, hids, hfingerprints⟩, hmerge⟩
    exact ⟨hproper, hids, hfingerprints, hmerge⟩
  · rintro ⟨hproper, hids, hfingerprints, hmerge⟩
    exact ⟨⟨hproper, hids, hfingerprints⟩, hmerge⟩

theorem check_eq_ok_iff : s.check = .ok s ↔ s.Usable := by
  rw [← fault?_eq_none_iff_usable, check]
  cases s.fault? <;> simp

/-- What is told of settings is about the first repository that breaks a rule, or else about the
local configuration. -/
theorem located_of_fault? {fault : Fault} (h : s.fault? = some fault) :
    (∃ before r after, s.repositories = before ++ r :: after ∧ NoneBreaks before ∧
      r.Breaks before fault) ∨
    NoneBreaks s.repositories ∧
      ∃ conflict, merge s.localConfig ∅ = .error conflict ∧ fault = .inconsistent conflict := by
  unfold fault? at h
  cases hfirst : firstFault? [] s.repositories with
  | some found =>
    rw [hfirst] at h
    obtain rfl : found = fault := Option.some.inj h
    obtain ⟨before, r, after, hsplit, hbefore, hr⟩ := exists_of_firstFault? hfirst
    exact Or.inl ⟨before, r, after, hsplit, noneBreaks_of_firstFault?_eq_none hbefore,
      breaks_of_fault? hr⟩
  | none =>
    rw [hfirst] at h
    refine Or.inr ⟨noneBreaks_of_firstFault?_eq_none hfirst, ?_⟩
    cases hmerge : merge s.localConfig ∅ with
    | ok c => simp [hmerge] at h
    | error conflict => exact ⟨conflict, rfl, by simpa [hmerge, eq_comm] using h⟩

/-! ## What follows for accepted settings -/

theorem isKey_fingerprint (m : Material) : RecordFiles.IsKey m.fingerprint := by
  constructor
  · intro hempty
    have hlength := m.length_fingerprint
    rw [hempty] at hlength
    exact absurd hlength (by decide)
  · exact fun hslash => (Material.isFileSafe_of_mem_fingerprint hslash).ne_slash.1 rfl

/-- Records of different repositories are in different files. -/
theorem fingerprint_eq_of_recordPath_eq {store : RecordFiles} {a b : Material}
    (h : store.recordPath a.fingerprint = store.recordPath b.fingerprint) :
    a.fingerprint = b.fingerprint := by
  have hname (m : Material) : Path.IsName (m.fingerprint.hex ++ ".json") :=
    RecordFiles.isName_fileName (isKey_fingerprint m)
  have hcomponents := congrArg Path.components h
  unfold RecordFiles.recordPath at hcomponents
  rw [Path.components_join (hname a), Path.components_join (hname b)] at hcomponents
  have hhex : a.fingerprint.hex = b.fingerprint.hex := by
    simpa using List.append_cancel_left hcomponents
  exact congrArg Fingerprint.mk hhex

/-- What differs for different fingerprints differs for all repositories. -/
theorem Usable.nodup_map {β : Type} (h : s.Usable) {g : Material → β}
    (hg : ∀ {a b : Material}, g a = g b → a.fingerprint = b.fingerprint) :
    (s.repositories.map fun r => g r.material).Nodup := by
  refine List.pairwise_map.2 ((List.pairwise_map.1 h.fingerprints).imp ?_)
  exact fun hne heq => hne (hg heq)

/-- The settings that are accepted are the usable ones. For all others a fault is told: one of the
first repository that has any, given the ones before it, or the conflict in the local configuration
if no repository has one. The repositories of accepted settings share neither keys nor files of
records nor working copies. -/
theorem check_accepts_usable (s : Settings) :
    (s.check = .ok s ↔ s.Usable) ∧
    (¬ s.Usable → ∃ fault : Fault,
      s.check = .error (.configParse fault.message (some fault.hint)) ∧
      ((∃ before r after, s.repositories = before ++ r :: after ∧ NoneBreaks before ∧
          r.Breaks before fault) ∨
        NoneBreaks s.repositories ∧
          ∃ conflict, merge s.localConfig ∅ = .error conflict ∧ fault = .inconsistent conflict)) ∧
    (s.check = .ok s →
      (s.repositories.map fun r => r.material.fingerprint).Nodup ∧
      (∀ store : RecordFiles,
        (s.repositories.map fun r => store.recordPath r.material.fingerprint).Nodup) ∧
      ∀ copies : WorkingCopies, (s.repositories.map fun r => copies.folder r.material).Nodup) := by
  refine ⟨check_eq_ok_iff, fun hnot => ?_, fun hok => ?_⟩
  · cases hfault : s.fault? with
    | none => exact absurd (fault?_eq_none_iff_usable.1 hfault) hnot
    | some fault =>
      refine ⟨fault, ?_, located_of_fault? hfault⟩
      rw [check, hfault]
      rfl
  · have husable := check_eq_ok_iff.1 hok
    refine ⟨husable.fingerprints, fun store => ?_, fun copies => ?_⟩
    · exact husable.nodup_map (g := fun m => store.recordPath m.fingerprint)
        fingerprint_eq_of_recordPath_eq
    · exact husable.nodup_map (g := fun m => copies.folder m)
        Material.fingerprint_eq_of_folder_eq

/-- Two repositories, once with ids of their own, and once with one id and in front of a third
without any. -/
theorem check_accepts_usable_pair :
    let site : Repository := ⟨"site", { kind := .hg, url := "/a/site.git", filter := ["docs/**"] },
      "gocd-xml"⟩
    let shop : Repository := ⟨"shop", { kind := .hg, url := "/b/site.git" }, "gocd-xml"⟩
    let accepted : Settings := { repositories := [site, shop] }
    let refused : Settings :=
      { repositories := [site, { shop with id := "site" }, { shop with id := " " }] }
    accepted.check = .ok accepted ∧
      (∀ copies : WorkingCopies,
        (accepted.repositories.map fun r => copies.folder r.material).Nodup) ∧
      ¬ refused.Usable ∧
      ∃ before r after fault, refused.repositories = before ++ r :: after ∧ NoneBreaks before ∧
        r.Breaks before fault ∧ refused.check = .error fault.toError := by
  intro site shop accepted refused
  have hfault : accepted.fault? = none := by decide +kernel
  have hrefused : refused.fault? ≠ none := by decide +kernel
  have hok : accepted.check = .ok accepted := by rw [check, hfault]
  have hnot : ¬ refused.Usable := fun husable => hrefused (fault?_eq_none_iff_usable.2 husable)
  refine ⟨hok, ((check_accepts_usable accepted).2.2 hok).2.2, hnot, ?_⟩
  obtain ⟨fault, hcheck, ⟨before, r, after, hsplit, hbefore, hr⟩ | ⟨hnone, -⟩⟩ :=
    (check_accepts_usable refused).2.1 hnot
  · exact ⟨before, r, after, fault, hsplit, hbefore, hr, hcheck⟩
  · have hsecond : Repository.Breaks [site] { shop with id := "site" } (.duplicateId "site") :=
      .duplicateId List.mem_cons_self
    exact absurd hsecond (hnone [site] _ _ rfl _)

/-- A pattern that compiles can be held against every path, and the patterns of accepted settings
can, so that nothing is ever told of one of them. -/
theorem patterns_stay_valid :
    (∀ path pattern : String,
      ((∃ tokens, Glob.compile pattern = .ok tokens) ↔
        ∃ matched, Material.matchesPattern path pattern = .ok matched) ∧
      ((∃ tokens, Glob.compile pattern = .ok tokens) ↔ Glob.Valid pattern)) ∧
    ∀ s : Settings, s.check = .ok s → ∀ r ∈ s.repositories, ∀ path : String,
      (∀ pattern ∈ r.material.filter, ∃ matched,
        Material.matchesPattern (Path.filterForm path) pattern = .ok matched) ∧
      Material.filterLines path r.material.filter = [] := by
  refine ⟨fun path pattern => ⟨?_, Glob.exists_compile_iff⟩, fun s hok r hr path => ?_⟩
  · rw [Glob.exists_compile_iff, Material.exists_matchesPattern_iff]
  · have hpatterns := ((check_eq_ok_iff.1 hok).proper r hr).patterns
    exact ⟨fun pattern hmem => Material.exists_matchesPattern_iff.2 (hpatterns pattern hmem),
      Material.filterLines_eq_nil path hpatterns⟩

/-- A class and a whole component, without and with a `/` in front. -/
theorem patterns_stay_valid_docs :
    let docs : Repository := ⟨"docs",
      { kind := .git, url := "/srv/docs.git", filter := ["[]a-z]?/**/b", "/**"] }, "gocd-xml"⟩
    let s : Settings := { repositories := [docs] }
    s.check = .ok s ∧ docs ∈ s.repositories ∧ Material.filterLines "x/y" docs.material.filter = [] ∧
      ∀ pattern ∈ docs.material.filter, ∃ matched,
        Material.matchesPattern (Path.filterForm "x/y") pattern = .ok matched := by
  intro docs s
  have hfault : s.fault? = none := by decide +kernel
  have hok : s.check = .ok s := by rw [check, hfault]
  have hmem : docs ∈ s.repositories := List.mem_singleton_self docs
  obtain ⟨hmatched, hlines⟩ := patterns_stay_valid.2 s hok docs hmem "x/y"
  exact ⟨hok, hmem, hlines, hmatched⟩

end Settings

end PipelineSync
