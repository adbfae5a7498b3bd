import PipelineSync.Proofs.Engine.Unchanged
import PipelineSync.Proofs.Merge.Conflicts

/-!
# Repositories that are admitted in any order

Every call merges its repository with those that came before, so which configurations have to merge
on the way depends on the order of the calls. If all repositories go together in the end, and each
of them stands on the local configuration alone, then so does every part of them
(`exists_merge_of_part`), and no order keeps any of them out: `runEach_admits_in_any_order`.
-/

namespace PipelineSync

variable {σ : Type} {w : World σ} {localConfig : LocalConfiguration}
  {partials : KeyMap Fingerprint Partial}

/-! ## One call -/

namespace Running

/-- Whatever a call of a material needs goes well when it is its turn: the working copy can be
brought up to date, its fragments make the partial, and records can be saved then. -/
def Finds (w : World σ) (m : Material) (p : Partial) (s : Running σ) : Prop :=
  let fetched := (s.claim? w m).2.fetch w m m.fingerprint
  ∃ directory revision, fetched.1.copy = .ok (directory, revision) ∧
    let parsed := w.parse m directory revision fetched.2.world
    parsed.1 = .ok p ∧ ∀ r, (w.save r parsed.2).1 = .ok ()

/-- Fragments that merge with what there is are merged, if their record can be saved. -/
theorem settle_of_saved {s : Running σ} {f : Fingerprint} {p : Partial} {c : Configuration}
    (hholds : HoldsMerge localConfig partials s.engine)
    (hmerge : merge localConfig (partials.insert f p) = .ok c)
    (hsave : ∀ r, (w.save r s.world).1 = .ok ()) (m : Material) (revision : String) :
    (s.settle w m f revision (.ok p)).1 = .ok (.merged revision) ∧
      HoldsMerge localConfig (partials.insert f p) (s.settle w m f revision (.ok p)).2.engine := by
  have hcandidate : s.engine.candidate f p = .ok c := by
    rw [Engine.candidate_eq_ok_iff, hholds.localConfig_eq, hholds.partials_eq]
    exact hmerge
  obtain ⟨r, hanswer⟩ := settle_answer_of_accepted hcandidate w m revision
  rw [hsave r] at hanswer
  have heffect := settle_effect w m f revision (.ok p) s
  rw [hanswer] at heffect
  exact ⟨hanswer, heffect.holdsMerge hholds⟩

/-- A repository that has never been processed is admitted if it merges. -/
theorem run_of_finds {s : Running σ} {m : Material} {p : Partial}
    (hidle : s.engine.tracker.isInProgress m.fingerprint = false)
    (hnew : s.engine.records.get? m.fingerprint = none)
    (hholds : HoldsMerge localConfig partials s.engine)
    (hmerge : ∃ c, merge localConfig (partials.insert m.fingerprint p) = .ok c)
    (hfinds : s.Finds w m p) (skipUnchanged : Bool) :
    (∃ revision, (s.run w m skipUnchanged).1 = .ok (.merged revision)) ∧
      HoldsMerge localConfig (partials.insert m.fingerprint p)
        (s.run w m skipUnchanged).2.engine := by
  obtain ⟨c, hc⟩ := hmerge
  obtain ⟨directory, revision, hcopy, hparse, hsave⟩ := hfinds
  rw [claim?_of_idle rfl hidle] at hcopy hparse hsave
  rw [run_of_idle rfl hidle, runClaimed, cycle]
  have heffect := fetch_effect w m m.fingerprint (s.begun w m.fingerprint)
  rcases hfetch : (s.begun w m.fingerprint).fetch w m m.fingerprint with ⟨⟨copy, saved⟩, fetched⟩
  rw [hfetch] at hcopy hparse hsave heffect
  obtain rfl : copy = .ok (directory, revision) := hcopy
  -- bringing the working copy up to date has told nothing of the fragments yet
  have hattempt : fetched.engine.revisionAtLastAttempt? m.fingerprint = none := by
    refine heffect.agreeOnFragments.lastAttemptedRevision.trans ?_
    exact congrArg (·.bind UpdateRecord.lastAttemptedRevision) hnew
  have hgoes : fetched.isUnchanged m.fingerprint skipUnchanged revision = false := by
    rw [isUnchanged, hattempt]
    simp
  obtain ⟨hlocal, hmerged, hpartials, -⟩ := heffect.fetched_frame
  have hholds' : HoldsMerge localConfig partials fetched.engine :=
    ⟨hlocal.trans hholds.localConfig_eq, hpartials.trans hholds.partials_eq,
      hmerged.symm ▸ hholds.merge_eq⟩
  let parsed : Running σ :=
    { fetched with world := (w.parse m directory revision fetched.world).2 }
  have hsettled := settle_of_saved (s := parsed) hholds' hc hsave m revision
  have hprocess : fetched.process w m m.fingerprint directory revision =
      parsed.settle w m m.fingerprint revision (.ok p) := by
    rw [← hparse]
    rfl
  simp only [hgoes, Bool.false_eq_true, if_false, hprocess]
  obtain ⟨hanswer, hend⟩ := hsettled
  exact ⟨⟨revision, hanswer⟩, ⟨hend.localConfig_eq, hend.partials_eq, hend.merge_eq⟩⟩

end Running

/-! ## All calls -/

/-- The partials of repositories, under their fingerprints. -/
def contributions (rs : List (Material × Partial)) : KeyMap Fingerprint Partial :=
  .ofList (rs.map fun r => (r.1.fingerprint, r.2))

theorem contributions_append_singleton (rs : List (Material × Partial)) (r : Material × Partial) :
    contributions (rs ++ [r]) = (contributions rs).insert r.1.fingerprint r.2 := by
  simp only [contributions, KeyMap.ofList, List.map_append, List.foldl_append]
  rfl

section Contributions

variable {rs : List (Material × Partial)} (hrs : (rs.map (·.1.fingerprint)).Nodup)

include hrs

theorem get?_contributions_eq_some_iff {f : Fingerprint} {p : Partial} :
    (contributions rs).get? f = some p ↔ ∃ r ∈ rs, r.1.fingerprint = f ∧ r.2 = p := by
  rw [contributions, KeyMap.get?_ofList_eq_some_iff (by simpa [Function.comp_def] using hrs),
    List.mem_map]
  simp only [Prod.mk.injEq]

theorem contributions_perm {order : List (Material × Partial)} (h : order.Perm rs) :
    contributions order = contributions rs := by
  refine (KeyMap.ofList_perm (h.symm.map _) ?_).symm
  simpa [Function.comp_def] using hrs

/-- Some of the repositories merge if all do, and each of them by itself. -/
theorem exists_merge_contributions_of_sublist {c : Configuration}
    (hall : merge localConfig (contributions rs) = .ok c)
    (hlocal : ∃ c, merge localConfig ∅ = .ok c)
    (halone : ∀ r ∈ rs, ∃ c, merge localConfig (contributions [r]) = .ok c)
    {rs' : List (Material × Partial)} (hsub : rs'.Sublist rs) :
    ∃ c, merge localConfig (contributions rs') = .ok c := by
  have hrs' : (rs'.map (·.1.fingerprint)).Nodup := hrs.sublist (hsub.map _)
  refine exists_merge_of_part ⟨c, hall⟩ hlocal ?_ ?_
  · intro f p hp
    obtain ⟨r, hr, hrp⟩ := (get?_contributions_eq_some_iff hrs').1 hp
    exact (get?_contributions_eq_some_iff hrs).2 ⟨r, hsub.subset hr, hrp⟩
  · intro f p hp
    obtain ⟨r, hr, rfl, rfl⟩ := (get?_contributions_eq_some_iff hrs').1 hp
    exact halone r (hsub.subset hr)

end Contributions

namespace Running

/-- Each of the calls finds what it needs when it is its turn. -/
def FindsEach (w : World σ) (skipUnchanged : Bool) : List (Material × Partial) → Running σ → Prop
  | [], _ => True
  | r :: rest, s => s.Finds w r.1 r.2 ∧ FindsEach w skipUnchanged rest (s.run w r.1 skipUnchanged).2

/-- Calls of repositories that were never processed admit one after another, as long as what has
been admitted merges after each of them. -/
theorem runEach_of_findsEach {skipUnchanged : Bool} {before waiting : List (Material × Partial)}
    {s : Running σ} (hdistinct : (waiting.map (·.1.fingerprint)).Nodup)
    (hidle : s.engine.tracker = {})
    (hnew : ∀ r ∈ waiting, s.engine.records.get? r.1.fingerprint = none)
    (hholds : HoldsMerge localConfig (contributions before) s.engine)
    (hmerge : ∀ rs, rs <+: waiting → ∃ c, merge localConfig (contributions (before ++ rs)) = .ok c)
    (hfinds : s.FindsEach w skipUnchanged waiting) :
    let ran := s.runEach w skipUnchanged (waiting.map Prod.fst)
    List.Forall₂ (fun r x => x.1 = r.1.fingerprint ∧ ∃ revision, x.2 = .ok (.merged revision))
        waiting ran.1 ∧
      HoldsMerge localConfig (contributions (before ++ waiting)) ran.2.engine := by
  induction waiting generalizing before s with
  | nil =>
    rw [List.append_nil]
    exact ⟨.nil, hholds⟩
  | cons r waiting ih =>
    obtain ⟨hfound, hrest⟩ := hfinds
    obtain ⟨hr, hdistinct⟩ := List.nodup_cons.1 hdistinct
    have hidleAt : s.engine.tracker.isInProgress r.1.fingerprint = false := by
      rw [hidle]
      rfl
    have hmergeNow : ∃ c, merge localConfig
        ((contributions before).insert r.1.fingerprint r.2) = .ok c := by
      rw [← contributions_append_singleton]
      exact hmerge [r] (List.prefix_append [r] waiting)
    obtain ⟨hanswer, hholds'⟩ := run_of_finds hidleAt (hnew r List.mem_cons_self) hholds hmergeNow
      hfound skipUnchanged
    rw [← contributions_append_singleton] at hholds'
    have hcourse := run_course (w := w) hidleAt skipUnchanged
    -- the repositories that wait are none of the call's business
    have hnew' : ∀ q ∈ waiting,
        (s.run w r.1 skipUnchanged).2.engine.records.get? q.1.fingerprint = none := by
      intro q hq
      have hqr : q.1.fingerprint ≠ r.1.fingerprint := fun heq =>
        hr (List.mem_map.2 ⟨q, hq, heq⟩)
      rw [hcourse.agreeElsewhere.records _ hqr]
      exact hnew q (List.mem_cons_of_mem _ hq)
    have hmerge' : ∀ rs, rs <+: waiting →
        ∃ c, merge localConfig (contributions ((before ++ [r]) ++ rs)) = .ok c := by
      intro rs hrs
      rw [List.append_assoc]
      exact hmerge (r :: rs) (List.cons_prefix_cons.2 ⟨rfl, hrs⟩)
    obtain ⟨hanswers, hend⟩ := ih hdistinct ((run_tracker ..).trans hidle) hnew' hholds' hmerge'
      hrest
    rw [List.append_assoc] at hend
    exact ⟨.cons ⟨rfl, hanswer⟩ hanswers, hend⟩

end Running

/-- An engine that starts with nothing saved, and repositories that all together merge with the
local configuration and each merge with it alone. In whatever order they are called, one after
another and each once, every call merges its repository, provided that it can be checked out, read
and saved when it is its turn. In the end the engine holds what all of them merge to. That is so for
calls that may end early and for calls that may not. -/
theorem runEach_admits_in_any_order {health : Health} {world world' : σ} {e : Engine}
    (hempty : (w.loadAll world).1 = .ok [])
    (hstart : Engine.start w localConfig health world = (.ok e, world'))
    {repositories : List (Material × Partial)}
    (hdistinct : (repositories.map (·.1.fingerprint)).Nodup) {c : Configuration}
    (hall : merge localConfig (contributions repositories) = .ok c)
    (halone : ∀ r ∈ repositories, ∃ c, merge localConfig (contributions [r]) = .ok c)
    {order : List (Material × Partial)} (horder : order.Perm repositories) (skipUnchanged : Bool)
    (hfinds : Running.FindsEach w skipUnchanged order ⟨e, world'⟩) :
    let ran := Running.runEach w skipUnchanged (order.map Prod.fst) ⟨e, world'⟩
    List.Forall₂ (fun r x => x.1 = r.1.fingerprint ∧ ∃ revision, x.2 = .ok (.merged revision))
        order ran.1 ∧
      ran.2.engine.merged = c := by
  obtain ⟨records, c₀, hload, hlocal, rfl⟩ := Engine.start_eq_ok_iff.1 (congrArg Prod.fst hstart)
  obtain rfl : [] = records := Except.ok.inj (hempty.symm.trans hload)
  rw [Engine.restored_nil] at hlocal
  have hholds : HoldsMerge localConfig (contributions [])
      (Engine.restarted localConfig [] health c₀) := ⟨rfl, merge_partials hlocal, hlocal⟩
  have hdistinct' : (order.map (·.1.fingerprint)).Nodup := (horder.map _).nodup_iff.2 hdistinct
  rw [← contributions_perm hdistinct horder] at hall
  have hmerge : ∀ rs, rs <+: order → ∃ c, merge localConfig (contributions ([] ++ rs)) = .ok c :=
    fun rs hrs => exists_merge_contributions_of_sublist hdistinct' hall ⟨c₀, hlocal⟩
      (fun r hr => halone r (horder.mem_iff.1 hr)) hrs.sublist
  obtain ⟨hanswers, hend⟩ := Running.runEach_of_findsEach hdistinct' rfl
    (fun _ _ => rfl) hholds hmerge hfinds
  refine ⟨hanswers, ?_⟩
  exact Except.ok.inj (hend.merge_eq.symm.trans hall)

/-- Fragments that define a pipeline and put it into an environment that others share. -/
def livePartial (revision : String) : Partial :=
  { appsPartial revision [revision] with
    environments := [{ name := ⟨"live"⟩, pipelines := [⟨revision⟩] }] }

def liveContents (_ : Fingerprint) (revision : String) : Except Error Partial :=
  .ok (livePartial revision)

/-- The site and the shop. -/
def liveRepositories : List (Material × Partial) :=
  [(siteMaterial, livePartial "site-1"), (shopMaterial, livePartial "shop-1")]

theorem contributions_siteMaterial (p : Partial) :
    contributions [(siteMaterial, p)] = (∅ : KeyMap Fingerprint Partial).insert siteFingerprint p := by
  rw [← siteMaterial_fingerprint]
  rfl

theorem contributions_shopMaterial (p : Partial) :
    contributions [(shopMaterial, p)] = (∅ : KeyMap Fingerprint Partial).insert shopFingerprint p := by
  rw [← shopMaterial_fingerprint]
  rfl

theorem contributions_liveRepositories :
    contributions liveRepositories =
      ((∅ : KeyMap Fingerprint Partial).insert siteFingerprint (livePartial "site-1")).insert
        shopFingerprint (livePartial "shop-1") := by
  rw [← siteMaterial_fingerprint, ← shopMaterial_fingerprint]
  rfl

theorem World.ofScenario_save {contents : Fingerprint → String → Except Error Partial}
    {world : Scenario} (h : world.saves = []) (r : UpdateRecord) :
    ((World.ofScenario contents).save r world).1 = .ok () := by
  simp only [World.ofScenario, h]

/-- The shop is called first, and both are merged. -/
theorem runEach_admits_shop_and_site :
    let world : Scenario :=
      { refreshes := [.ok ("/work/shop", "shop-1"), .ok ("/work/site", "site-1")] }
    let ran := Running.updateAll (.ofScenario liveContents) [shopMaterial, siteMaterial]
      ⟨appsEngine, world⟩
    List.Forall₂ (fun f x => x.1 = f ∧ ∃ revision, x.2 = .ok (.merged revision))
        [shopFingerprint, siteFingerprint] ran.1 ∧
      ran.2.engine.merged.pipelines.map Pipeline.name = [⟨"shop-1"⟩, ⟨"site-1"⟩] := by
  intro world ran
  have hstart : Engine.start (.ofScenario liveContents) {} {} world = (.ok appsEngine, world) := rfl
  have hdistinct : (liveRepositories.map (·.1.fingerprint)).Nodup := by
    simp only [liveRepositories, List.map_cons, List.map_nil, siteMaterial_fingerprint,
      shopMaterial_fingerprint]
    decide
  have hall : ∃ c, merge {} (contributions liveRepositories) = .ok c ∧
      c.pipelines.map Pipeline.name = [⟨"shop-1"⟩, ⟨"site-1"⟩] := by
    rw [contributions_liveRepositories]
    exact ⟨_, rfl, rfl⟩
  have halone : ∀ r ∈ liveRepositories, ∃ c, merge {} (contributions [r]) = .ok c := by
    simp only [liveRepositories, List.forall_mem_cons, contributions_siteMaterial,
      contributions_shopMaterial]
    exact ⟨⟨_, rfl⟩, ⟨_, rfl⟩, by simp⟩
  have hfinds : Running.FindsEach (.ofScenario liveContents) true liveRepositories.reverse
      ⟨appsEngine, world⟩ := by
    have hidle : (Running.run (.ofScenario liveContents) shopMaterial true
        ⟨appsEngine, world⟩).2.engine.tracker.isInProgress siteFingerprint = false := by
      rw [Running.run_tracker]
      rfl
    refine ⟨?_, ?_, trivial⟩
    · rw [Running.Finds, Running.claim?_of_idle shopMaterial_fingerprint rfl,
        shopMaterial_fingerprint]
      exact ⟨"/work/shop", "shop-1", rfl, rfl, World.ofScenario_save rfl⟩
    · rw [Running.Finds, Running.claim?_of_idle siteMaterial_fingerprint hidle,
        siteMaterial_fingerprint, Running.run_of_idle shopMaterial_fingerprint rfl]
      exact ⟨"/work/site", "site-1", rfl, rfl, World.ofScenario_save (by decide +kernel)⟩
  have hran : Running.runEach (.ofScenario liveContents) true (liveRepositories.reverse.map Prod.fst)
      ⟨appsEngine, world⟩ = ran := rfl
  obtain ⟨c, hc, hnames⟩ := hall
  obtain ⟨hanswers, hmerged⟩ := runEach_admits_in_any_order rfl hstart hdistinct hc halone
    (List.reverse_perm liveRepositories) true hfinds
  rw [hran] at hanswers hmerged
  constructor
  · have hfingerprints : liveRepositories.reverse.map (·.1.fingerprint) =
        [shopFingerprint, siteFingerprint] := by
      rw [← siteMaterial_fingerprint, ← shopMaterial_fingerprint]
      rfl
    rw [← hfingerprints, List.forall₂_map_left_iff]
    exact hanswers
  · rw [hmerged, hnames]

end PipelineSync
