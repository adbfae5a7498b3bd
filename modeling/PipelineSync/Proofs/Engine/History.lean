import PipelineSync.Proofs.Engine.Restart
import PipelineSync.Settings.Check
import PipelineSync.Sync

/-!
# Histories of syncs

Syncs over one data directory share the records in it. A sync takes no record away, and none but
those of the repositories it is asked for does it change: `Spares`. So what a repository has
contributed once it goes on to contribute, also where it is not declared any more: `sync_partials`.
-/

namespace PipelineSync

variable {σ : Type} {w : World σ} {stored : σ → KeyMap Fingerprint UpdateRecord}

/-! ## What calls leave of other repositories -/

/-- An engine holds the merge of its partials, and its records and those that are saved lie under
their keys. -/
structure Orderly (stored : σ → KeyMap Fingerprint UpdateRecord) (s : Running σ) : Prop where
  holdsMerge : HoldsMerge s.engine.localConfig s.engine.partials s.engine
  keyed : Keyed s.engine.records
  saved_keyed : Keyed (stored s.world)

/-- An engine has gone on in good order, and only the repositories with these fingerprints have
changed what they contribute and what is saved of them. -/
structure Spares (stored : σ → KeyMap Fingerprint UpdateRecord) (asked : List Fingerprint)
    (s s' : Running σ) : Prop where
  orderly : Orderly stored s'
  localConfig : s'.engine.localConfig = s.engine.localConfig
  partials : ∀ f, f ∉ asked → s'.engine.partials.get? f = s.engine.partials.get? f
  saved : ∀ f, f ∉ asked → (stored s'.world).get? f = (stored s.world).get? f

namespace Spares

variable {asked : List Fingerprint} {s s₁ s' : Running σ}

theorem refl (hs : Orderly stored s) (asked : List Fingerprint) : Spares stored asked s s :=
  ⟨hs, rfl, fun _ _ => rfl, fun _ _ => rfl⟩

theorem trans (h : Spares stored asked s s₁) (h₁ : Spares stored asked s₁ s') :
    Spares stored asked s s' where
  orderly := h₁.orderly
  localConfig := h₁.localConfig.trans h.localConfig
  partials f hf := (h₁.partials f hf).trans (h.partials f hf)
  saved f hf := (h₁.saved f hf).trans (h.saved f hf)

theorem mono (h : Spares stored asked s s') {more : List Fingerprint} (hmore : asked ⊆ more) :
    Spares stored more s s' where
  orderly := h.orderly
  localConfig := h.localConfig
  partials f hf := h.partials f (mt (hmore ·) hf)
  saved f hf := h.saved f (mt (hmore ·) hf)

theorem of_effect {event : Event} (hs : Orderly stored s) (h : Effect event s.engine s'.engine)
    (hsaved : stored s'.world = event.store s'.engine (stored s.world)) :
    Spares stored [event.fingerprint] s s' := by
  have hlocal : s'.engine.localConfig = s.engine.localConfig := h.agreeElsewhere.localConfig
  refine ⟨⟨?_, h.keyed hs.keyed, ?_⟩, hlocal, ?_, ?_⟩
  · obtain ⟨-, hpartials, hmerge⟩ := h.holdsMerge hs.holdsMerge
    rw [hlocal]
    exact ⟨hlocal, rfl, hpartials ▸ hmerge⟩
  · rw [hsaved]
    exact event.store_keyed (h.keyed hs.keyed) hs.saved_keyed
  · intro f hf
    exact (h.frame (mt List.mem_singleton.2 hf)).2.1
  · intro f hf
    rw [hsaved]
    exact Event.get?_store_of_ne s'.engine (stored s.world) (mt List.mem_singleton.2 hf)

theorem of_tracker (hs : Orderly stored s) (asked : List Fingerprint)
    (h : ∃ tracker, s'.engine = { s.engine with tracker })
    (hsaved : stored s'.world = stored s.world) : Spares stored asked s s' := by
  obtain ⟨tracker, hengine⟩ := h
  refine ⟨⟨?_, ?_, hsaved ▸ hs.saved_keyed⟩, ?_, fun f _ => ?_, fun f _ => by rw [hsaved]⟩
  · rw [hengine]
    exact ⟨rfl, rfl, hs.holdsMerge.merge_eq⟩
  · rw [hengine]
    exact hs.keyed
  · rw [hengine]
  · rw [hengine]

end Spares

namespace Running

variable {s : Running σ}

theorem cycle_spares (hw : w.Keeps stored) (hs : Orderly stored s) (m : Material)
    (f : Fingerprint) (skipUnchanged : Bool) :
    Spares stored [f] s (s.cycle w m f skipUnchanged).2 := by
  have hfetched : Spares stored [f] s (s.fetch w m f).2 :=
    .of_effect hs (fetch_effect w m f s) (fetch_stored hw hs.keyed m)
  rw [cycle]
  rcases hfetch : s.fetch w m f with ⟨⟨e | ⟨directory, revision⟩, saved⟩, fetched⟩ <;>
    rw [hfetch] at hfetched
  · exact hfetched
  · dsimp only at hfetched ⊢
    split
    · have hsaid : stored (fetched.sayUnchanged w m revision).world = stored fetched.world :=
        hw.log _ _
      exact hfetched.trans (.of_tracker hfetched.orderly [f] ⟨_, rfl⟩ hsaid)
    · have hread : Spares stored [f] fetched
          { fetched with world := (w.parse m directory revision fetched.world).2 } :=
        .of_tracker hfetched.orderly [f] ⟨_, rfl⟩ (hw.parse m directory revision fetched.world)
      refine (hfetched.trans hread).trans ?_
      exact .of_effect hread.orderly (settle_effect w m f revision _ _)
        (settle_stored hw hread.orderly.keyed m revision _)

/-- A call spares all repositories but its own. -/
theorem run_spares (hw : w.Keeps stored) (hs : Orderly stored s) (m : Material)
    (skipUnchanged : Bool) :
    Spares stored [m.fingerprint] s (s.run w m skipUnchanged).2 := by
  have hclaimed : Spares stored [m.fingerprint] s (s.claim? w m).2 :=
    .of_tracker hs _ (claim?_engine w m s) (claim?_stored hw m s)
  rw [run]
  rcases hclaim : s.claim? w m with ⟨_ | token, claimed⟩ <;> rw [hclaim] at hclaimed
  · exact hclaimed
  · have hcycle := cycle_spares hw hclaimed.orderly m m.fingerprint skipUnchanged
    refine (hclaimed.trans hcycle).trans ?_
    exact .of_tracker hcycle.orderly _ ⟨_, rfl⟩ (hw.log _ _)

theorem runEach_spares (hw : w.Keeps stored) (hs : Orderly stored s) (ms : List Material)
    (skipUnchanged : Bool) :
    Spares stored (ms.map Material.fingerprint) s (s.runEach w skipUnchanged ms).2 := by
  induction ms generalizing s with
  | nil => exact .refl hs _
  | cons m ms ih =>
    have hrun := run_spares hw hs m skipUnchanged
    have hrest := ih hrun.orderly
    rw [List.map_cons]
    refine (hrun.mono ?_).trans (hrest.mono ?_)
    · exact List.cons_subset_cons _ (List.nil_subset _)
    · exact List.subset_cons_self _ _

end Running

/-- An engine starts in good order. -/
theorem Engine.start_orderly (hw : w.Keeps stored) {localConfig : LocalConfiguration}
    {health : Health} {world world' : σ} {e : Engine} (hkeyed : Keyed (stored world))
    (hstart : start w localConfig health world = (.ok e, world')) : Orderly stored ⟨e, world'⟩ := by
  obtain ⟨records, c, hload, hmerge, rfl⟩ := start_eq_ok_iff.1 (congrArg Prod.fst hstart)
  have hworld : stored world' = stored world := by
    rw [← start_stored hw localConfig health world, hstart]
  have hnodup := hkeyed.nodup_key_of_perm (hw.loaded world records hload)
  have hpartials : (restarted localConfig records health c).partials =
      restored localConfig records := merge_partials hmerge
  refine ⟨⟨rfl, rfl, hpartials ▸ hmerge⟩, fun f r hr => ?_, hworld ▸ hkeyed⟩
  have hrecord : recordOf? records f = some r := (get?_ofList_records hnodup f).symm.trans hr
  exact ((recordOf?_eq_some_iff hnodup).1 hrecord).2

/-- What is restored of a repository is what its saved record holds, apart from passwords. -/
theorem Keyed.get?_restoredPartials {saved : KeyMap Fingerprint UpdateRecord}
    {records : List UpdateRecord} (hkeyed : Keyed saved)
    (hperm : (records.map UpdateRecord.withoutPasswords).Perm saved.values) (f : Fingerprint) :
    ((Engine.restoredPartials records).get? f).map Partial.withoutPasswords =
      (saved.get? f).bind UpdateRecord.lastMerged := by
  rw [Engine.get?_restoredPartials (hkeyed.nodup_key_of_perm hperm),
    ← hkeyed.recordOf?_of_perm hperm]
  cases Engine.recordOf? records f <;> rfl

/-! ## Syncs -/

/-- Usable settings have a local configuration that stands on its own. -/
theorem Settings.exists_merge_of_check {s : Settings} (h : s.check = .ok s) :
    ∃ c, merge s.localConfig ∅ = .ok c := by
  cases hmerge : merge s.localConfig ∅ with
  | ok c => exact ⟨c, rfl⟩
  | error conflict =>
    rw [check, fault?, hmerge] at h
    cases hfirst : firstFault? [] s.repositories <;> rw [hfirst] at h <;> cases h

/-- With usable settings, an engine starts from all records that can be loaded. -/
theorem Settings.exists_start {s : Settings} (h : s.check = .ok s) {world : σ}
    {records : List UpdateRecord} (hload : (w.loadAll world).1 = .ok records) :
    ∃ e world', s.startEngine w world = (.ok e, world') ∧
      e.localConfig = s.localConfig ∧ e.partials = Engine.restored s.localConfig records := by
  obtain ⟨c, hc⟩ : ∃ c, merge s.localConfig (Engine.restored s.localConfig records) = .ok c := by
    rw [Engine.restored]
    cases hmerge : merge s.localConfig (Engine.restoredPartials records) with
    | ok c => exact ⟨c, hmerge⟩
    | error conflict => exact Settings.exists_merge_of_check h
  have hstart : (s.startEngine w world).1 = .ok (Engine.restarted s.localConfig records {} c) :=
    Engine.start_eq_ok_iff.2 ⟨records, c, hload, hc, rfl⟩
  exact ⟨_, _, Prod.ext hstart rfl, rfl, merge_partials hc⟩

/-- A sync of a history: what surrounds it, and what it is asked for. -/
structure SyncRun (σ : Type) where
  surroundings : World σ
  settings : Settings
  /-- The ids of the repositories that it is asked for; all of them if there is none. -/
  only : List String := []
  force : Bool := false

namespace SyncRun

variable {world : σ} {f : Fingerprint}

def declared (r : SyncRun σ) : List Fingerprint := r.settings.materials.map Material.fingerprint

def materials (r : SyncRun σ) : List Material :=
  (r.settings.select r.only).map Settings.Repository.material

/-- The repositories that the sync is asked for. -/
def asked (r : SyncRun σ) : List Fingerprint := r.materials.map Material.fingerprint

def perform (r : SyncRun σ) (world : σ) : Except Error Synced × σ :=
  r.settings.sync r.surroundings (r.settings.select r.only) r.force world

/-- Does syncs one after another, whatever comes of each. -/
def performAll (runs : List (SyncRun σ)) (world : σ) : σ :=
  runs.foldl (fun world r => (r.perform world).2) world

theorem asked_subset_declared (r : SyncRun σ) : r.asked ⊆ r.declared := by
  have hselect : r.settings.select r.only ⊆ r.settings.repositories := by
    rw [Settings.select]
    split
    · exact List.Subset.refl _
    · exact List.filter_subset_self _
  exact List.map_subset _ (List.map_subset _ hselect)

/-- A sync that starts leaves what its cycles leave. -/
theorem perform_of_start {r : SyncRun σ} {e : Engine} {world' : σ}
    (hstart : r.settings.startEngine r.surroundings world = (.ok e, world')) :
    let s := (Running.runEach r.surroundings (!r.force) r.materials ⟨e, world'⟩).2
    ∃ synced, r.perform world = (.ok synced, s.world) ∧ synced.engine = s.engine := by
  intro s
  let results := (Running.runEach r.surroundings (!r.force) r.materials ⟨e, world'⟩).1
  refine ⟨⟨(r.settings.select r.only).zip (results.map Prod.snd), s.engine⟩, ?_, rfl⟩
  rw [perform, Settings.sync, hstart]
  rfl

/-- A sync spares all that is saved of other repositories, even if it does not start. -/
theorem perform_saved {r : SyncRun σ} (hw : r.surroundings.Keeps stored)
    (hkeyed : Keyed (stored world)) :
    Keyed (stored (r.perform world).2) ∧
      ∀ f, f ∉ r.asked → (stored (r.perform world).2).get? f = (stored world).get? f := by
  have hloaded := Engine.start_stored hw r.settings.localConfig {} world
  rcases hstart : r.settings.startEngine r.surroundings world with ⟨error | e, world'⟩
  · have hfailed : r.perform world = (.error error, world') := by
      rw [perform, Settings.sync, hstart]
    have hworld : stored world' = stored world := by
      rw [Settings.startEngine] at hstart
      rw [← hloaded, hstart]
    rw [hfailed, hworld]
    exact ⟨hkeyed, fun _ _ => rfl⟩
  · obtain ⟨synced, hperform, -⟩ := perform_of_start hstart
    have hspares := Running.runEach_spares hw (Engine.start_orderly hw hkeyed hstart) r.materials
      (!r.force)
    rw [Settings.startEngine] at hstart
    rw [hstart] at hloaded
    rw [hperform, ← hloaded]
    exact ⟨hspares.orderly.saved_keyed, hspares.saved⟩

theorem performAll_saved {runs : List (SyncRun σ)} (hw : ∀ r ∈ runs, r.surroundings.Keeps stored)
    (hkeyed : Keyed (stored world)) :
    Keyed (stored (performAll runs world)) ∧
      ∀ f, (∀ r ∈ runs, f ∉ r.asked) →
        (stored (performAll runs world)).get? f = (stored world).get? f := by
  induction runs generalizing world with
  | nil => exact ⟨hkeyed, fun _ _ => rfl⟩
  | cons r runs ih =>
    obtain ⟨hr, hruns⟩ := List.forall_mem_cons.1 hw
    obtain ⟨hkeyed₁, hsaved₁⟩ := perform_saved hr hkeyed
    obtain ⟨hkeyed', hsaved'⟩ := ih hruns hkeyed₁
    refine ⟨hkeyed', fun f hf => ?_⟩
    obtain ⟨hfr, hfruns⟩ := List.forall_mem_cons.1 hf
    exact (hsaved' f hfruns).trans (hsaved₁ f hfr)

theorem performAll_append (runs later : List (SyncRun σ)) (world : σ) :
    performAll (runs ++ later) world = performAll later (performAll runs world) :=
  List.foldl_append

/-! ## What is merged -/

/-- The records that are saved, and whether they can be restored with a local configuration, say
what is restored of each repository. -/
theorem get?_restored {saved : KeyMap Fingerprint UpdateRecord} {records : List UpdateRecord}
    (hkeyed : Keyed saved)
    (hperm : (records.map UpdateRecord.withoutPasswords).Perm saved.values)
    (localConfig : LocalConfiguration) (f : Fingerprint) :
    ((Engine.restored localConfig records).get? f).map Partial.withoutPasswords =
      if (merge localConfig (Engine.restoredPartials records)).isOk then
        (saved.get? f).bind UpdateRecord.lastMerged
      else none := by
  rw [Engine.restored]
  cases merge localConfig (Engine.restoredPartials records) with
  | ok c => exact hkeyed.get?_restoredPartials hperm f
  | error conflict => rfl

/-- A sync holds what is restored of the repositories that it is not asked for. -/
theorem exists_synced {r : SyncRun σ} (hw : r.surroundings.Keeps stored)
    (hkeyed : Keyed (stored world)) (hvalid : r.settings.check = .ok r.settings)
    {records : List UpdateRecord} (hload : (r.surroundings.loadAll world).1 = .ok records) :
    ∃ synced, (r.perform world).1 = .ok synced ∧
      merge r.settings.localConfig synced.engine.merged.partials = .ok synced.engine.merged ∧
      ∀ f, f ∉ r.asked →
        (synced.engine.merged.partials.get? f).map Partial.withoutPasswords =
          if (merge r.settings.localConfig (Engine.restoredPartials records)).isOk then
            ((stored world).get? f).bind UpdateRecord.lastMerged
          else none := by
  obtain ⟨e, world', hstart, hlocal, hrestored⟩ := Settings.exists_start hvalid hload
  obtain ⟨synced, hperform, hengine⟩ := perform_of_start hstart
  have hspares := Running.runEach_spares hw (Engine.start_orderly hw hkeyed hstart) r.materials
    (!r.force)
  have hmerge := hspares.orderly.holdsMerge.merge_eq
  rw [hspares.localConfig, ← hengine] at hmerge
  have hpartials : synced.engine.merged.partials = synced.engine.partials := merge_partials hmerge
  refine ⟨synced, congrArg Prod.fst hperform, ?_, fun f hf => ?_⟩
  · rw [hpartials, ← hlocal]
    exact hmerge
  · rw [hpartials, hengine, hspares.partials f hf, hrestored]
    exact get?_restored hkeyed (hw.loaded world records hload) r.settings.localConfig f

/-- A sync with usable settings holds what the records say together with what its own cycles have
accepted, or only the latter if the records do not merge with its local configuration. All its
partials are of repositories that have been declared, be it in this sync or in an earlier one, or of
which there was a record before the first. A repository that the sync is not asked for, be it not
selected or not declared any more, contributes what its record said when it was asked for last. The
configuration is the merge of all that. -/
theorem sync_partials (hkeyed : Keyed (stored world)) {before : List (SyncRun σ)} {run : SyncRun σ}
    (hw : ∀ r ∈ before ++ [run], r.surroundings.Keeps stored)
    (hvalid : run.settings.check = .ok run.settings) {records : List UpdateRecord}
    (hload : (run.surroundings.loadAll (performAll before world)).1 = .ok records) :
    ∃ synced, (run.perform (performAll before world)).1 = .ok synced ∧
      merge run.settings.localConfig synced.engine.merged.partials = .ok synced.engine.merged ∧
      (∀ f p, synced.engine.merged.partials.get? f = some p →
        (∃ r ∈ before ++ [run], f ∈ r.declared) ∨ ∃ r, (stored world).get? f = some r) ∧
      ∀ f earlier later, before = earlier ++ later → (∀ r ∈ later ++ [run], f ∉ r.asked) →
        (synced.engine.merged.partials.get? f).map Partial.withoutPasswords =
          if (merge run.settings.localConfig (Engine.restoredPartials records)).isOk then
            ((stored (performAll earlier world)).get? f).bind UpdateRecord.lastMerged
          else none := by
  obtain ⟨hbefore, hrun⟩ := List.forall_mem_append.1 hw
  obtain ⟨hreached, -⟩ := performAll_saved hbefore hkeyed
  obtain ⟨synced, hsynced, hmerge, hothers⟩ :=
    exists_synced (hrun run List.mem_cons_self) hreached hvalid hload
  -- what is saved of a repository stays as long as no sync is asked for it
  have hkept : ∀ f earlier later, before = earlier ++ later →
      (∀ r ∈ later ++ [run], f ∉ r.asked) →
        (synced.engine.merged.partials.get? f).map Partial.withoutPasswords =
          if (merge run.settings.localConfig (Engine.restoredPartials records)).isOk then
            ((stored (performAll earlier world)).get? f).bind UpdateRecord.lastMerged
          else none := by
    rintro f earlier later rfl hasked
    obtain ⟨hlater, hlast⟩ := List.forall_mem_append.1 hasked
    obtain ⟨hearlierKeeps, hlaterKeeps⟩ := List.forall_mem_append.1 hbefore
    obtain ⟨hearlier, -⟩ := performAll_saved hearlierKeeps hkeyed
    rw [hothers f (hlast run List.mem_cons_self), performAll_append,
      (performAll_saved hlaterKeeps hearlier).2 f hlater]
  refine ⟨synced, hsynced, hmerge, fun f p hp => ?_, hkept⟩
  by_contra hnone
  obtain ⟨hdeclared, hstored⟩ := not_or.1 hnone
  have hasked : ∀ r ∈ before ++ [run], f ∉ r.asked :=
    fun r hr hf => hdeclared ⟨r, hr, r.asked_subset_declared hf⟩
  have hblank : (stored world).get? f = none :=
    Option.eq_none_iff_forall_ne_some.2 fun r hr => hstored ⟨r, hr⟩
  have hpartial := hkept f [] before rfl hasked
  rw [hp] at hpartial
  simp [performAll, hblank] at hpartial

/-- A sync while only the site is declared. -/
def ofSite : SyncRun Scenario where
  surroundings := .ofScenario appsContents
  settings := { repositories := [⟨"site", siteMaterial, Settings.supportedPlugin⟩] }

/-- A sync while only the shop is declared. -/
def ofShop : SyncRun Scenario where
  surroundings := .ofScenario appsContents
  settings := { repositories := [⟨"shop", shopMaterial, Settings.supportedPlugin⟩] }

theorem declared_ofShop : ofShop.declared = [shopFingerprint] :=
  congrArg (fun f => [f]) shopMaterial_fingerprint

theorem siteFingerprint_notMem_declared : siteFingerprint ∉ ofShop.declared := by
  rw [declared_ofShop]
  decide

/-- The site is at a revision with a cart, and so is the shop. -/
def twoCarts : Scenario :=
  { refreshes := [.ok ("/work/site", "site-1"), .ok ("/work/shop", "shop-1")] }

theorem sync_partials_siteThenShop :
    ∃ synced, (ofShop.perform (performAll [ofSite] twoCarts)).1 = .ok synced ∧
      (synced.engine.merged.partials.get? siteFingerprint).map Partial.withoutPasswords =
        some (appsPartial "site-1" ["home", "cart"]) := by
  have hkeyed : Keyed twoCarts.stored := nofun
  have hkeeps : ∀ r ∈ [ofSite] ++ [ofShop], r.surroundings.Keeps Scenario.stored := by
    simp [ofSite, ofShop, World.ofScenario_keeps]
  have hload : (ofShop.surroundings.loadAll (performAll [ofSite] twoCarts)).1 =
      .ok (performAll [ofSite] twoCarts).records.values := rfl
  obtain ⟨synced, hsynced, -, -, hpartials⟩ := sync_partials hkeyed hkeeps rfl hload
  have hasked : ∀ r ∈ [] ++ [ofShop], siteFingerprint ∉ r.asked := by
    intro r hr hf
    obtain rfl : r = ofShop := List.mem_singleton.1 hr
    exact siteFingerprint_notMem_declared (ofShop.asked_subset_declared hf)
  refine ⟨synced, hsynced, (hpartials siteFingerprint [ofSite] [] rfl hasked).trans ?_⟩
  decide +kernel

/-- The pipelines of a repository that is not declared any more are still there, and still conflict
with those of another. -/
theorem undeclared_may_stay :
    let synced := (ofShop.perform (performAll [ofSite] twoCarts)).1.toOption
    (ofSite.settings.check = .ok ofSite.settings ∧ ofShop.settings.check = .ok ofShop.settings) ∧
      siteFingerprint ∉ ofShop.declared ∧
      synced.map (fun s =>
        let configuration := s.engine.merged
        (configuration.partials.keys, configuration.pipelines.map fun p => p.name.text,
          s.cycles.map fun c => c.2.toOption)) =
        some ([siteFingerprint], ["home", "cart"],
          [some (.faulted "shop-1" ("Merge conflict for pipeline 'cart': defined in both " ++
            "config repo https://example.com and config repo https://example.com"))]) := by
  refine ⟨⟨rfl, rfl⟩, siteFingerprint_notMem_declared, ?_⟩
  decide +kernel

end SyncRun

end PipelineSync
