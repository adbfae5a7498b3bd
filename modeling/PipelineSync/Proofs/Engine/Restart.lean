import PipelineSync.Proofs.Engine.Agreement

/-!
# Restarts

A record is saved before anything of it becomes visible, so an engine that starts from what is saved
knows what the running one knows. Only faults of working copies are taken over even if they could
not be saved: `isUnsaved` tells of which repositories. `Durable` is the invariant that links the
engine and what is saved, and `restart_durable` is what follows for an engine that starts anew.
-/

namespace PipelineSync

/-- Whether the last record of a repository that was to be taken over could not be saved. -/
def isUnsaved (f : Fingerprint) (events : List Event) : Bool :=
  match ((events.filter fun event => event.fingerprint = f).filterMap Event.saved?).getLast? with
  | some (.error _) => true
  | _ => false

theorem isUnsaved_append (f : Fingerprint) (events : List Event) (event : Event) :
    isUnsaved f (events ++ [event]) =
      if event.fingerprint = f then
        match event.saved? with
        | some (.error _) => true
        | some (.ok ()) => false
        | none => isUnsaved f events
      else isUnsaved f events := by
  rw [isUnsaved, List.filter_append, List.filterMap_append]
  by_cases h : event.fingerprint = f
  · rw [if_pos h, List.filter_cons_of_pos (by simpa using h), List.filter_nil]
    rcases hsaved : event.saved? with _ | _ | _ <;> simp [hsaved, isUnsaved]
  · rw [if_neg h, List.filter_cons_of_neg (by simpa using h)]
    simp [isUnsaved]

/-! ## One repository -/

/-- A saved record agrees with the live one, apart from passwords, and apart from what is wrong
with the working copy if that is `unsaved`. A repository without a record has a blank one. -/
structure SavedAs (saved live : Option UpdateRecord) (unsaved : Bool) : Prop where
  attempted : saved.bind UpdateRecord.lastAttemptedRevision =
    live.bind UpdateRecord.lastAttemptedRevision
  merged : saved.bind UpdateRecord.lastMerged =
    (live.bind UpdateRecord.lastMerged).map Partial.withoutPasswords
  fault : saved.bind UpdateRecord.lastFault = live.bind UpdateRecord.lastFault
  checkout : unsaved = false →
    saved.bind UpdateRecord.lastCheckoutFault = live.bind UpdateRecord.lastCheckoutFault

/-- The engine contributes and reports what the record of a repository says. -/
structure Shows (e : Engine) (f : Fingerprint) : Prop where
  contributes : Contributes e f
  reports : Reports e f

theorem Shows.repository {e : Engine} {f : Fingerprint} (h : Shows e f) :
    e.health.get? (.configRepository f) =
      ((e.records.get? f).bind UpdateRecord.lastFault).map Fault.entry :=
  h.reports.repository

theorem Shows.material {e : Engine} {f : Fingerprint} (h : Shows e f) :
    (e.health.get? (.material f)).map HealthEntry.description =
      ((e.records.get? f).bind UpdateRecord.lastCheckoutFault).map Fault.description := by
  simpa [Function.comp_def] using congrArg (Option.map Prod.snd) h.reports.material

theorem SavedAs.of_saved (r : UpdateRecord) (unsaved : Bool) :
    SavedAs (some r.withoutPasswords) (some r) unsaved :=
  ⟨rfl, rfl, rfl, fun _ => rfl⟩

/-- A record that was not saved may differ in what is wrong with the working copy. -/
theorem SavedAs.of_unsaved {saved live : Option UpdateRecord} {unsaved : Bool} {r : UpdateRecord}
    (h : SavedAs saved live unsaved)
    (hattempted : r.lastAttemptedRevision = live.bind UpdateRecord.lastAttemptedRevision)
    (hmerged : r.lastMerged = live.bind UpdateRecord.lastMerged)
    (hfault : r.lastFault = live.bind UpdateRecord.lastFault) : SavedAs saved (some r) true where
  attempted := h.attempted.trans hattempted.symm
  merged := h.merged.trans (congrArg _ hmerged.symm)
  fault := h.fault.trans hfault.symm
  checkout := nofun

section Effects

variable {event : Event} {e e' : Engine}

/-- What is saved of a repository after an event of its own agrees with the live record. -/
theorem Effect.savedAs (h : Effect event e e') {saved : KeyMap Fingerprint UpdateRecord}
    {unsaved : Bool}
    (he : SavedAs (saved.get? event.fingerprint) (e.records.get? event.fingerprint) unsaved) :
    SavedAs ((event.store e' saved).get? event.fingerprint) (e'.records.get? event.fingerprint)
      (match event.saved? with
        | some (.error _) => true
        | some (.ok ()) => false
        | none => unsaved) := by
  cases h with
  | turnedAway | unchanged | failed | checkoutFine => exact he
  | checkoutFailed f error result title now =>
    -- only here and in the next case is a record taken over that may not have been saved
    rcases result with error | _
    · simp only [Event.store, Event.saved?, Event.fingerprint, KeyMap.get?_insert_self]
      exact he.of_unsaved (e.recordFor_lastAttemptedRevision f now) (e.recordFor_lastMerged f now)
        (e.recordFor_lastFault f now)
    · simpa [Event.store, Event.saved?, Event.fingerprint] using SavedAs.of_saved _ _
  | checkoutCleared f copy result hr now =>
    rcases result with error | _
    · simp only [Event.fingerprint, hr] at he
      simp only [Event.store, Event.saved?, Event.fingerprint, KeyMap.get?_insert_self]
      exact he.of_unsaved rfl rfl rfl
    · simpa [Event.store, Event.saved?, Event.fingerprint] using SavedAs.of_saved _ _
  | accepted | rejected =>
    simpa [Event.store, Event.saved?, Event.fingerprint] using SavedAs.of_saved _ _

end Effects

/-! ## The invariant -/

theorem Event.get?_store_of_ne (e : Engine) (saved : KeyMap Fingerprint UpdateRecord)
    {event : Event} {f : Fingerprint} (hf : f ≠ event.fingerprint) :
    (event.store e saved).get? f = saved.get? f := by
  rw [store]
  split
  · rw [KeyMap.get?_insert, if_neg hf]
  · rfl

theorem Event.store_keyed {e : Engine} {saved : KeyMap Fingerprint UpdateRecord}
    (hkeys : Keyed e.records) (h : Keyed saved) (event : Event) : Keyed (event.store e saved) := by
  rw [store]
  split
  · next r _ hr =>
    have hkey := hkeys _ r hr
    exact h.insert hkey
  · exact h

/-- All that an engine knows can be had from what is saved. -/
structure Durable (localConfig : LocalConfiguration) (saved : KeyMap Fingerprint UpdateRecord)
    (events : List Event) (e : Engine) : Prop where
  holdsMerge : HoldsMerge localConfig e.partials e
  keyed : Keyed e.records
  saved_keyed : Keyed saved
  savedAs : ∀ f, SavedAs (saved.get? f) (e.records.get? f) (isUnsaved f events)
  shows : ∀ f, Shows e f
  nothing_discarded : e.health.get? .global = none

section Invariant

variable {localConfig : LocalConfiguration} {saved : KeyMap Fingerprint UpdateRecord}
  {events : List Event} {e e' : Engine}

theorem Durable.withTracker (h : Durable localConfig saved events e) (tracker : Tracker) :
    Durable localConfig saved events { e with tracker } where
  holdsMerge := ⟨h.holdsMerge.localConfig_eq, rfl, h.holdsMerge.merge_eq⟩
  keyed := h.keyed
  saved_keyed := h.saved_keyed
  savedAs := h.savedAs
  shows f := ⟨(h.shows f).contributes, (h.shows f).reports.withTracker tracker⟩
  nothing_discarded := h.nothing_discarded

theorem Effect.durable {event : Event} (h : Effect event e e')
    (he : Durable localConfig saved events e) :
    Durable localConfig (event.store e' saved) (events ++ [event]) e' where
  holdsMerge := by
    obtain ⟨hlocal, hpartials, hmerge⟩ := h.holdsMerge he.holdsMerge
    exact ⟨hlocal, rfl, hpartials ▸ hmerge⟩
  keyed := h.keyed he.keyed
  saved_keyed := event.store_keyed (h.keyed he.keyed) he.saved_keyed
  savedAs f := by
    rw [isUnsaved_append]
    by_cases hf : event.fingerprint = f
    · subst hf
      rw [if_pos rfl]
      exact h.savedAs (he.savedAs _)
    · rw [if_neg hf, Event.get?_store_of_ne e' saved (Ne.symm hf), (h.frame (Ne.symm hf)).1]
      exact he.savedAs f
  shows f := ⟨h.contributes (he.shows f).contributes, h.reports (he.shows f).reports⟩
  nothing_discarded := h.health_global.trans he.nothing_discarded

theorem Site.Step.durable {σ : Type} {w : World σ} {stored : σ → KeyMap Fingerprint UpdateRecord}
    (hw : w.Keeps stored) {s s' : Site σ} {fresh : List Event} (h : Step w s fresh s')
    (hs : Durable localConfig (stored s.world) events s.engine) :
    Durable localConfig (stored s'.world) (events ++ fresh) s'.engine := by
  rw [h.stored hw hs.keyed]
  rcases h.effect with ⟨rfl, tracker, heq⟩ | ⟨event, rfl, heffect⟩
  · rw [heq, List.append_nil]
    exact hs.withTracker tracker
  · exact heffect.durable hs

end Invariant

/-! ## Starting anew -/

theorem Keyed.map_key_values {saved : KeyMap Fingerprint UpdateRecord} (h : Keyed saved) :
    saved.values.map UpdateRecord.key = saved.keys := by
  rw [KeyMap.values, KeyMap.keys, List.map_map]
  refine List.map_congr_left fun x hx => ?_
  exact h x.1 x.2 (KeyMap.get?_eq_some_iff.2 hx)

theorem Keyed.nodup_key_of_perm {records : List UpdateRecord}
    {saved : KeyMap Fingerprint UpdateRecord}
    (hkeyed : Keyed saved)
    (hperm : (records.map UpdateRecord.withoutPasswords).Perm saved.values) :
    (records.map UpdateRecord.key).Nodup := by
  have hkeys : (records.map UpdateRecord.key).Perm saved.keys := by
    rw [← hkeyed.map_key_values]
    simpa [Function.comp_def, UpdateRecord.withoutPasswords] using
      hperm.map UpdateRecord.key
  exact hkeys.nodup_iff.2 saved.nodup_keys

/-- The records that are loaded are those that are saved, apart from passwords. -/
theorem Keyed.recordOf?_of_perm {records : List UpdateRecord}
    {saved : KeyMap Fingerprint UpdateRecord}
    (hkeyed : Keyed saved)
    (hperm : (records.map UpdateRecord.withoutPasswords).Perm saved.values) (f : Fingerprint) :
    (Engine.recordOf? records f).map UpdateRecord.withoutPasswords = saved.get? f := by
  ext r
  simp only [Option.map_eq_some_iff, Engine.recordOf?_eq_some_iff (hkeyed.nodup_key_of_perm hperm)]
  constructor
  · rintro ⟨r', ⟨hmem, rfl⟩, rfl⟩
    obtain ⟨k, hk⟩ := KeyMap.mem_values_iff.1 (hperm.mem_iff.1 (List.mem_map_of_mem hmem))
    have hkey := hkeyed k _ hk
    rwa [show r'.key = k from hkey]
  · intro hr
    obtain ⟨r', hmem, rfl⟩ :=
      List.mem_map.1 (hperm.mem_iff.2 (KeyMap.mem_values_iff.2 ⟨f, hr⟩))
    have hkey := hkeyed f _ hr
    exact ⟨r', ⟨hmem, hkey⟩, rfl⟩

namespace Engine

variable {σ : Type} {w : World σ} {stored : σ → KeyMap Fingerprint UpdateRecord}

theorem restoreHealth_stored (hw : w.Keeps stored) (s : Running σ) (r : UpdateRecord) :
    stored (restoreHealth w s r).world = stored s.world := by
  rw [restoreHealth]
  cases r.lastFault <;> cases r.lastCheckoutFault <;> simp [Running.setHealth_stored hw]

theorem foldl_restoreHealth_stored (hw : w.Keeps stored) (records : List UpdateRecord)
    (s : Running σ) :
    stored (records.foldl (restoreHealth w) s).world = stored s.world := by
  induction records generalizing s with
  | nil => rfl
  | cons r records ih => rw [List.foldl_cons, ih, restoreHealth_stored hw]

theorem restoreMerged_stored (hw : w.Keeps stored) (ps : KeyMap Fingerprint Partial)
    (s : Running σ) : stored (restoreMerged w ps s).2.world = stored s.world := by
  rw [restoreMerged]
  cases merge s.engine.localConfig ps with
  | ok c => rfl
  | error c => exact (Running.setHealth_stored hw _ _ _ _).trans (hw.log _ _)

/-- Starting saves nothing. -/
theorem start_stored (hw : w.Keeps stored) (localConfig : LocalConfiguration) (health : Health)
    (world : σ) : stored (start w localConfig health world).2 = stored world := by
  have hload := hw.loadAll world
  rw [start]
  rcases hx : w.loadAll world with ⟨e | records, loaded⟩ <;> rw [hx] at hload
  · exact hload
  have hfold := foldl_restoreHealth_stored hw records ⟨{ localConfig, health }, loaded⟩
  dsimp only
  generalize records.foldl (restoreHealth w) ⟨{ localConfig, health }, loaded⟩ = s at hfold ⊢
  have hmerged := restoreMerged_stored hw (restoredPartials records) s
  rcases hx : restoreMerged w (restoredPartials records) s with ⟨e | c, t⟩ <;> rw [hx] at hmerged
  · exact hmerged.trans (hfold.trans hload)
  · exact (hw.log _ _).trans (hmerged.trans (hfold.trans hload))

theorem restored_nil (localConfig : LocalConfiguration) : restored localConfig [] = ∅ := by
  rw [restored]
  cases merge localConfig (restoredPartials []) <;> rfl

/-- An engine that starts without discarding anything knows what is saved. -/
theorem restarted_durable {localConfig : LocalConfiguration} {records : List UpdateRecord}
    {saved : KeyMap Fingerprint UpdateRecord} {c : Configuration} (hkeyed : Keyed saved)
    (hperm : (records.map UpdateRecord.withoutPasswords).Perm saved.values)
    (h : merge localConfig (restoredPartials records) = .ok c) :
    Durable localConfig saved [] (restarted localConfig records {} c) := by
  have hnodup := hkeyed.nodup_key_of_perm hperm
  have hrecords (f : Fingerprint) :
      (restarted localConfig records {} c).records.get? f = recordOf? records f :=
    get?_ofList_records hnodup f
  have hpartials : (restarted localConfig records {} c).partials = restoredPartials records :=
    merge_partials h
  have hkept : restored localConfig records = restoredPartials records := by rw [restored, h]
  refine ⟨⟨rfl, rfl, hpartials.symm ▸ h⟩, ?_, hkeyed, ?_, ?_, ?_⟩
  · intro f r hr
    rw [hrecords, recordOf?_eq_some_iff hnodup] at hr
    exact hr.2
  · intro f
    rw [hrecords, ← hkeyed.recordOf?_of_perm hperm]
    cases recordOf? records f with
    | none => exact ⟨rfl, rfl, rfl, fun _ => rfl⟩
    | some r => exact .of_saved r _
  · exact fun f => ⟨restarted_contributes hnodup (hkept.symm ▸ h) hkept {} f,
      restarted_reports hnodup localConfig c f⟩
  · rw [restarted, restoredHealth, h]
    exact get?_foldl_restore_global records {}

end Engine

/-- What is saved merges as what the engine holds does. -/
theorem Durable.merge_restoredPartials {localConfig : LocalConfiguration}
    {saved : KeyMap Fingerprint UpdateRecord} {events : List Event} {e : Engine}
    (h : Durable localConfig saved events e) {records : List UpdateRecord}
    (hperm : (records.map UpdateRecord.withoutPasswords).Perm saved.values) :
    ∃ c, merge localConfig (Engine.restoredPartials records) = .ok c ∧
      c.withoutPasswords = e.merged.withoutPasswords := by
  have hnodup := h.saved_keyed.nodup_key_of_perm hperm
  have hpartials : ((Engine.restoredPartials records).map fun _ => Partial.withoutPasswords) =
      e.partials.map fun _ => Partial.withoutPasswords := by
    refine KeyMap.ext_get? fun f => ?_
    rw [KeyMap.get?_map, KeyMap.get?_map, Engine.get?_restoredPartials hnodup,
      (h.shows f).contributes, ← (h.savedAs f).merged,
      ← h.saved_keyed.recordOf?_of_perm hperm]
    cases Engine.recordOf? records f <;> rfl
  exact exists_merge_of_eq_withoutPasswords hpartials h.holdsMerge.merge_eq

/-- Engines that can be had from the same records know the same of a repository. -/
theorem Durable.agree {localConfig : LocalConfiguration} {saved : KeyMap Fingerprint UpdateRecord}
    {events : List Event} {live back : Engine} (hlive : Durable localConfig saved events live)
    (hback : Durable localConfig saved [] back) (f : Fingerprint) :
    (back.records.get? f).bind UpdateRecord.lastAttemptedRevision =
      (live.records.get? f).bind UpdateRecord.lastAttemptedRevision ∧
    ((back.records.get? f).bind UpdateRecord.lastMerged).map Partial.withoutPasswords =
      ((live.records.get? f).bind UpdateRecord.lastMerged).map Partial.withoutPasswords ∧
    (back.records.get? f).bind UpdateRecord.lastFault =
      (live.records.get? f).bind UpdateRecord.lastFault ∧
    (isUnsaved f events = false →
      (back.records.get? f).bind UpdateRecord.lastCheckoutFault =
        (live.records.get? f).bind UpdateRecord.lastCheckoutFault) := by
  have hl := hlive.savedAs f
  have hb := hback.savedAs f
  exact ⟨hb.attempted.symm.trans hl.attempted, hb.merged.symm.trans hl.merged,
    hb.fault.symm.trans hl.fault, fun hsaved => (hb.checkout rfl).symm.trans (hl.checkout hsaved)⟩

/-- At every point of a run that starts with nothing saved, all can be had from what is saved. -/
theorem run_durable {σ : Type} {w : World σ} {stored : σ → KeyMap Fingerprint UpdateRecord}
    (hw : w.Keeps stored) {localConfig : LocalConfiguration} {world world' : σ} {e : Engine}
    (hempty : stored world = ∅)
    (hstart : Engine.start w localConfig {} world = (.ok e, world'))
    {moves : List Move} {events : List Event} {s : Site σ}
    (hrun : Site.performAll w moves ⟨⟨e, world'⟩, ∅⟩ = (events, s)) :
    Durable localConfig (stored s.world) events s.engine := by
  obtain ⟨records, c, hload, hmerge, rfl⟩ := Engine.start_eq_ok_iff.1 (congrArg Prod.fst hstart)
  have hperm := hw.loaded world records hload
  have hnil : records = [] := by
    rw [hempty] at hperm
    exact List.map_eq_nil_iff.1 (List.perm_nil.1 hperm)
  subst hnil
  have hworld : stored world' = stored world := by
    rw [← Engine.start_stored hw localConfig {} world, hstart]
  have hkeyed : Keyed (stored world') := by
    rw [hworld, hempty]
    exact nofun
  rw [Engine.restored_nil] at hmerge
  -- nothing was saved, so nothing was restored, and the invariant holds before the first step
  let P (events : List Event) (s : Site σ) : Prop :=
    Durable localConfig (stored s.world) events s.engine
  have hstarted : P [] ⟨⟨Engine.restarted localConfig [] {} c, world'⟩, ∅⟩ :=
    Engine.restarted_durable hkeyed (hworld ▸ hperm) hmerge
  exact Site.performAll_induction P (fun _ _ _ _ hs hstep => hstep.durable hw hs) hstarted hrun

/-- An engine whose records are saved durably can be started anew, at any point of any run and
whatever could not be checked out, read or saved before: with the same local configuration and no
health it takes everything over that is saved, and holds the same configuration, but for passwords.
Every repository has been processed up to the same revision, contributes the same, and has the same
fault, if any. Where no record of a fault of the working copy was lost, that is the same too, and so
is the state of the repository, unless its cycle was running. -/
theorem restart_durable {σ : Type} {w : World σ} {stored : σ → KeyMap Fingerprint UpdateRecord}
    (hw : w.Keeps stored) {localConfig : LocalConfiguration} {world world' : σ} {e : Engine}
    (hempty : stored world = ∅)
    (hstart : Engine.start w localConfig {} world = (.ok e, world'))
    {moves : List Move} {events : List Event} {s : Site σ}
    (hrun : Site.performAll w moves ⟨⟨e, world'⟩, ∅⟩ = (events, s))
    {records : List UpdateRecord} (hload : (w.loadAll s.world).1 = .ok records) :
    ∃ restarted, (Engine.start w localConfig {} s.world).1 = .ok restarted ∧
      merge localConfig (Engine.restoredPartials records) = .ok restarted.merged ∧
      restarted.health.get? .global = none ∧
      restarted.merged.withoutPasswords = s.engine.merged.withoutPasswords ∧
      (restarted.partials.map fun _ => Partial.withoutPasswords) =
        (s.engine.partials.map fun _ => Partial.withoutPasswords) ∧
      ∀ f,
        let live := s.engine.records.get? f
        let back := restarted.records.get? f
        back.bind UpdateRecord.lastAttemptedRevision =
          live.bind UpdateRecord.lastAttemptedRevision ∧
        (back.bind UpdateRecord.lastMerged).map Partial.withoutPasswords =
          (live.bind UpdateRecord.lastMerged).map Partial.withoutPasswords ∧
        back.bind UpdateRecord.lastFault = live.bind UpdateRecord.lastFault ∧
        restarted.health.get? (.configRepository f) =
          s.engine.health.get? (.configRepository f) ∧
        (isUnsaved f events = false →
          back.bind UpdateRecord.lastCheckoutFault = live.bind UpdateRecord.lastCheckoutFault ∧
          (restarted.health.get? (.material f)).map HealthEntry.description =
            (s.engine.health.get? (.material f)).map HealthEntry.description ∧
          (s.engine.tracker.isInProgress f = false → restarted.state f = s.engine.state f)) := by
  have hlive := run_durable hw hempty hstart hrun
  have hperm := hw.loaded s.world records hload
  obtain ⟨c, hmerge, hc⟩ := hlive.merge_restoredPartials hperm
  have hrestored : Engine.restored localConfig records = Engine.restoredPartials records := by
    rw [Engine.restored, hmerge]
  have hback := Engine.restarted_durable hlive.saved_keyed hperm hmerge
  refine ⟨Engine.restarted localConfig records {} c,
    Engine.start_eq_ok_iff.2 ⟨records, c, hload, hrestored ▸ hmerge, rfl⟩, hmerge,
    hback.nothing_discarded, hc, ?_, ?_⟩
  · rw [← merge_partials hlive.holdsMerge.merge_eq]
    exact congrArg Configuration.partials hc
  · intro f live back
    obtain ⟨hattempted, hmerged, hfault, hcheckout⟩ := hlive.agree hback f
    refine ⟨hattempted, hmerged, hfault, ?_, fun hsaved => ⟨hcheckout hsaved, ?_, ?_⟩⟩
    · rw [(hback.shows f).repository, (hlive.shows f).repository, hfault]
    · rw [(hback.shows f).material, (hlive.shows f).material, hcheckout hsaved]
    · intro hidle
      have hmerged' : (back.bind UpdateRecord.lastMerged).isSome =
          (live.bind UpdateRecord.lastMerged).isSome := by
        rw [← Option.isSome_map (f := Partial.withoutPasswords), hmerged, Option.isSome_map]
      rw [Engine.state_eq, Engine.state_eq, hidle, hfault, hcheckout hsaved, hmerged']
      rfl

/-- The shop cannot be checked out, and that cannot be saved. The site is merged, and is so after a
restart. -/
theorem restart_durable_siteAndShop :
    let world : Scenario := {
      refreshes := [.ok ("/work/site", "site-1"), .error (.checkoutFailed "shop" "unreachable")]
      saves := [.error (.persistence "shop.json" "disk full")] }
    let s := (Site.performAll (.ofScenario appsContents) siteAndShop ⟨⟨appsEngine, world⟩, ∅⟩).2
    ∃ restarted, (Engine.start (.ofScenario appsContents) {} {} s.world).1 = .ok restarted ∧
      restarted.merged.withoutPasswords = s.engine.merged.withoutPasswords ∧
      restarted.state siteFingerprint = s.engine.state siteFingerprint := by
  intro world s
  have hstart : Engine.start (.ofScenario appsContents) {} {} world = (.ok appsEngine, world) := rfl
  let run := Site.performAll (.ofScenario appsContents) siteAndShop ⟨⟨appsEngine, world⟩, ∅⟩
  have hload : ((World.ofScenario appsContents).loadAll s.world).1 =
      .ok s.world.records.values := rfl
  obtain ⟨restarted, hrestart, -, -, hmerged, -, hagree⟩ :=
    restart_durable (World.ofScenario_keeps appsContents) rfl hstart (Prod.eta run).symm hload
  obtain ⟨-, -, -, -, hsaved⟩ := hagree siteFingerprint
  have hidle : isUnsaved siteFingerprint run.1 = false ∧
      run.2.engine.tracker.isInProgress siteFingerprint = false := by
    simp only [run, siteAndShop]
    rw [Site.performAll_begin_of_idle siteMaterial_fingerprint (by decide +kernel),
      Site.performAll_begin_of_idle shopMaterial_fingerprint (by decide +kernel)]
    decide +kernel
  obtain ⟨-, -, hstate⟩ := hsaved hidle.1
  exact ⟨restarted, hrestart, hmerged, hstate hidle.2⟩

end PipelineSync
