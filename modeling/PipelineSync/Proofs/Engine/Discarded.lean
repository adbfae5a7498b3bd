import PipelineSync.Proofs.Engine.Agreement

/-!
# What is discarded at a start

What was accepted of repositories may not go together with the local configuration that an engine
starts with. Then it starts without any of it, and says so, but keeps the records: a repository may
count as merged and contribute nothing. `run_contributes` says that this is so until fragments of
the repository are accepted anew, and that otherwise it contributes what its record tells of.
-/

namespace PipelineSync

/-- Whether fragments of a repository have been accepted. -/
def IsAccepted (f : Fingerprint) (events : List Event) : Prop :=
  ∃ event ∈ events, event.fingerprint = f ∧
    ∃ revision, event.answer? = some (.ok (.merged revision))

theorem not_isAccepted_nil (f : Fingerprint) : ¬IsAccepted f [] := by
  simp [IsAccepted]

theorem isAccepted_append_singleton_iff {f : Fingerprint} {events : List Event} {event : Event} :
    IsAccepted f (events ++ [event]) ↔ IsAccepted f events ∨ IsAccepted f [event] := by
  simp [IsAccepted, or_and_right, exists_or]

/-- Whether the partials in records go together with a local configuration. -/
def IsKept (localConfig : LocalConfiguration) (records : List UpdateRecord) : Prop :=
  ∃ c, merge localConfig (Engine.restoredPartials records) = .ok c

/-- What an engine holds of a repository after events, with what was saved of it last, whether that
was kept or not. -/
structure Accounts (kept : Prop) (saved : Option Partial) (f : Fingerprint) (events : List Event)
    (e : Engine) : Prop where
  contributes : kept ∨ IsAccepted f events → Contributes e f
  discarded : ¬(kept ∨ IsAccepted f events) →
    e.partials.get? f = none ∧ (e.records.get? f).bind UpdateRecord.lastMerged = saved
  reported : ¬kept → e.health.isHealthy .global = false
  published : e.merged.partials = e.partials

section Invariant

variable {event : Event} {e e' : Engine} {f : Fingerprint} {kept : Prop} {saved : Option Partial}
  {events : List Event}

/-- What is accepted is in the record and in the configuration, whatever was there before. -/
theorem Effect.contributes_of_isAccepted (h : Effect event e e') (hf : IsAccepted f [event]) :
    Contributes e' f := by
  obtain ⟨_, hmem, rfl, revision, hanswer⟩ := hf
  obtain rfl := List.mem_singleton.1 hmem
  cases h with
  | accepted _ _ hmerge => simp [Contributes, Event.fingerprint, merge_partials hmerge]
  | checkoutFailed | rejected | failed | turnedAway | unchanged => cases hanswer
  | checkoutFine | checkoutCleared => cases hanswer

theorem Effect.same_of_not_isAccepted (h : Effect event e e') (hf : ¬IsAccepted f [event]) :
    e'.partials.get? f = e.partials.get? f ∧
      (e'.records.get? f).bind UpdateRecord.lastMerged =
        (e.records.get? f).bind UpdateRecord.lastMerged := by
  by_cases hevent : f = event.fingerprint
  · subst hevent
    cases h with
    | accepted f revision =>
      exact absurd ⟨_, List.mem_singleton_self _, rfl, revision, rfl⟩ hf
    | turnedAway | unchanged | failed | checkoutFine => exact ⟨rfl, rfl⟩
    | checkoutCleared _ _ _ hr => simp [Event.fingerprint, hr]
    | checkoutFailed | rejected => simp [Event.fingerprint]
  · obtain ⟨hrecord, hpartial, -, -⟩ := h.frame hevent
    exact ⟨hpartial, congrArg (Option.bind · UpdateRecord.lastMerged) hrecord⟩

theorem Effect.accounts (h : Effect event e e') (he : Accounts kept saved f events e) :
    Accounts kept saved f (events ++ [event]) e' := by
  constructor
  · rw [isAccepted_append_singleton_iff]
    rintro (hkept | hevents | hevent)
    · exact h.contributes (he.contributes (Or.inl hkept))
    · exact h.contributes (he.contributes (Or.inr hevents))
    · exact h.contributes_of_isAccepted hevent
  · rw [isAccepted_append_singleton_iff]
    intro hnot
    have hevent : ¬IsAccepted f [event] := fun hevent => hnot (Or.inr (Or.inr hevent))
    obtain ⟨hpartial, hmerged⟩ := h.same_of_not_isAccepted hevent
    rw [hpartial, hmerged]
    exact he.discarded fun hbefore => hnot (hbefore.imp id Or.inl)
  · intro hkept
    have hreported := he.reported hkept
    rw [Health.isHealthy] at hreported ⊢
    rwa [h.health_global]
  · cases h with
    | accepted => rfl
    | _ => exact he.published

theorem Site.Step.accounts {σ : Type} {w : World σ} {s s' : Site σ} {fresh : List Event}
    (h : Step w s fresh s') (hs : Accounts kept saved f events s.engine) :
    Accounts kept saved f (events ++ fresh) s'.engine := by
  rcases h.effect with ⟨rfl, tracker, heq⟩ | ⟨event, rfl, heffect⟩
  · rw [heq, List.append_nil]
    exact ⟨hs.contributes, hs.discarded, hs.reported, hs.published⟩
  · exact heffect.accounts hs

theorem Engine.restarted_accounts {records : List UpdateRecord}
    {localConfig : LocalConfiguration} {c : Configuration}
    (h : (records.map UpdateRecord.key).Nodup)
    (hmerge : merge localConfig (restored localConfig records) = .ok c) (health : Health)
    (f : Fingerprint) :
    Accounts (IsKept localConfig records) ((recordOf? records f).bind UpdateRecord.lastMerged) f []
      (restarted localConfig records health c) := by
  have hpartials : (restarted localConfig records health c).partials =
      restored localConfig records := merge_partials hmerge
  -- all of it is kept or nothing is, so one half of what is to be shown is idle in each case
  cases hrestored : merge localConfig (restoredPartials records) with
  | ok c' =>
    have hkept : restored localConfig records = restoredPartials records := by
      rw [restored, hrestored]
    refine ⟨fun _ => restarted_contributes h hmerge hkept health f, fun hnot => ?_,
      fun hnot => ?_, rfl⟩
    · exact absurd (Or.inl ⟨c', hrestored⟩) hnot
    · exact absurd ⟨c', hrestored⟩ hnot
  | error conflict =>
    have hnot : ¬(IsKept localConfig records ∨ IsAccepted f []) := by
      rintro (⟨c', hc'⟩ | hnil)
      · rw [hrestored] at hc'
        cases hc'
      · exact not_isAccepted_nil f hnil
    refine ⟨fun hkept => absurd hkept hnot, fun _ => ?_, fun _ => ?_, rfl⟩
    · rw [hpartials, restored, hrestored]
      have hrecord : (restarted localConfig records health c).records.get? f =
          recordOf? records f := get?_ofList_records h f
      exact ⟨KeyMap.get?_empty f, by rw [hrecord]⟩
    · have hglobal : (restarted localConfig records health c).health.get? .global =
          some ⟨.error, discardedMessage, conflict.toError.message⟩ := by
        rw [restarted, restoredHealth, hrestored, Health.get?_error, if_pos rfl]
      rw [Health.isHealthy, hglobal]
      rfl

end Invariant

theorem Engine.exists_lastMerged_of_merged {e : Engine} {f : Fingerprint}
    (h : e.state f = .merged) :
    ∃ p, (e.records.get? f).bind UpdateRecord.lastMerged = some p := by
  rw [state_eq] at h
  split at h
  · cases h
  · split at h
    · cases h
    · split at h
      · next hmerged => exact Option.isSome_iff_exists.1 hmerged
      · cases h

/-- At every point of a run that starts with records of different repositories: if all that was
restored of them goes together with the local configuration, or fragments of a repository have been
accepted since, then it contributes what its record tells of, and if it counts as merged, that is in
the merged configuration. Otherwise it contributes nothing, and the health of the engine says that
something was discarded, but its record still tells of what was saved. -/
theorem run_contributes {σ : Type} {w : World σ} {localConfig : LocalConfiguration}
    {health : Health} {world world' : σ} {e : Engine}
    (hstart : Engine.start w localConfig health world = (.ok e, world'))
    {records : List UpdateRecord} (hload : (w.loadAll world).1 = .ok records)
    (hnodup : (records.map UpdateRecord.key).Nodup)
    {moves : List Move} {events : List Event} {s : Site σ}
    (hrun : Site.performAll w moves ⟨⟨e, world'⟩, ∅⟩ = (events, s)) (f : Fingerprint) :
    let lastMerged := (s.engine.records.get? f).bind UpdateRecord.lastMerged
    (IsKept localConfig records ∨ IsAccepted f events →
      s.engine.latestPartial? f = lastMerged ∧
        (s.engine.state f = .merged →
          ∃ p, lastMerged = some p ∧ s.engine.merged.partials.get? f = some p)) ∧
    (¬(IsKept localConfig records ∨ IsAccepted f events) →
      s.engine.latestPartial? f = none ∧ s.engine.health.isHealthy .global = false ∧
        lastMerged = (Engine.recordOf? records f).bind UpdateRecord.lastMerged) := by
  obtain ⟨records', c, hload', hmerge, rfl⟩ := Engine.start_eq_ok_iff.1 (congrArg Prod.fst hstart)
  obtain rfl : records = records' := Except.ok.inj (hload.symm.trans hload')
  have haccounts : Accounts (IsKept localConfig records) _ f events s.engine :=
    Site.performAll_induction (fun events s => Accounts _ _ f events s.engine)
      (fun _ _ _ _ hs hstep => hstep.accounts hs)
      (Engine.restarted_accounts hnodup hmerge health f) hrun
  intro lastMerged
  refine ⟨fun hkept => ?_, fun hnot => ?_⟩
  · have hcontributes := haccounts.contributes hkept
    refine ⟨hcontributes, fun hstate => ?_⟩
    obtain ⟨p, hp⟩ := Engine.exists_lastMerged_of_merged hstate
    refine ⟨p, hp, ?_⟩
    rw [haccounts.published]
    exact hcontributes.trans hp
  · obtain ⟨hnothing, hmerged⟩ := haccounts.discarded hnot
    exact ⟨hnothing, haccounts.reported fun hkept => hnot (Or.inl hkept), hmerged⟩

/-- A record of the site, as it was when the site was merged. -/
def siteRecord : UpdateRecord where
  key := siteFingerprint
  lastAttemptedRevision := some "site-1"
  lastMerged := some (appsPartial "site-1" ["home", "cart"])
  updatedAt := default

/-- A local configuration that has a pipeline of the site by now. -/
def homeLocal : LocalConfiguration := { groups := [⟨"ops", [{ name := ⟨"home"⟩ }]⟩] }

/-- The record of the site is saved, and the site will be found at a revision that does without its
home. -/
def homeWorld : Scenario where
  refreshes := [.ok ("/work/site", "shop-1")]
  records := (∅ : RecordTable).save siteRecord

/-- An engine that starts with the record and the local configuration. -/
def homeEngine : Engine :=
  ((Engine.start (.ofScenario appsContents) homeLocal {} homeWorld).1.toOption).getD default

/-- The site is discarded at the start, and comes back with a cycle. -/
theorem run_contributes_site :
    let moves : List Move := [.begin siteMaterial true, .advance siteFingerprint,
      .advance siteFingerprint, .advance siteFingerprint, .leave siteFingerprint]
    let s := (Site.performAll (.ofScenario appsContents) moves ⟨⟨homeEngine, homeWorld⟩, ∅⟩).2
    (homeEngine.latestPartial? siteFingerprint = none ∧
      homeEngine.health.isHealthy .global = false ∧
      (homeEngine.records.get? siteFingerprint).bind UpdateRecord.lastMerged =
        siteRecord.lastMerged) ∧
    s.engine.latestPartial? siteFingerprint =
        (s.engine.records.get? siteFingerprint).bind UpdateRecord.lastMerged ∧
      ∃ p, s.engine.merged.partials.get? siteFingerprint = some p := by
  intro moves s
  have hstart : Engine.start (.ofScenario appsContents) homeLocal {} homeWorld =
      (.ok homeEngine, homeWorld) := rfl
  have hload : ((World.ofScenario appsContents).loadAll homeWorld).1 = .ok [siteRecord] := rfl
  have hnodup : ([siteRecord].map UpdateRecord.key).Nodup := List.nodup_singleton _
  let run := Site.performAll (.ofScenario appsContents) moves ⟨⟨homeEngine, homeWorld⟩, ∅⟩
  constructor
  · have hdiscarded : ¬IsKept homeLocal [siteRecord] := by
      have hmerge : (merge homeLocal (Engine.restoredPartials [siteRecord])).toOption = none := by
        decide +kernel
      rintro ⟨c, hc⟩
      rw [hc] at hmerge
      cases hmerge
    have hstarted : Site.performAll (.ofScenario appsContents) [] ⟨⟨homeEngine, homeWorld⟩, ∅⟩ =
        ([], ⟨⟨homeEngine, homeWorld⟩, ∅⟩) := rfl
    obtain ⟨hnothing, hunhealthy, hmerged⟩ :=
      (run_contributes hstart hload hnodup hstarted siteFingerprint).2
        (not_or.2 ⟨hdiscarded, not_isAccepted_nil _⟩)
    exact ⟨hnothing, hunhealthy, hmerged⟩
  · have hrun : (run.1.any fun event => event.fingerprint = siteFingerprint ∧
          event.answer? = some (.ok (.merged "shop-1"))) = true ∧
        run.2.engine.state siteFingerprint = .merged := by
      simp only [run, moves]
      rw [Site.performAll_begin_of_idle siteMaterial_fingerprint (by decide +kernel)]
      decide +kernel
    obtain ⟨hany, hmerged⟩ := hrun
    obtain ⟨event, hmem, hevent⟩ := List.any_eq_true.1 hany
    obtain ⟨hf, hanswer⟩ := of_decide_eq_true hevent
    have haccepted : IsAccepted siteFingerprint run.1 := ⟨event, hmem, hf, "shop-1", hanswer⟩
    obtain ⟨hpartial, hstate⟩ := (run_contributes hstart hload hnodup (Prod.eta run).symm
      siteFingerprint).1 (Or.inr haccepted)
    obtain ⟨p, -, hp⟩ := hstate hmerged
    exact ⟨hpartial, p, hp⟩

/-- The site counts as merged after the start and is in no configuration. Where a repository has two
records, one of them may tell of a partial that the other does not tell of. -/
theorem merged_may_be_discarded :
    let w := World.ofScenario appsContents
    let twice := { w with
      loadAll := fun world => (.ok [siteRecord, { siteRecord with lastMerged := none }], world) }
    (∃ e, Engine.start w homeLocal {} homeWorld = (.ok e, homeWorld) ∧
      e.state siteFingerprint = .merged ∧
      ((e.records.get? siteFingerprint).bind UpdateRecord.lastMerged).isSome = true ∧
      e.latestPartial? siteFingerprint = none ∧
      e.merged.partials.get? siteFingerprint = none) ∧
    ∃ e, Engine.start twice {} {} homeWorld = (.ok e, homeWorld) ∧
      (e.records.get? siteFingerprint).bind UpdateRecord.lastMerged = none ∧
      (e.latestPartial? siteFingerprint).isSome = true := by
  refine ⟨⟨_, rfl, ?_⟩, _, rfl, ?_⟩
  · decide +kernel
  · decide +kernel

end PipelineSync
