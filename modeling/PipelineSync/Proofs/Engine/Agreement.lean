import PipelineSync.Proofs.Engine.Frame

/-!
# Records, health and states

What is wrong with a repository is told twice, by its record and by the health of the engine, and
its state is computed from the record. `Reports` says that the two agree. `run_agrees` says that
they always do, and what the state of a repository is after a cycle of it.
-/

namespace PipelineSync

/-- Health shows those faults of a repository that its record tells of. A working copy that could
not be brought up to date is shown under a title of its own. -/
structure Reports (e : Engine) (f : Fingerprint) : Prop where
  repository : e.health.get? (.configRepository f) =
    ((e.records.get? f).bind UpdateRecord.lastFault).map Fault.entry
  material : (e.health.get? (.material f)).map (fun entry => (entry.severity, entry.description)) =
    ((e.records.get? f).bind UpdateRecord.lastCheckoutFault).map
      fun fault => (.error, fault.description)

/-- A repository contributes what its record tells of. -/
def Contributes (e : Engine) (f : Fingerprint) : Prop :=
  e.partials.get? f = (e.records.get? f).bind UpdateRecord.lastMerged

theorem Engine.state_eq (e : Engine) (f : Fingerprint) :
    e.state f =
      if e.tracker.isInProgress f then .inProgress
      else if ((e.records.get? f).bind UpdateRecord.lastFault).isSome ||
          ((e.records.get? f).bind UpdateRecord.lastCheckoutFault).isSome then
        .faultedKeepingPrevious
      else if ((e.records.get? f).bind UpdateRecord.lastMerged).isSome then .merged
      else .unattempted := by
  rw [state]
  cases e.records.get? f <;> rfl

namespace Reports

variable {e : Engine} {f : Fingerprint}

theorem withTracker (h : Reports e f) (tracker : Tracker) : Reports { e with tracker } f :=
  ⟨h.repository, h.material⟩

theorem isHealthy_repository (h : Reports e f) :
    e.health.isHealthy (.configRepository f) =
      ((e.records.get? f).bind UpdateRecord.lastFault).isNone := by
  rw [Health.isHealthy, h.repository]
  cases (e.records.get? f).bind UpdateRecord.lastFault <;> rfl

theorem isHealthy_material (h : Reports e f) :
    e.health.isHealthy (.material f) =
      ((e.records.get? f).bind UpdateRecord.lastCheckoutFault).isNone := by
  have hmaterial := h.material
  rw [Health.isHealthy]
  cases hfault : (e.records.get? f).bind UpdateRecord.lastCheckoutFault with
  | none =>
    rw [hfault, Option.map_none, Option.map_eq_none_iff] at hmaterial
    rw [hmaterial]
    rfl
  | some fault =>
    rw [hfault] at hmaterial
    obtain ⟨entry, hentry, hsame⟩ := Option.map_eq_some_iff.1 hmaterial
    have herror : entry.severity = .error := congrArg Prod.fst hsame
    simp [hentry, herror]

/-- A repository has a fault while one of its scopes is unhealthy. -/
theorem state_eq_faultedKeepingPrevious_iff (h : Reports e f)
    (hidle : e.tracker.isInProgress f = false) :
    e.state f = .faultedKeepingPrevious ↔
      e.health.isHealthy (.configRepository f) = false ∨
        e.health.isHealthy (.material f) = false := by
  rw [Engine.state_eq, hidle, h.isHealthy_repository, h.isHealthy_material]
  cases (e.records.get? f).bind UpdateRecord.lastFault with
  | some fault => simp
  | none =>
    cases (e.records.get? f).bind UpdateRecord.lastCheckoutFault with
    | some fault => simp
    | none => cases (e.records.get? f).bind UpdateRecord.lastMerged <;> simp

end Reports

/-! ## What events change of it -/

section Effects

variable {event : Event} {e e' : Engine} {f : Fingerprint}

theorem Effect.reports (h : Effect event e e') (hf : Reports e f) : Reports e' f := by
  obtain ⟨hrepository, hmaterial⟩ := hf
  by_cases hevent : f = event.fingerprint
  · subst hevent
    cases h with
    | turnedAway | unchanged | failed => exact ⟨hrepository, hmaterial⟩
    | checkoutFailed =>
      constructor
      · simpa [Event.fingerprint, Health.get?_error] using hrepository
      · simp [Event.fingerprint, Health.get?_error]
    | checkoutFine f copy hnone =>
      constructor
      · simpa [Event.fingerprint, Health.get?_clear] using hrepository
      · rcases hr : e.records.get? f with _ | r
        · simp [Event.fingerprint, Health.get?_clear, hr]
        · simp [Event.fingerprint, Health.get?_clear, hr, hnone r hr]
    | checkoutCleared f copy saved hr =>
      constructor
      · simpa [Event.fingerprint, Health.get?_clear, hr] using hrepository
      · simp [Event.fingerprint, Health.get?_clear]
    | accepted =>
      constructor
      · simp [Event.fingerprint, Health.get?_clear]
      · simpa [Event.fingerprint, Health.get?_clear] using hmaterial
    | rejected =>
      constructor
      · simp [Event.fingerprint, Health.get?_error, Fault.entry]
      · simpa [Event.fingerprint, Health.get?_error] using hmaterial
  · obtain ⟨hrecord, -, hmaterial', hrepository'⟩ := h.frame hevent
    exact ⟨hrepository'.trans (hrecord ▸ hrepository), hrecord ▸ hmaterial' ▸ hmaterial⟩

theorem Effect.contributes (h : Effect event e e') (hf : Contributes e f) : Contributes e' f := by
  rw [Contributes] at hf ⊢
  by_cases hevent : f = event.fingerprint
  · subst hevent
    cases h with
    | turnedAway | unchanged | failed | checkoutFine => exact hf
    | checkoutFailed => simpa [Event.fingerprint] using hf
    | checkoutCleared f copy saved hr => simpa [Event.fingerprint, hr] using hf
    | accepted _ _ hmerge => simp [Event.fingerprint, merge_partials hmerge]
    | rejected => simpa [Event.fingerprint] using hf
  · obtain ⟨hrecord, hpartial, -, -⟩ := h.frame hevent
    rw [hrecord, hpartial, hf]

end Effects

/-! ## What an engine starts with -/

namespace Engine

variable {records : List UpdateRecord} {localConfig : LocalConfiguration} {c : Configuration}

theorem restarted_reports (h : (records.map UpdateRecord.key).Nodup)
    (localConfig : LocalConfiguration) (c : Configuration) (f : Fingerprint) :
    Reports (restarted localConfig records {} c) f := by
  have hrecord : (restarted localConfig records {} c).records.get? f = recordOf? records f :=
    get?_ofList_records h f
  constructor
  · rw [hrecord]
    exact (get?_restoredHealth_repository h localConfig {} f).trans Option.or_none
  · have hmaterial := get?_restoredHealth_material h localConfig {} f
    rw [hrecord]
    refine (congrArg _ (hmaterial.trans Option.or_none)).trans ?_
    rw [Option.map_map]
    rfl

/-- Unless what was restored had to be discarded. -/
theorem restarted_contributes (h : (records.map UpdateRecord.key).Nodup)
    (hmerge : merge localConfig (restored localConfig records) = .ok c)
    (hkept : restored localConfig records = restoredPartials records) (health : Health)
    (f : Fingerprint) : Contributes (restarted localConfig records health c) f := by
  have hpartials : (restarted localConfig records health c).partials = restoredPartials records :=
    (merge_partials hmerge).trans hkept
  rw [Contributes, hpartials, get?_restoredPartials h]
  exact congrArg (Option.bind · UpdateRecord.lastMerged) (get?_ofList_records h f).symm

end Engine

/-! ## After a cycle -/

/-- Whether it is no event of a cycle, but that there was none. -/
def Event.isTurnedAway : Event → Bool
  | turnedAway _ => true
  | _ => false

/-- What the cycles of a repository have come to in the end: the answer that their last event is, if
it is one. -/
def lastAnswer? (f : Fingerprint) (events : List Event) : Option (Except Error CycleOutcome) :=
  (events.filter fun event => event.fingerprint = f && !event.isTurnedAway).getLast?.bind
    Event.answer?

theorem lastAnswer?_append (f : Fingerprint) (events : List Event) (event : Event) :
    lastAnswer? f (events ++ [event]) =
      if event.fingerprint = f && !event.isTurnedAway then event.answer?
      else lastAnswer? f events := by
  rw [lastAnswer?, List.filter_append, List.filter_cons, List.filter_nil]
  split
  · rw [List.getLast?_append, List.getLast?_singleton]
    rfl
  · rw [List.append_nil, lastAnswer?]

/-- What the record of a repository tells after the answer of a cycle. -/
def Bears (r : Option UpdateRecord) : Option (Except Error CycleOutcome) → Prop
  | some (.ok (.merged _)) =>
    r.bind UpdateRecord.lastFault = none ∧ r.bind UpdateRecord.lastCheckoutFault = none ∧
      (r.bind UpdateRecord.lastMerged).isSome = true
  | some (.ok (.faulted _ _)) => (r.bind UpdateRecord.lastFault).isSome = true
  | some (.ok (.checkoutFailed _)) => (r.bind UpdateRecord.lastCheckoutFault).isSome = true
  | _ => True

/-- No fault of the working copy of a repository is known. -/
def IsUpToDate (e : Engine) (f : Fingerprint) : Prop :=
  (e.records.get? f).bind UpdateRecord.lastCheckoutFault = none

/-- Whether what an event settles is read from a working copy. -/
def Event.isSettled : Event → Bool
  | settled .. => true
  | _ => false

section Effects

variable {event : Event} {e e' : Engine} {f : Fingerprint}

theorem Effect.eq_of_isTurnedAway (h : Effect event e e') (hturned : event.isTurnedAway = true) :
    e' = e := by
  cases h with
  | turnedAway => rfl
  | _ => cases hturned

/-- A cycle may only be accepted with a working copy that is up to date. -/
theorem Effect.bears (h : Effect event e e')
    (hcopy : event.isSettled = true → IsUpToDate e event.fingerprint) :
    Bears (e'.records.get? event.fingerprint) event.answer? := by
  cases h with
  | checkoutFailed | rejected => simp [Event.fingerprint, Event.answer?, Bears]
  | accepted f revision =>
    have hcopy : IsUpToDate e f := hcopy rfl
    simpa [Event.fingerprint, Event.answer?, Bears, IsUpToDate] using hcopy
  | turnedAway | unchanged | checkoutFine | checkoutCleared | failed => trivial

theorem Effect.isUpToDate_of_fetched {copy : String × String} {saved : Option (Except Error Unit)}
    (h : Effect (.fetched f ⟨.ok copy, saved⟩) e e') : IsUpToDate e' f := by
  rw [IsUpToDate]
  cases h with
  | checkoutFine _ _ hnone =>
    rcases hr : e.records.get? f with _ | r
    · rfl
    · exact hnone r hr
  | checkoutCleared => simp

end Effects

/-- Whether the working copy of a cycle has been brought up to date. -/
def CycleStage.hasCopy : CycleStage → Bool
  | fetched .. | parsed .. => true
  | claimed | answered => false

namespace Site

variable {σ : Type} {w : World σ} {s s' : Site σ} {events fresh : List Event} {f : Fingerprint}

/-- What is known of every repository agrees, wherever its cycle stands. -/
structure Agrees (events : List Event) (s : Site σ) : Prop where
  tracked : s.Tracked
  reports : ∀ f, Reports s.engine f
  copies : ∀ f c, s.cycles.get? f = some c → c.stage.hasCopy = true → IsUpToDate s.engine f
  bears : ∀ f, Bears (s.engine.records.get? f) (lastAnswer? f events)

theorem Agrees.copies_insert (hs : s.Agrees events) {c d : OpenCycle} {g : Fingerprint}
    (hd : (s.cycles.insert f c).get? g = some d) (hstage : d.stage.hasCopy = true)
    {running : Running σ}
    (hrecords : ∀ g, g ≠ f → running.engine.records.get? g = s.engine.records.get? g)
    (hcopy : c.stage.hasCopy = true → IsUpToDate running.engine f) :
    IsUpToDate running.engine g := by
  rw [KeyMap.get?_insert] at hd
  split at hd
  · next hg =>
    obtain rfl := Option.some.inj hd
    exact hg ▸ hcopy hstage
  · next hg =>
    rw [IsUpToDate, hrecords g hg]
    exact hs.copies g d hd hstage

/-- A cycle has a working copy that is up to date from when it was brought up to date until it
answers: no other cycle of its repository runs meanwhile. -/
theorem Step.copies (h : Step w s fresh s') (hs : s.Agrees events) {g : Fingerprint}
    {d : OpenCycle} (hd : s'.cycles.get? g = some d) (hstage : d.stage.hasCopy = true) :
    IsUpToDate s'.engine g := by
  cases h with
  | idle => exact hs.copies g d hd hstage
  | turnedAway m h =>
    have hengine : (s.running.claim? w m).2.engine = s.engine :=
      Running.claim?_engine_of_none h
    change IsUpToDate (s.running.claim? w m).2.engine g
    rw [hengine]
    exact hs.copies g d hd hstage
  | claimed m token skipUnchanged h =>
    have hengine := (Running.claim?_engine_of_some h).2
    refine hs.copies_insert hd hstage (fun g _ => ?_) (absurd · Bool.false_ne_true)
    rw [hengine]
    rfl
  | @fetched f c hc stage hparsed hcopy =>
    -- the one step that makes a copy of it: its event clears the fault, if there was one
    have heffect := Running.fetch_effect w c.material f s.running
    refine hs.copies_insert hd hstage (fun g hg => (heffect.frame hg).1) fun hstage => ?_
    cases stage with
    | fetched directory revision =>
      have hfetched := hcopy directory revision rfl
      rcases hx : (s.running.fetch w c.material f).1 with ⟨copy, saved⟩
      rw [hx] at heffect hfetched
      obtain rfl : copy = .ok (directory, revision) := hfetched
      exact heffect.isUpToDate_of_fetched
    | parsed revision parsed => exact absurd rfl (hparsed revision parsed)
    | claimed | answered => cases hstage
  | unchanged hc =>
    exact hs.copies_insert hd hstage (fun _ _ => rfl) (absurd · Bool.false_ne_true)
  | @parsed f c hc directory revision hfetched =>
    have hcopy : IsUpToDate s.engine f := hs.copies f c hc (by rw [hfetched]; rfl)
    exact hs.copies_insert hd hstage (fun _ _ => rfl) fun _ => hcopy
  | @settled f c hc revision parsed =>
    have heffect := Running.settle_effect w c.material f revision parsed s.running
    exact hs.copies_insert hd hstage (fun g hg => (heffect.frame hg).1)
      (absurd · Bool.false_ne_true)
  | left hc =>
    rw [leave, KeyMap.get?_erase] at hd
    split at hd
    · cases hd
    · exact hs.copies g d hd hstage

theorem Step.isUpToDate_of_settled (h : Step w s fresh s') (hs : s.Agrees events) {event : Event}
    (hevent : event ∈ fresh) (hsettled : event.isSettled = true) :
    IsUpToDate s.engine event.fingerprint := by
  cases h with
  | @settled f c hc revision parsed hstage =>
    obtain rfl := List.mem_singleton.1 hevent
    exact hs.copies f c hc (by rw [hstage]; rfl)
  | idle | claimed | parsed | left => cases hevent
  | turnedAway | fetched | unchanged =>
    obtain rfl := List.mem_singleton.1 hevent
    cases hsettled

theorem Step.agrees (h : Step w s fresh s') (hs : s.Agrees events) :
    s'.Agrees (events ++ fresh) := by
  refine ⟨h.tracked hs.tracked, ?_, fun g d hd hstage => h.copies hs hd hstage, ?_⟩ <;> intro f
  · rcases h.effect with ⟨-, tracker, heq⟩ | ⟨event, -, heffect⟩
    · rw [heq]
      exact (hs.reports f).withTracker tracker
    · exact heffect.reports (hs.reports f)
  · rcases h.effect with ⟨rfl, tracker, heq⟩ | ⟨event, rfl, heffect⟩
    · rw [heq, List.append_nil]
      exact hs.bears f
    · -- only an event of the repository itself changes its record or its last answer
      rw [lastAnswer?_append]
      by_cases hf : event.fingerprint = f
      · subst hf
        cases hturned : event.isTurnedAway with
        | false =>
          have hcopy := h.isUpToDate_of_settled hs (List.mem_singleton_self event)
          simpa using heffect.bears hcopy
        | true =>
          rw [heffect.eq_of_isTurnedAway hturned]
          simpa using hs.bears event.fingerprint
      · rw [(heffect.frame (Ne.symm hf)).1]
        simpa [hf] using hs.bears f

theorem agrees_of_restarted {records : List UpdateRecord}
    (h : (records.map UpdateRecord.key).Nodup) (localConfig : LocalConfiguration)
    (c : Configuration) (world : σ) :
    Agrees [] ⟨⟨Engine.restarted localConfig records {} c, world⟩, ∅⟩ where
  tracked := ⟨by simp, fun _ => rfl⟩
  reports := Engine.restarted_reports h localConfig c
  copies := by simp
  bears _ := trivial

/-- While no cycle of a repository is open, it is not in progress. -/
theorem Tracked.isInProgress_eq_false (h : s.Tracked) (hf : s.cycles.get? f = none) :
    s.engine.tracker.isInProgress f = false := by
  rw [h.isInProgress, KeyMap.contains, hf]
  rfl

end Site

section States

variable {e : Engine} {f : Fingerprint} (hidle : e.tracker.isInProgress f = false)
include hidle

theorem Engine.state_eq_merged {revision : String}
    (h : Bears (e.records.get? f) (some (.ok (.merged revision)))) : e.state f = .merged := by
  obtain ⟨hfault, hcheckout, hmerged⟩ := h
  rw [state_eq, hidle, hfault, hcheckout, hmerged]
  rfl

theorem Engine.state_eq_of_lastFault
    (h : ((e.records.get? f).bind UpdateRecord.lastFault).isSome = true) :
    e.state f = .faultedKeepingPrevious := by
  rw [state_eq, hidle, h]
  rfl

theorem Engine.state_eq_of_lastCheckoutFault
    (h : ((e.records.get? f).bind UpdateRecord.lastCheckoutFault).isSome = true) :
    e.state f = .faultedKeepingPrevious := by
  rw [state_eq, hidle, h, Bool.or_true]
  rfl

end States

/-- At every point of a run that starts with no health and with records of different repositories,
health shows of a repository just what its record tells of: the fault of its fragments, word for
word, and that of its working copy, with the same description. So a repository that is not in
progress keeps something in spite of a fault while one of its scopes is unhealthy. If its last cycle
was merged, both scopes are healthy and the repository is merged; if its last cycle was rejected or
could not check it out, it has a fault. -/
theorem run_agrees {σ : Type} {w : World σ} {localConfig : LocalConfiguration} {world world' : σ}
    {e : Engine} (hstart : Engine.start w localConfig {} world = (.ok e, world'))
    {records : List UpdateRecord} (hload : (w.loadAll world).1 = .ok records)
    (hnodup : (records.map UpdateRecord.key).Nodup)
    {moves : List Move} {events : List Event} {s : Site σ}
    (hrun : Site.performAll w moves ⟨⟨e, world'⟩, ∅⟩ = (events, s)) (f : Fingerprint) :
    let record := s.engine.records.get? f
    let health := s.engine.health
    let idle := s.engine.tracker.isInProgress f = false
    health.get? (.configRepository f) = (record.bind UpdateRecord.lastFault).map Fault.entry ∧
    (health.get? (.material f)).map (fun entry => (entry.severity, entry.description)) =
      (record.bind UpdateRecord.lastCheckoutFault).map (fun fault => (.error, fault.description)) ∧
    (idle → (s.engine.state f = .faultedKeepingPrevious ↔
      health.isHealthy (.configRepository f) = false ∨ health.isHealthy (.material f) = false)) ∧
    (s.cycles.get? f = none → idle) ∧
    (∀ revision, lastAnswer? f events = some (.ok (.merged revision)) →
      health.isHealthy (.configRepository f) = true ∧ health.isHealthy (.material f) = true ∧
        (idle → s.engine.state f = .merged)) ∧
    (∀ revision message, lastAnswer? f events = some (.ok (.faulted revision message)) →
      idle → s.engine.state f = .faultedKeepingPrevious) ∧
    (∀ message, lastAnswer? f events = some (.ok (.checkoutFailed message)) →
      idle → s.engine.state f = .faultedKeepingPrevious) := by
  obtain ⟨records', c, hload', -, rfl⟩ := Engine.start_eq_ok_iff.1 (congrArg Prod.fst hstart)
  obtain rfl : records = records' := Except.ok.inj (hload.symm.trans hload')
  have hagrees : s.Agrees events :=
    Site.performAll_induction Site.Agrees (fun _ _ _ _ hs hstep => hstep.agrees hs)
      (Site.agrees_of_restarted hnodup localConfig c world') hrun
  have hreports := hagrees.reports f
  have hbears := hagrees.bears f
  intro record health idle
  refine ⟨hreports.repository, hreports.material, hreports.state_eq_faultedKeepingPrevious_iff,
    hagrees.tracked.isInProgress_eq_false, ?_, ?_, ?_⟩
  · intro revision hanswer
    rw [hanswer] at hbears
    have ⟨hfault, hcheckout, _⟩ := hbears
    refine ⟨?_, ?_, fun hidle => Engine.state_eq_merged hidle hbears⟩
    · rw [hreports.isHealthy_repository, hfault]
      rfl
    · rw [hreports.isHealthy_material, hcheckout]
      rfl
  · intro revision message hanswer hidle
    rw [hanswer] at hbears
    exact Engine.state_eq_of_lastFault hidle hbears
  · intro message hanswer hidle
    rw [hanswer] at hbears
    exact Engine.state_eq_of_lastCheckoutFault hidle hbears

/-- The site is merged, and the fragments of the shop do not go together with it. -/
theorem run_agrees_siteAndShop :
    let world : Scenario :=
      { refreshes := [.ok ("/work/site", "site-1"), .ok ("/work/shop", "shop-1")] }
    let s := (Site.performAll (.ofScenario appsContents) siteAndShop ⟨⟨appsEngine, world⟩, ∅⟩).2
    (s.engine.state siteFingerprint = .merged ∧
      s.engine.health.isHealthy (.configRepository siteFingerprint) = true) ∧
    s.engine.state shopFingerprint = .faultedKeepingPrevious ∧
      (s.engine.health.isHealthy (.configRepository shopFingerprint) = false ∨
        s.engine.health.isHealthy (.material shopFingerprint) = false) := by
  intro world s
  have hstart : Engine.start (.ofScenario appsContents) {} {} world = (.ok appsEngine, world) := rfl
  have hload : ((World.ofScenario appsContents).loadAll world).1 = .ok [] := rfl
  let run := Site.performAll (.ofScenario appsContents) siteAndShop ⟨⟨appsEngine, world⟩, ∅⟩
  have hanswers : lastAnswer? siteFingerprint run.1 = some (.ok (.merged "site-1")) ∧
      lastAnswer? shopFingerprint run.1 = some (.ok (.faulted "shop-1"
        ("Merge conflict for pipeline 'cart': defined in both " ++
          "config repo https://example.com and config repo https://example.com"))) ∧
      (run.2.cycles.get? siteFingerprint).isNone = true ∧
      (run.2.cycles.get? shopFingerprint).isNone = true := by
    simp only [run, siteAndShop]
    rw [Site.performAll_begin_of_idle siteMaterial_fingerprint (by decide +kernel),
      Site.performAll_begin_of_idle shopMaterial_fingerprint (by decide +kernel)]
    decide +kernel
  obtain ⟨hsite, hshop, hsiteLeft, hshopLeft⟩ := hanswers
  obtain ⟨-, -, -, hidle, hmerged, -, -⟩ :=
    run_agrees hstart hload List.nodup_nil (Prod.eta run).symm siteFingerprint
  obtain ⟨hhealthy, -, hstate⟩ := hmerged _ hsite
  obtain ⟨-, -, hiff, hidle', -, hfaulted, -⟩ :=
    run_agrees hstart hload List.nodup_nil (Prod.eta run).symm shopFingerprint
  have hshopIdle := hidle' (Option.isNone_iff_eq_none.1 hshopLeft)
  have hshopState := hfaulted _ _ hshop hshopIdle
  exact ⟨⟨hstate (hidle (Option.isNone_iff_eq_none.1 hsiteLeft)), hhealthy⟩, hshopState,
    (hiff hshopIdle).1 hshopState⟩

end PipelineSync
