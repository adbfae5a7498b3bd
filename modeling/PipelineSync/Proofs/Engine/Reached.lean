import PipelineSync.Proofs.Engine.Calls
import PipelineSync.Proofs.Engine.Restart

/-!
# What can be reached

Engines may be stopped and started over the same records, with one local configuration or another.
`Sound` holds of all that is then `Reached`: a record says what has been processed, and unless that
was rejected, it is what the record says is merged.
-/

namespace PipelineSync

variable {σ : Type} {w : World σ} {stored : σ → KeyMap Fingerprint UpdateRecord}

/-- What can come of engines over the same records: one starts while nothing is saved, steps are
done, and another is started in its place, maybe with another local configuration. The flag says
whether another was. -/
inductive Reached (w : World σ) (stored : σ → KeyMap Fingerprint UpdateRecord) :
    Bool → Site σ → Prop where
  | start {localConfig : LocalConfiguration} {health : Health} {world world' : σ} {e : Engine}
      (hempty : stored world = ∅)
      (h : Engine.start w localConfig health world = (.ok e, world')) :
    Reached w stored false ⟨⟨e, world'⟩, ∅⟩
  | step {again : Bool} {s s' : Site σ} {events : List Event} (move : Move)
      (hs : Reached w stored again s) (h : s.perform w move = (events, s')) :
    Reached w stored again s'
  | restart {again : Bool} {s : Site σ} {localConfig : LocalConfiguration} {health : Health}
      {world' : σ} {e : Engine} (hs : Reached w stored again s)
      (h : Engine.start w localConfig health s.world = (.ok e, world')) :
    Reached w stored true ⟨⟨e, world'⟩, ∅⟩

/-! ## One repository -/

section Repository

variable {contents : Fingerprint → String → Except Error Partial} {again : Bool}
  {e e' : Engine} {event : Event} {f : Fingerprint}

/-- What is still known of a partial, after another engine was started or before. -/
def Partial.known (again : Bool) (p : Partial) : Partial :=
  if again then p.withoutPasswords else p

theorem Partial.withoutPasswords_eq_of_known {p q : Partial} (h : q.known again = p.known again) :
    q.withoutPasswords = p.withoutPasswords := by
  cases again with
  | true => exact h
  | false => exact congrArg withoutPasswords h

/-- The fragments at the revision that was processed last are what is merged, unless they were
rejected. -/
def Truthful (contents : Fingerprint → String → Except Error Partial) (again : Bool)
    (f : Fingerprint) (r : Option UpdateRecord) : Prop :=
  ∀ revision, r.bind UpdateRecord.lastAttemptedRevision = some revision →
    r.bind UpdateRecord.lastFault = none →
    ∃ p, contents f revision = .ok p ∧
      (r.bind UpdateRecord.lastMerged).map (Partial.known again) = some (p.known again)

theorem truthful_withoutPasswords_iff {r : Option UpdateRecord} :
    Truthful contents true f (r.map UpdateRecord.withoutPasswords) ↔
      Truthful contents true f r := by
  cases r with
  | none => rfl
  | some r =>
    simp [Truthful, Partial.known, UpdateRecord.withoutPasswords, Partial.withoutPasswords_twice]

theorem Truthful.forget {r : Option UpdateRecord} (h : Truthful contents again f r) :
    Truthful contents true f r := by
  intro revision hrevision hfault
  obtain ⟨p, hp, hmerged⟩ := h revision hrevision hfault
  obtain ⟨q, hq, hqp⟩ := Option.map_eq_some_iff.1 hmerged
  refine ⟨p, hp, ?_⟩
  rw [hq]
  exact congrArg some (Partial.withoutPasswords_eq_of_known hqp)

/-- Truth is a matter of three fields. -/
theorem Truthful.congr {r r' : Option UpdateRecord} (h : Truthful contents again f r)
    (hattempted : r'.bind UpdateRecord.lastAttemptedRevision =
      r.bind UpdateRecord.lastAttemptedRevision)
    (hmerged : r'.bind UpdateRecord.lastMerged = r.bind UpdateRecord.lastMerged)
    (hfault : r'.bind UpdateRecord.lastFault = r.bind UpdateRecord.lastFault) :
    Truthful contents again f r' := by
  rwa [Truthful, hattempted, hmerged, hfault]

/-- The record of a repository says what has been, and the engine has what it says. -/
structure SoundAt (contents : Fingerprint → String → Except Error Partial) (again : Bool)
    (e : Engine) (f : Fingerprint) : Prop where
  truthful : Truthful contents again f (e.records.get? f)
  reported : ((e.records.get? f).bind UpdateRecord.lastFault).isSome →
    (e.health.get? (.configRepository f)).isSome
  contributed : e.health.get? .global = none →
    e.partials.get? f = (e.records.get? f).bind UpdateRecord.lastMerged

/-- What is read of fragments is what they hold at the revision. -/
def Event.Honest (contents : Fingerprint → String → Except Error Partial) : Event → Prop
  | settled f revision parsed _ => parsed = contents f revision
  | _ => True

theorem Effect.soundAt (h : Effect event e e') (hhonest : event.Honest contents)
    (he : SoundAt contents again e event.fingerprint) :
    SoundAt contents again e' event.fingerprint := by
  have hcontributed (hglobal : e'.health.get? .global = none) :
      Contributes e' event.fingerprint :=
    h.contributes (he.contributed (h.health_global ▸ hglobal))
  cases event with
  | turnedAway | unchanged =>
    cases h
    exact he
  | fetched f x =>
    have hagree : AgreeOnFragments f e e' := h.agreeOnFragments
    have hreported := he.reported
    rw [Event.fingerprint, ← hagree.lastFault, ← hagree.repository] at hreported
    exact ⟨he.truthful.congr hagree.lastAttemptedRevision hagree.lastMerged hagree.lastFault,
      hreported, hcontributed⟩
  | settled f revision parsed answer =>
    cases h with
    | failed => exact he
    | @accepted _ _ _ p =>
      have hp : contents f revision = .ok p := hhonest.symm
      refine ⟨?_, by simp [Event.fingerprint], hcontributed⟩
      intro revision' hrevision hfault
      simp only [Event.fingerprint, KeyMap.get?_insert_self] at hrevision ⊢
      obtain rfl : revision = revision' := Option.some.inj hrevision
      exact ⟨p, hp, rfl⟩
    | rejected =>
      refine ⟨?_, by simp [Event.fingerprint, Health.get?_error], hcontributed⟩
      intro _ _ hfault
      simp [Event.fingerprint] at hfault

theorem Effect.soundAt_of_ne (h : Effect event e e') (hf : f ≠ event.fingerprint)
    (he : SoundAt contents again e f) : SoundAt contents again e' f := by
  obtain ⟨hrecord, -, -, hrepository⟩ := h.frame hf
  constructor
  · rw [hrecord]
    exact he.truthful
  · rw [hrecord, hrepository]
    exact he.reported
  · exact fun hglobal => h.contributes (he.contributed (h.health_global ▸ hglobal))

end Repository

/-! ## The invariant -/

section Invariant

variable {contents : Fingerprint → String → Except Error Partial} {again : Bool}
  {e e' : Engine} {event : Event} {saved : KeyMap Fingerprint UpdateRecord}

/-- What an engine has and what is saved are sound. -/
structure Sound (contents : Fingerprint → String → Except Error Partial) (again : Bool)
    (saved : KeyMap Fingerprint UpdateRecord) (e : Engine) : Prop where
  holdsMerge : HoldsMerge e.localConfig e.partials e
  keyed : Keyed e.records
  each : ∀ f, SoundAt contents again e f
  saved_keyed : Keyed saved
  saved_truthful : ∀ f, Truthful contents true f (saved.get? f)

theorem Event.store_truthful (he : ∀ f, Truthful contents again f (e.records.get? f))
    (hsaved : ∀ f, Truthful contents true f (saved.get? f)) (f : Fingerprint) :
    Truthful contents true f ((event.store e saved).get? f) := by
  rw [store]
  split
  · next r _ hr =>
    rw [KeyMap.get?_insert]
    split
    · next hf =>
      have hlive := (he f).forget
      rw [hf, hr] at hlive
      exact hf ▸ truthful_withoutPasswords_iff.2 hlive
    · exact hsaved f
  · exact hsaved f

theorem Effect.sound (h : Effect event e e') (hhonest : event.Honest contents)
    (he : Sound contents again saved e) : Sound contents again (event.store e' saved) e' := by
  have heach (f : Fingerprint) : SoundAt contents again e' f := by
    by_cases hf : f = event.fingerprint
    · exact hf ▸ h.soundAt hhonest (he.each _)
    · exact h.soundAt_of_ne hf (he.each f)
  obtain ⟨hlocal, hpartials, hmerge⟩ := h.holdsMerge he.holdsMerge
  exact {
    holdsMerge := ⟨rfl, rfl, by rw [hlocal, hpartials]; exact hmerge⟩
    keyed := h.keyed he.keyed
    each := heach
    saved_keyed := event.store_keyed (h.keyed he.keyed) he.saved_keyed
    saved_truthful := Event.store_truthful (fun f => (heach f).truthful) he.saved_truthful }

theorem Sound.withTracker (he : Sound contents again saved e) (tracker : Tracker) :
    Sound contents again saved { e with tracker } where
  holdsMerge := ⟨rfl, rfl, he.holdsMerge.merge_eq⟩
  keyed := he.keyed
  each f := ⟨(he.each f).truthful, (he.each f).reported, (he.each f).contributed⟩
  saved_keyed := he.saved_keyed
  saved_truthful := he.saved_truthful

theorem Engine.restarted_sound {localConfig : LocalConfiguration} {records : List UpdateRecord}
    {c : Configuration} (hsaved : again = true ∨ saved = ∅) (hkeyed : Keyed saved)
    (htruthful : ∀ f, Truthful contents true f (saved.get? f))
    (hperm : (records.map UpdateRecord.withoutPasswords).Perm saved.values)
    (h : merge localConfig (restored localConfig records) = .ok c) (health : Health) :
    Sound contents again saved (restarted localConfig records health c) := by
  have hnodup := hkeyed.nodup_key_of_perm hperm
  have hrecords (f : Fingerprint) :
      (restarted localConfig records health c).records.get? f = recordOf? records f :=
    get?_ofList_records hnodup f
  have hpartials : (restarted localConfig records health c).partials =
      restored localConfig records := merge_partials h
  refine ⟨⟨rfl, rfl, hpartials.symm ▸ h⟩, ?_, fun f => ?_, hkeyed, htruthful⟩
  · intro f r hr
    rw [hrecords, recordOf?_eq_some_iff hnodup] at hr
    exact hr.2
  · have hsaved_f := hkeyed.recordOf?_of_perm hperm f
    constructor
    · rw [hrecords]
      rcases hsaved with rfl | rfl
      · rw [← truthful_withoutPasswords_iff, hsaved_f]
        exact htruthful f
      · rw [Option.map_eq_none_iff.1 hsaved_f]
        exact nofun
    · rw [hrecords]
      intro hfault
      change ((restoredHealth localConfig records health).get? _).isSome = true
      rw [get?_restoredHealth_repository hnodup, Option.isSome_or, Option.isSome_map, hfault]
      rfl
    · exact fun hglobal => restarted_contributes hnodup h (restored_of_healthy hglobal) health f

end Invariant

/-! ## Everything that is reached -/

section Reached

variable {contents : Fingerprint → String → Except Error Partial} {again : Bool} {s s' : Site σ}

/-- What a cycle has read is what the fragments of its repository hold. -/
def CycleStage.Honest (contents : Fingerprint → String → Except Error Partial) (f : Fingerprint) :
    CycleStage → Prop
  | parsed revision result => result = contents f revision
  | _ => True

/-- A site whose engine, records and cycles are sound. -/
structure Site.Sound (contents : Fingerprint → String → Except Error Partial) (again : Bool)
    (stored : σ → KeyMap Fingerprint UpdateRecord) (s : Site σ) : Prop where
  engine : PipelineSync.Sound contents again (stored s.world) s.engine
  cycles : ∀ f c, s.cycles.get? f = some c →
    c.material.fingerprint = f ∧ c.stage.Honest contents f

theorem Site.Step.honest {events : List Event} (h : Step w s events s')
    (hs : s.Sound contents again stored) : ∀ event ∈ events, event.Honest contents := by
  cases h with
  | @settled f c hc revision parsed hstage =>
    intro event hevent
    obtain rfl := List.mem_singleton.1 hevent
    have hhonest := (hs.cycles f c hc).2
    rw [hstage] at hhonest
    exact hhonest
  | idle | claimed | parsed | left => exact fun _ hevent => nomatch hevent
  | turnedAway | fetched | unchanged =>
    intro event hevent
    obtain rfl := List.mem_singleton.1 hevent
    trivial

theorem Site.Step.sound (hw : w.Keeps stored)
    (hparse : ∀ m directory revision world,
      (w.parse m directory revision world).1 = contents m.fingerprint revision)
    {events : List Event} (h : Step w s events s') (hs : s.Sound contents again stored) :
    s'.Sound contents again stored := by
  have hhonest := h.honest hs
  constructor
  · rw [h.stored hw hs.engine.keyed]
    rcases h.effect with ⟨rfl, tracker, heq⟩ | ⟨event, rfl, heffect⟩
    · rw [heq]
      exact hs.engine.withTracker tracker
    · exact heffect.sound (hhonest event List.mem_cons_self) hs.engine
  · refine h.cycles (fun f stage => stage.Honest contents f) ?_ hparse hs.cycles
    intro f stage hunread
    cases stage with
    | parsed revision parsed => exact absurd rfl (hunread revision parsed)
    | _ => trivial

theorem Reached.performAll (hs : Reached w stored again s) (moves : List Move) :
    Reached w stored again (s.performAll w moves).2 := by
  induction moves generalizing s with
  | nil => exact hs
  | cons move moves ih => exact ih (hs.step move rfl)

theorem Reached.run {s : Running σ} (hs : Reached w stored again ⟨s, ∅⟩) (m : Material)
    (skipUnchanged : Bool) : Reached w stored again ⟨(s.run w m skipUnchanged).2, ∅⟩ := by
  obtain ⟨moves, hmoves, -⟩ := Site.exists_performAll_eq_run w m skipUnchanged s
  exact hmoves ▸ hs.performAll moves

theorem Reached.sound (hw : w.Keeps stored)
    (hparse : ∀ m directory revision world,
      (w.parse m directory revision world).1 = contents m.fingerprint revision)
    (h : Reached w stored again s) : s.Sound contents again stored := by
  induction h with
  | @start localConfig health world world' e hempty h =>
    have hworld : stored world' = stored world := by
      rw [← Engine.start_stored hw localConfig health world, h]
    obtain ⟨records, c, hload, hmerge, rfl⟩ := Engine.start_eq_ok_iff.1 (congrArg Prod.fst h)
    refine ⟨?_, by simp⟩
    have hperm := hw.loaded world records hload
    rw [← hworld] at hperm hempty
    refine Engine.restarted_sound (.inr hempty) ?_ ?_ hperm hmerge health
    · exact hempty ▸ nofun
    · intro f
      rw [hempty]
      exact nofun
  | step move hs h ih => exact (Site.perform_step h).sound hw hparse ih
  | @restart _ s localConfig health world' e hs h ih =>
    have hworld : stored world' = stored s.world := by
      rw [← Engine.start_stored hw localConfig health s.world, h]
    obtain ⟨records, c, hload, hmerge, rfl⟩ := Engine.start_eq_ok_iff.1 (congrArg Prod.fst h)
    refine ⟨?_, by simp⟩
    have hperm := hw.loaded s.world records hload
    have hsound := ih.engine
    rw [← hworld] at hperm hsound
    exact Engine.restarted_sound (.inl rfl) hsound.saved_keyed hsound.saved_truthful hperm hmerge
      health

end Reached

end PipelineSync
