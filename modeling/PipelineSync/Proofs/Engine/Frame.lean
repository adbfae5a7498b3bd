import PipelineSync.Proofs.Engine.Calls
import PipelineSync.Proofs.Engine.LastGood

/-!
# What cycles leave alone

An event of one repository does not concern another: `Effect.frame`. A call touches records,
partials, the merged configuration, health and the tracker at different moments, some of it only
once a record is saved, and `run_atomic` says what all of that comes to in the end, answer by
answer.
-/

namespace PipelineSync

section RecordFor

variable (e : Engine) (f : Fingerprint) (now : Time)

/-- A field of the record of a repository that is blank without a record. -/
theorem Engine.recordFor_field {α : Type} (g : UpdateRecord → Option α)
    (hblank : g { key := f, updatedAt := now } = none) :
    g (e.recordFor f now) = (e.records.get? f).bind g := by
  rw [recordFor]
  cases e.records.get? f with
  | none => exact hblank
  | some r => rfl

@[simp] theorem Engine.recordFor_lastAttemptedRevision :
    (e.recordFor f now).lastAttemptedRevision =
      (e.records.get? f).bind UpdateRecord.lastAttemptedRevision :=
  e.recordFor_field f now UpdateRecord.lastAttemptedRevision rfl

@[simp] theorem Engine.recordFor_lastMerged :
    (e.recordFor f now).lastMerged = (e.records.get? f).bind UpdateRecord.lastMerged :=
  e.recordFor_field f now UpdateRecord.lastMerged rfl

@[simp] theorem Engine.recordFor_lastFault :
    (e.recordFor f now).lastFault = (e.records.get? f).bind UpdateRecord.lastFault :=
  e.recordFor_field f now UpdateRecord.lastFault rfl

@[simp] theorem Engine.recordFor_lastCheckoutFault :
    (e.recordFor f now).lastCheckoutFault =
      (e.records.get? f).bind UpdateRecord.lastCheckoutFault :=
  e.recordFor_field f now UpdateRecord.lastCheckoutFault rfl

end RecordFor

section Effects

variable {event : Event} {e e' : Engine} {f : Fingerprint}

/-- An event of one repository does not concern another. -/
theorem Effect.frame (h : Effect event e e') (hf : f ≠ event.fingerprint) :
    e'.records.get? f = e.records.get? f ∧ e'.partials.get? f = e.partials.get? f ∧
      e'.health.get? (.material f) = e.health.get? (.material f) ∧
      e'.health.get? (.configRepository f) = e.health.get? (.configRepository f) := by
  cases h with
  | turnedAway | unchanged | failed => exact ⟨rfl, rfl, rfl, rfl⟩
  | accepted g revision h =>
    have hpartials := merge_partials h
    have hne : f ≠ g := hf
    simp [KeyMap.get?_insert, Health.get?_clear, hpartials, hne]
  | _ =>
    simp only [Event.fingerprint] at hf
    simp [KeyMap.get?_insert, Health.get?_clear, Health.get?_error, hf]

theorem Effect.health_global (h : Effect event e e') :
    e'.health.get? .global = e.health.get? .global := by
  cases h <;> simp [Health.get?_clear, Health.get?_error]

/-! ## What belongs to a repository -/

/-- Two engines differ in nothing but what belongs to a repository, and in who is in progress. -/
structure AgreeElsewhere (f : Fingerprint) (e e' : Engine) : Prop where
  localConfig : e'.localConfig = e.localConfig
  records : ∀ g, g ≠ f → e'.records.get? g = e.records.get? g
  partials : ∀ g, g ≠ f → e'.partials.get? g = e.partials.get? g
  health : ∀ scope, scope ≠ .material f → scope ≠ .configRepository f →
    e'.health.get? scope = e.health.get? scope

namespace AgreeElsewhere

theorem refl (f : Fingerprint) (e : Engine) : AgreeElsewhere f e e :=
  ⟨rfl, fun _ _ => rfl, fun _ _ => rfl, fun _ _ _ => rfl⟩

theorem trans {e₁ : Engine} (h : AgreeElsewhere f e e₁) (h₁ : AgreeElsewhere f e₁ e') :
    AgreeElsewhere f e e' where
  localConfig := h₁.localConfig.trans h.localConfig
  records g hg := (h₁.records g hg).trans (h.records g hg)
  partials g hg := (h₁.partials g hg).trans (h.partials g hg)
  health scope hm hc := (h₁.health scope hm hc).trans (h.health scope hm hc)

end AgreeElsewhere

theorem Effect.agreeElsewhere (h : Effect event e e') :
    AgreeElsewhere event.fingerprint e e' where
  localConfig := by cases h <;> rfl
  records g hg := (h.frame hg).1
  partials g hg := (h.frame hg).2.1
  health scope hmaterial hrepository := by
    cases scope with
    | global => exact h.health_global
    | material g => exact (h.frame fun hg => hmaterial (congrArg _ hg)).2.2.1
    | configRepository g => exact (h.frame fun hg => hrepository (congrArg _ hg)).2.2.2

/-- Two engines hold the same configuration, and the same has come of the fragments of a
repository. -/
structure AgreeOnFragments (f : Fingerprint) (e e' : Engine) : Prop where
  merged : e'.merged = e.merged
  partials : e'.partials = e.partials
  lastAttemptedRevision : (e'.records.get? f).bind UpdateRecord.lastAttemptedRevision =
    (e.records.get? f).bind UpdateRecord.lastAttemptedRevision
  lastMerged : (e'.records.get? f).bind UpdateRecord.lastMerged =
    (e.records.get? f).bind UpdateRecord.lastMerged
  lastFault : (e'.records.get? f).bind UpdateRecord.lastFault =
    (e.records.get? f).bind UpdateRecord.lastFault
  repository : e'.health.get? (.configRepository f) = e.health.get? (.configRepository f)

/-- Bringing a working copy up to date concerns the fragments in no way. -/
theorem Effect.agreeOnFragments {x : Running.Fetched} (h : Effect (.fetched f x) e e') :
    AgreeOnFragments f e e' := by
  cases h with
  | checkoutFailed => constructor <;> simp [Health.get?_error]
  | checkoutFine => constructor <;> simp [Health.get?_clear]
  | checkoutCleared _ _ _ hr => constructor <;> simp [Health.get?_clear, hr]

/-- With a fault of the working copy of a repository, reported and recorded. -/
def Engine.withCheckoutFault (e : Engine) (f : Fingerprint) (title message : String) (now : Time) :
    Engine :=
  { e with
    records := e.records.insert f { e.recordFor f now with
      lastCheckoutFault := some ⟨"Failed to update working copy", message, now⟩
      updatedAt := now }
    health := e.health.error (.material f) title message }

/-- Without the fault of the working copy of a repository, if there is one. -/
def Engine.withoutCheckoutFault (e : Engine) (f : Fingerprint) (now : Time) : Engine :=
  { e with
    records := match e.records.get? f with
      | some r =>
        if r.lastCheckoutFault.isSome then
          e.records.insert f { r with lastCheckoutFault := none, updatedAt := now }
        else e.records
      | none => e.records
    health := e.health.clear (.material f) }

theorem Effect.eq_withCheckoutFault {error : Error} {saved : Option (Except Error Unit)}
    (h : Effect (.fetched f ⟨.error error, saved⟩) e e') :
    ∃ title now, e' = e.withCheckoutFault f title error.message now := by
  cases h with
  | checkoutFailed _ _ _ title now => exact ⟨title, now, rfl⟩

theorem Effect.eq_withoutCheckoutFault {copy : String × String}
    {saved : Option (Except Error Unit)} (h : Effect (.fetched f ⟨.ok copy, saved⟩) e e') :
    ∃ now, e' = e.withoutCheckoutFault f now := by
  cases h with
  | checkoutFine _ _ hnone =>
    refine ⟨default, ?_⟩
    rw [Engine.withoutCheckoutFault]
    cases hr : e.records.get? f with
    | none => rfl
    | some r => simp [hnone r hr]
  | checkoutCleared _ _ _ hr now hfault =>
    refine ⟨now, ?_⟩
    simp [Engine.withoutCheckoutFault, hr, hfault]

end Effects

/-! ## Whole cycles -/

section Courses

variable {f : Fingerprint} {answer : Except Error CycleOutcome} {e e' : Engine}

theorem Course.agreeElsewhere (h : Course f answer e e') : AgreeElsewhere f e e' := by
  cases h with
  | checkoutFailed h => exact h.agreeElsewhere
  | unchanged revision h => exact h.agreeElsewhere
  | settled hfetched hsettled => exact hfetched.agreeElsewhere.trans hsettled.agreeElsewhere

theorem Course.ne_alreadyInProgress (h : Course f answer e e') :
    answer ≠ .ok .alreadyInProgress := by
  rintro rfl
  cases h with
  | settled hfetched hsettled => cases hsettled

theorem Course.of_checkoutFailed {message : String}
    (h : Course f (.ok (.checkoutFailed message)) e e') :
    AgreeOnFragments f e e' ∧ ∃ title now, e' = e.withCheckoutFault f title message now := by
  cases h with
  | checkoutFailed h => exact ⟨h.agreeOnFragments, h.eq_withCheckoutFault⟩
  | settled hfetched hsettled => cases hsettled

theorem Course.of_faulted {revision message : String}
    (h : Course f (.ok (.faulted revision message)) e e') :
    e'.merged = e.merged ∧ e'.partials = e.partials ∧
      (e'.records.get? f).bind UpdateRecord.lastMerged =
        (e.records.get? f).bind UpdateRecord.lastMerged := by
  cases h with
  | settled hfetched hsettled =>
    have hagree := hfetched.agreeOnFragments
    cases hsettled with
    | rejected =>
      refine ⟨hagree.merged, hagree.partials, ?_⟩
      rw [KeyMap.get?_insert_self]
      exact (Engine.recordFor_lastMerged _ f _).trans hagree.lastMerged

theorem Course.of_error {error : Error} (h : Course f (.error error) e e') :
    AgreeOnFragments f e e' ∧ ∃ now, e' = e.withoutCheckoutFault f now := by
  cases h with
  | settled hfetched hsettled =>
    -- nothing of what was settled is there if it could not be saved
    cases hsettled with
    | failed => exact ⟨hfetched.agreeOnFragments, hfetched.eq_withoutCheckoutFault⟩

end Courses

/-- A call, from whatever state, leaves everything alone that belongs to other repositories, and who
is in progress. If the material is in progress already, that is its answer, and a line in the log is
all that comes of it. If the working copy could not be brought up to date, that is reported and
recorded, and nothing else changes; if the fragments were rejected, what is merged stays, and what
was merged last of the repository. A call that fails, because a record could not be saved or for
whatever other reason, leaves no trace but that the working copy has no fault any more. -/
theorem run_atomic {σ : Type} (w : World σ) (m : Material) (skipUnchanged : Bool)
    (s : Running σ) :
    let f := m.fingerprint
    let ran := s.run w m skipUnchanged
    let before := s.engine
    let after := ran.2.engine
    (AgreeElsewhere f before after ∧ after.tracker = before.tracker) ∧
    ((ran.1 = .ok .alreadyInProgress ↔ before.tracker.isInProgress f = true) ∧
      (ran.1 = .ok .alreadyInProgress → ∃ line, ran.2 = s.say w line)) ∧
    (∀ message, ran.1 = .ok (.checkoutFailed message) →
      AgreeOnFragments f before after ∧
        ∃ title now, after = before.withCheckoutFault f title message now) ∧
    (∀ revision message, ran.1 = .ok (.faulted revision message) →
      after.merged = before.merged ∧ after.partials = before.partials ∧
        (after.records.get? f).bind UpdateRecord.lastMerged =
          (before.records.get? f).bind UpdateRecord.lastMerged) ∧
    (∀ error, ran.1 = .error error →
      AgreeOnFragments f before after ∧ ∃ now, after = before.withoutCheckoutFault f now) := by
  intro f ran before after
  rcases Bool.eq_false_or_eq_true (before.tracker.isInProgress f) with hbusy | hidle
  · have hran := Running.run_of_busy (w := w) hbusy skipUnchanged
    have hafter : after = before := congrArg (fun ran => ran.2.engine) hran
    have hanswer : ran.1 = .ok .alreadyInProgress := congrArg Prod.fst hran
    rw [hafter, hanswer]
    refine ⟨⟨.refl f before, rfl⟩, ⟨iff_of_true rfl hbusy, fun _ => ⟨_, congrArg Prod.snd hran⟩⟩,
      ?_, ?_, ?_⟩
    · exact fun _ h => nomatch h
    · exact fun _ _ h => nomatch h
    · exact fun _ h => nomatch h
  · have hcourse := Running.run_course (w := w) hidle skipUnchanged
    have htracker := Running.run_tracker w m skipUnchanged s
    have hbusy : ¬before.tracker.isInProgress f = true := Bool.eq_false_iff.1 hidle
    refine ⟨⟨hcourse.agreeElsewhere, htracker⟩, ⟨?_, ?_⟩, ?_, ?_, ?_⟩
    · exact iff_of_false hcourse.ne_alreadyInProgress hbusy
    · exact fun hanswer => absurd hanswer hcourse.ne_alreadyInProgress
    · exact fun message hanswer => (hanswer ▸ hcourse).of_checkoutFailed
    · exact fun revision message hanswer => (hanswer ▸ hcourse).of_faulted
    · exact fun error hanswer => (hanswer ▸ hcourse).of_error

/-- A call whose record cannot be saved, after one that could not check the site out. -/
theorem run_atomic_unsaved :
    let w := World.ofScenario appsContents
    let error : Error := .persistence "site.json" "disk full"
    let world : Scenario := {
      refreshes := [.error (.checkoutFailed "site" "unreachable"), .ok ("/work/site", "site-1")]
      saves := [.ok (), .ok (), .error error] }
    let before := ((⟨appsEngine, world⟩ : Running Scenario).update w siteMaterial).2
    let ran := before.update w siteMaterial
    ran.1 = .error error ∧
      ∃ now, ran.2.engine = before.engine.withoutCheckoutFault siteFingerprint now := by
  intro w error world before ran
  have hidle : before.engine.tracker.isInProgress siteFingerprint = false := by
    simp only [before, Running.update]
    rw [Running.run_tracker]
    rfl
  have hanswer : ran.1 = .error error := by
    simp only [ran, Running.update]
    rw [Running.run_of_idle siteMaterial_fingerprint hidle]
    simp only [before, Running.update]
    rw [Running.run_of_idle siteMaterial_fingerprint rfl]
    decide +kernel
  obtain ⟨-, -, -, -, hfailed⟩ := run_atomic w siteMaterial false before
  obtain ⟨-, now, hafter⟩ := hfailed error hanswer
  exact ⟨hanswer, now, siteMaterial_fingerprint ▸ hafter⟩

end PipelineSync
