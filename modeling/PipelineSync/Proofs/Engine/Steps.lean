import PipelineSync.Engine.Schedule

/-!
# What the steps of cycles do to an engine

`Effect` lists what can become of an engine when something comes to light. `Site.perform_step` says
which steps there are, and `Site.Step.effect` that they do nothing else, the tracker aside.
`Site.performAll_induction` carries what each step keeps through a run.
-/

namespace PipelineSync

/-- What becomes of an engine by an event. Only a partial that is accepted changes the partials and
what is merged. -/
inductive Effect : Event → Engine → Engine → Prop where
  | turnedAway {e : Engine} (f : Fingerprint) : Effect (.turnedAway f) e e
  | unchanged {e : Engine} (f : Fingerprint) (revision : String) :
    Effect (.unchanged f revision) e e
  | checkoutFailed {e : Engine} (f : Fingerprint) (error : Error) (saved : Except Error Unit)
      (title : String) (now : Time) :
    Effect (.fetched f ⟨.error error, some saved⟩) e { e with
      records := e.records.insert f { e.recordFor f now with
        lastCheckoutFault := some ⟨"Failed to update working copy", error.message, now⟩
        updatedAt := now }
      health := e.health.error (.material f) title error.message }
  | checkoutFine {e : Engine} (f : Fingerprint) (copy : String × String)
      (h : ∀ r, e.records.get? f = some r → r.lastCheckoutFault = none) :
    Effect (.fetched f ⟨.ok copy, none⟩) e { e with health := e.health.clear (.material f) }
  | checkoutCleared {e : Engine} (f : Fingerprint) (copy : String × String)
      (saved : Except Error Unit) {r : UpdateRecord} (h : e.records.get? f = some r) (now : Time)
      (hfault : r.lastCheckoutFault.isSome = true) :
    Effect (.fetched f ⟨.ok copy, some saved⟩) e { e with
      records := e.records.insert f { r with lastCheckoutFault := none, updatedAt := now }
      health := e.health.clear (.material f) }
  | accepted {e : Engine} (f : Fingerprint) (revision : String) {p : Partial} {c : Configuration}
      (h : merge e.localConfig (e.partials.insert f p) = .ok c) (now : Time) :
    Effect (.settled f revision (.ok p) (.ok (.merged revision))) e { e with
      partials := c.partials
      merged := c
      records := e.records.insert f { e.recordFor f now with
        lastAttemptedRevision := some revision
        lastMerged := some p
        lastFault := none
        updatedAt := now }
      health := e.health.clear (.configRepository f) }
  | rejected {e : Engine} (f : Fingerprint) (revision : String) {parsed : Except Error Partial}
      {error : Error} (h : parsed.bind (e.candidate f) = .error error) (title : String)
      (now : Time) :
    Effect (.settled f revision parsed (.ok (.faulted revision error.message))) e { e with
      records := e.records.insert f { e.recordFor f now with
        lastAttemptedRevision := some revision
        lastFault := some ⟨title, error.message, now⟩
        updatedAt := now }
      health := e.health.error (.configRepository f) title error.message }
  | failed {e : Engine} (f : Fingerprint) (revision : String) (parsed : Except Error Partial)
      (error : Error) : Effect (.settled f revision parsed (.error error)) e e

theorem Effect.tracker {event : Event} {e e' : Engine} (h : Effect event e e') :
    e'.tracker = e.tracker := by
  cases h <;> rfl

/-- Who is in progress does not matter to what becomes of an engine. -/
theorem Effect.withTracker {event : Event} {e e' : Engine} (h : Effect event e e')
    (tracker : Tracker) : Effect event { e with tracker } { e' with tracker } := by
  cases h with
  | turnedAway f => exact .turnedAway f
  | unchanged f revision => exact .unchanged f revision
  | checkoutFailed f error saved title now => exact .checkoutFailed f error saved title now
  | checkoutFine f copy h => exact .checkoutFine f copy h
  | checkoutCleared f copy saved h now hfault =>
    exact .checkoutCleared (e := { e with tracker }) f copy saved h now hfault
  | accepted f revision h now => exact .accepted (e := { e with tracker }) f revision h now
  | rejected f revision h title now =>
    exact .rejected (e := { e with tracker }) f revision h title now
  | failed f revision parsed error => exact .failed f revision parsed error

theorem Engine.candidate_eq_ok_iff {e : Engine} {f : Fingerprint} {p : Partial}
    {c : Configuration} :
    e.candidate f p = .ok c ↔ merge e.localConfig (e.partials.insert f p) = .ok c := by
  rw [Engine.candidate]
  cases merge e.localConfig (e.partials.insert f p) with
  | error conflict => exact ⟨nofun, nofun⟩
  | ok c' =>
    constructor
    · exact fun h => congrArg Except.ok (Except.ok.inj h)
    · exact fun h => congrArg Except.ok (Except.ok.inj h)

namespace Running

variable {σ : Type} {w : World σ} {s s' : Running σ} {f : Fingerprint}

/-! ## The parts of a step -/

@[simp] theorem say_engine (w : World σ) (line : Log.Line) (s : Running σ) :
    (s.say w line).engine = s.engine := rfl

@[simp] theorem change_engine (g : Engine → Engine) (s : Running σ) :
    (s.change g).engine = g s.engine := rfl

@[simp] theorem setRecord_engine (f : Fingerprint) (r : UpdateRecord) (s : Running σ) :
    (s.setRecord f r).engine = { s.engine with records := s.engine.records.insert f r } := rfl

@[simp] theorem setHealth_engine (w : World σ) (scope : HealthScope)
    (message description : String) (s : Running σ) :
    (s.setHealth w scope message description).engine =
      { s.engine with health := s.engine.health.error scope message description } := rfl

@[simp] theorem clearHealth_engine (w : World σ) (scope : HealthScope) (s : Running σ) :
    (s.clearHealth w scope).engine =
      { s.engine with health := s.engine.health.clear scope } := by
  rw [clearHealth]
  split <;> rfl

@[simp] theorem save_engine (w : World σ) (r : UpdateRecord) (s : Running σ) :
    (s.save w r).2.engine = s.engine := rfl

@[simp] theorem keepRecord_engine (w : World σ) (f : Fingerprint) (r : UpdateRecord)
    (s : Running σ) :
    (s.keepRecord w f r).2.engine =
      { s.engine with records := s.engine.records.insert f r } := by
  have hengine := save_engine w r s
  rw [keepRecord]
  -- the record is taken over whether or not it could be saved
  rcases hsave : s.save w r with ⟨_ | _, saved⟩ <;> rw [hsave] at hengine
  · exact congrArg (fun e => { e with records := e.records.insert f r }) hengine
  · exact congrArg (fun e => { e with records := e.records.insert f r }) hengine

@[simp] theorem sayCompleted_engine (w : World σ) (callbacks : Nat) (result : Except Error Unit)
    (s : Running σ) : (s.sayCompleted w callbacks result).engine = s.engine := by
  cases result <;> rfl

/-- A commit saves, and only if that goes well does it publish. -/
theorem commit_eq (w : World σ) (r : UpdateRecord) (publish : Running σ → Running σ)
    (s : Running σ) :
    s.commit w r publish =
      match s.save w r with
      | (.ok (), saved) => (.ok (), (publish saved).sayCompleted w 2 (.ok ()))
      | (.error e, saved) => (.error e, saved.sayCompleted w 2 (.error e)) := by
  rcases hsave : s.save w r with ⟨_ | _, saved⟩ <;>
    simp [commit, Transaction.execute, Transaction.finish, Transaction.Session.register,
      Transaction.Boundaries.register, Transaction.Boundaries.changeTransaction?,
      Transaction.Boundaries.isBodyExecuting, Transaction.Boundaries.claim,
      Transaction.Boundaries.popTransaction, Transaction.runBeforeCommit,
      Transaction.runAfterCommit, Transaction.runAfterCompletion, hsave]

theorem commit_answer (w : World σ) (r : UpdateRecord) (publish : Running σ → Running σ)
    (s : Running σ) : (s.commit w r publish).1 = (w.save r s.world).1 := by
  rw [commit_eq, save]
  rcases w.save r s.world with ⟨e | _, world⟩
  · rfl
  · rfl

/-! ## The steps -/

theorem recordCheckoutFailure_engine (w : World σ) (f : Fingerprint) (message : String)
    (s : Running σ) :
    (s.recordCheckoutFailure w f message).2.engine = { s.engine with
      records := s.engine.records.insert f { s.engine.recordFor f (w.now s.world) with
        lastCheckoutFault := some ⟨"Failed to update working copy", message, w.now s.world⟩
        updatedAt := w.now s.world } } :=
  keepRecord_engine ..

theorem fetch_of_error {m : Material} {e : Error} {world : σ}
    (h : w.refresh m s.world = (.error e, world)) :
    s.fetch w m f =
      let reported := { s with world }.setHealth w (.material f)
        ("Failed to update working copy of " ++ m.text) e.message
      let kept := reported.recordCheckoutFailure w f e.message
      (⟨.error e, some kept.1⟩, kept.2) := by
  rw [fetch, h]

theorem fetch_of_ok {m : Material} {copy : String × String} {world : σ}
    (h : w.refresh m s.world = (.ok copy, world)) :
    s.fetch w m f =
      let cleared := ({ s with world }.clearHealth w (.material f)).clearCheckoutFailure w f
      (⟨.ok copy, cleared.1⟩, cleared.2) := by
  rw [fetch, h]

/-- Clearing a checkout failure changes nothing if there is none, and keeps the record without it
otherwise. -/
theorem clearCheckoutFailure_cases (w : World σ) (f : Fingerprint) (s : Running σ) :
    (s.clearCheckoutFailure w f = (none, s) ∧
      ∀ r, s.engine.records.get? f = some r → r.lastCheckoutFault = none) ∨
    ∃ r, s.engine.records.get? f = some r ∧ r.lastCheckoutFault.isSome = true ∧
      s.clearCheckoutFailure w f =
        let kept := s.keepRecord w f
          { r with lastCheckoutFault := none, updatedAt := w.now s.world }
        (some kept.1, kept.2) := by
  rw [clearCheckoutFailure]
  cases hr : s.engine.records.get? f with
  | none => exact Or.inl ⟨rfl, nofun⟩
  | some r =>
    cases hfault : r.lastCheckoutFault with
    | none =>
      refine Or.inl ⟨by simp [hfault], fun r' hr' => ?_⟩
      exact Option.some.inj hr' ▸ hfault
    | some fault => exact Or.inr ⟨r, rfl, by simp [hfault], by simp [hfault]⟩

theorem fetch_effect (w : World σ) (m : Material) (f : Fingerprint) (s : Running σ) :
    Effect (.fetched f (s.fetch w m f).1) s.engine (s.fetch w m f).2.engine := by
  rcases hrefresh : w.refresh m s.world with ⟨error | copy, world⟩
  · rw [fetch_of_error hrefresh, recordCheckoutFailure_engine, setHealth_engine]
    exact .checkoutFailed f error _ _ _
  · rw [fetch_of_ok hrefresh]
    rcases clearCheckoutFailure_cases w f ({ s with world }.clearHealth w (.material f)) with
      ⟨heq, hnone⟩ | ⟨r, hr, hfault, heq⟩
    · rw [heq, clearHealth_engine]
      rw [clearHealth_engine] at hnone
      exact .checkoutFine f copy hnone
    · have hr : s.engine.records.get? f = some r := by rwa [clearHealth_engine] at hr
      rw [heq, keepRecord_engine, clearHealth_engine]
      exact .checkoutCleared f copy _ hr _ hfault

theorem commit_engine_cases (w : World σ) (r : UpdateRecord) (publish : Running σ → Running σ)
    (s : Running σ) :
    (∃ e, (s.commit w r publish).1 = .error e ∧ (s.commit w r publish).2.engine = s.engine) ∨
    ∃ saved, saved.engine = s.engine ∧ (s.commit w r publish).1 = .ok () ∧
      (s.commit w r publish).2.engine = (publish saved).engine := by
  have hengine := save_engine w r s
  rw [commit_eq]
  rcases hsave : s.save w r with ⟨e | _, saved⟩ <;> rw [hsave] at hengine
  · exact Or.inl ⟨e, rfl, (sayCompleted_engine ..).trans hengine⟩
  · exact Or.inr ⟨saved, hengine, rfl, sayCompleted_engine ..⟩

theorem commitMerged_cases (w : World σ) (m : Material) (f : Fingerprint) (revision : String)
    (p : Partial) (c : Configuration) (s : Running σ) :
    (∃ e, (s.commitMerged w m f revision p c).1 = .error e ∧
      (s.commitMerged w m f revision p c).2.engine = s.engine) ∨
    (s.commitMerged w m f revision p c).1 = .ok () ∧
      (s.commitMerged w m f revision p c).2.engine = { s.engine with
        partials := c.partials
        merged := c
        records := s.engine.records.insert f { s.engine.recordFor f (w.now s.world) with
          lastAttemptedRevision := some revision
          lastMerged := some p
          lastFault := none
          updatedAt := w.now s.world }
        health := s.engine.health.clear (.configRepository f) } := by
  refine (commit_engine_cases w _ _ s).imp id ?_
  rintro ⟨saved, hs, hanswer, hengine⟩
  refine ⟨hanswer, hengine.trans ?_⟩
  rw [clearHealth_engine, setRecord_engine, change_engine, say_engine, hs]
  rfl

theorem commitFault_cases (w : World σ) (m : Material) (f : Fingerprint)
    (revision description : String) (s : Running σ) :
    let title := "Invalid configuration in repository " ++ m.maskedUrl
    (∃ e, (s.commitFault w m f revision description).1 = .error e ∧
      (s.commitFault w m f revision description).2.engine = s.engine) ∨
    (s.commitFault w m f revision description).1 = .ok () ∧
      (s.commitFault w m f revision description).2.engine = { s.engine with
        records := s.engine.records.insert f { s.engine.recordFor f (w.now s.world) with
          lastAttemptedRevision := some revision
          lastFault := some ⟨title, description, w.now s.world⟩
          updatedAt := w.now s.world }
        health := s.engine.health.error (.configRepository f) title description } := by
  refine (commit_engine_cases w _ _ s).imp id ?_
  rintro ⟨saved, hs, hanswer, hengine⟩
  refine ⟨hanswer, hengine.trans ?_⟩
  rw [setRecord_engine, setHealth_engine, hs]

theorem settle_of_accepted {m : Material} {revision : String} {p : Partial} {c : Configuration}
    (h : s.engine.candidate f p = .ok c) :
    s.settle w m f revision (.ok p) =
      ((s.commitMerged w m f revision p c).1.map fun _ => .merged revision,
        (s.commitMerged w m f revision p c).2) := by
  rw [settle, Except.bind, h]
  rfl

theorem settle_of_rejected {m : Material} {revision : String} {parsed : Except Error Partial}
    {e : Error} (h : parsed.bind (s.engine.candidate f) = .error e) :
    s.settle w m f revision parsed =
      if isFault e then
        ((s.commitFault w m f revision e.message).1.map fun _ => .faulted revision e.message,
          (s.commitFault w m f revision e.message).2)
      else (.error e, s) := by
  have hnone : (parsed.bind fun p => (s.engine.candidate f p).map fun merged => (p, merged)) =
      .error e := by
    cases parsed with
    | error e' => exact congrArg Except.error (Except.error.inj h)
    | ok p =>
      rw [Except.bind] at h ⊢
      rw [h]
      rfl
  rw [settle, hnone]

theorem exists_candidate_of_bind {parsed : Except Error Partial} {e : Engine} {c : Configuration}
    (h : parsed.bind (e.candidate f) = .ok c) : ∃ p, parsed = .ok p ∧ e.candidate f p = .ok c := by
  cases parsed with
  | error error => cases h
  | ok p => exact ⟨p, rfl, h⟩

theorem settle_effect (w : World σ) (m : Material) (f : Fingerprint) (revision : String)
    (parsed : Except Error Partial) (s : Running σ) :
    Effect (.settled f revision parsed (s.settle w m f revision parsed).1) s.engine
      (s.settle w m f revision parsed).2.engine := by
  cases h : parsed.bind (s.engine.candidate f) with
  | ok c =>
    obtain ⟨p, rfl, hc⟩ := exists_candidate_of_bind h
    rw [settle_of_accepted hc]
    rcases commitMerged_cases w m f revision p c s with ⟨e, hanswer, hengine⟩ | ⟨hanswer, hengine⟩
    · rw [hanswer, hengine]
      exact .failed f revision (.ok p) e
    · rw [hanswer, hengine]
      exact .accepted f revision (Engine.candidate_eq_ok_iff.1 hc) _
  | error e =>
    rw [settle_of_rejected h]
    split
    · rcases commitFault_cases w m f revision e.message s with
        ⟨e, hanswer, hengine⟩ | ⟨hanswer, hengine⟩
      · rw [hanswer, hengine]
        exact .failed f revision parsed e
      · rw [hanswer, hengine]
        exact .rejected f revision h _ _
    · exact .failed f revision parsed e

theorem claim?_engine (w : World σ) (m : Material) (s : Running σ) :
    ∃ tracker, (s.claim? w m).2.engine = { s.engine with tracker } := by
  rw [claim?]
  split
  · exact ⟨s.engine.tracker, rfl⟩
  · next tracker _ => exact ⟨tracker, rfl⟩

/-- With the material of a fingerprint claimed. -/
def begun (w : World σ) (f : Fingerprint) (s : Running σ) : Running σ :=
  (s.change fun e => { e with tracker := ⟨e.tracker.running.insert f ()⟩ }).say w
    ⟨.tracker, .trace, "Update of " ++ f.short ++ " started"⟩

theorem claim?_of_idle {m : Material} (hf : m.fingerprint = f)
    (h : s.engine.tracker.isInProgress f = false) :
    s.claim? w m = (some ⟨f⟩, s.begun w f) := by
  have hbegin : s.engine.tracker.begin f = .ok (⟨f⟩, ⟨s.engine.tracker.running.insert f ()⟩) := by
    rw [Tracker.begin, h]
    rfl
  rw [claim?, hf, hbegin]
  rfl

theorem claim?_engine_of_some {m : Material} {token : Token}
    (h : (s.claim? w m).1 = some token) :
    token = ⟨m.fingerprint⟩ ∧ (s.claim? w m).2.engine =
      { s.engine with tracker := ⟨s.engine.tracker.running.insert m.fingerprint ()⟩ } := by
  cases hidle : s.engine.tracker.isInProgress m.fingerprint with
  | true => simp [claim?, Tracker.begin, hidle] at h
  | false =>
    rw [claim?_of_idle rfl hidle] at h ⊢
    exact ⟨(Option.some.inj h).symm, rfl⟩

theorem claim?_engine_of_none {m : Material} (h : (s.claim? w m).1 = none) :
    (s.claim? w m).2.engine = s.engine := by
  rw [claim?] at h ⊢
  split
  · rfl
  · next hbegin => rw [hbegin] at h; cases h

end Running

namespace Site

variable {σ : Type} {w : World σ} {s s' : Site σ} {events : List Event}

/-- The steps that there are, with what each of them has to start from. -/
inductive Step (w : World σ) (s : Site σ) : List Event → Site σ → Prop where
  | idle : Step w s [] s
  | turnedAway (m : Material) (h : (s.running.claim? w m).1 = none) :
    Step w s [.turnedAway m.fingerprint] { s with running := (s.running.claim? w m).2 }
  | claimed (m : Material) (token : Token) (skipUnchanged : Bool)
      (h : (s.running.claim? w m).1 = some token) :
    Step w s []
      ⟨(s.running.claim? w m).2,
        s.cycles.insert m.fingerprint ⟨m, token, skipUnchanged, .claimed⟩⟩
  | fetched {f : Fingerprint} {c : OpenCycle} (hc : s.cycles.get? f = some c) (stage : CycleStage)
      (hstage : ∀ revision parsed, stage ≠ .parsed revision parsed)
      (hcopy : ∀ directory revision, stage = .fetched directory revision →
        (s.running.fetch w c.material f).1.copy = .ok (directory, revision)) :
    Step w s [.fetched f (s.running.fetch w c.material f).1]
      ⟨(s.running.fetch w c.material f).2, s.cycles.insert f { c with stage }⟩
  | unchanged {f : Fingerprint} {c : OpenCycle} (hc : s.cycles.get? f = some c)
      (revision : String) :
    Step w s [.unchanged f revision]
      ⟨s.running.sayUnchanged w c.material revision,
        s.cycles.insert f { c with stage := .answered }⟩
  | parsed {f : Fingerprint} {c : OpenCycle} (hc : s.cycles.get? f = some c)
      (directory revision : String) (hstage : c.stage = .fetched directory revision) :
    Step w s []
      ⟨{ s.running with world := (w.parse c.material directory revision s.world).2 },
        s.cycles.insert f { c with
          stage := .parsed revision (w.parse c.material directory revision s.world).1 }⟩
  | settled {f : Fingerprint} {c : OpenCycle} (hc : s.cycles.get? f = some c) {revision : String}
      {parsed : Except Error Partial} (hstage : c.stage = .parsed revision parsed) :
    Step w s [.settled f revision parsed (s.running.settle w c.material f revision parsed).1]
      ⟨(s.running.settle w c.material f revision parsed).2,
        s.cycles.insert f { c with stage := .answered }⟩
  | left {f : Fingerprint} {c : OpenCycle} (hc : s.cycles.get? f = some c) :
    Step w s [] (s.leave w f c)

theorem advance_step {f : Fingerprint} {c : OpenCycle} (hc : s.cycles.get? f = some c) :
    Step w s (s.advance w f c).1 (s.advance w f c).2 := by
  rw [advance]
  split
  · next hstage =>
    have hstep := Step.fetched (w := w) hc
    rcases hfetch : s.running.fetch w c.material f with
      ⟨⟨_ | ⟨directory, revision⟩, saved⟩, running⟩
    · rw [hfetch] at hstep
      exact hstep .answered nofun nofun
    · rw [hfetch] at hstep
      refine hstep (.fetched directory revision) nofun ?_
      rintro _ _ ⟨⟩
      rfl
  · next directory revision hstage =>
    split
    · exact .unchanged hc revision
    · exact .parsed hc directory revision hstage
  · next revision parsed hstage => exact .settled hc hstage
  · exact .idle

theorem perform_step {move : Move} (h : s.perform w move = (events, s')) : Step w s events s' := by
  suffices Step w s (s.perform w move).1 (s.perform w move).2 by rwa [h] at this
  cases move with
  | begin m skipUnchanged =>
    rw [perform, begin]
    have hnone := Step.turnedAway (w := w) (s := s) m
    have hsome := Step.claimed (w := w) (s := s) m
    rcases hclaim : s.running.claim? w m with ⟨_ | token, running⟩ <;> rw [hclaim] at hnone hsome
    · exact hnone rfl
    · exact hsome token skipUnchanged rfl
  | advance f =>
    rw [perform]
    split
    · next hc => exact advance_step hc
    · exact .idle
  | leave f =>
    rw [perform]
    split
    · next hc => exact .left hc
    · exact .idle

/-- A step that brings nothing to light changes only who is in progress. -/
theorem Step.effect (h : Step w s events s') :
    (events = [] ∧ ∃ tracker, s'.engine = { s.engine with tracker }) ∨
    ∃ event, events = [event] ∧ Effect event s.engine s'.engine := by
  cases h with
  | idle => exact Or.inl ⟨rfl, s.engine.tracker, rfl⟩
  | turnedAway m h =>
    refine Or.inr ⟨_, rfl, ?_⟩
    change Effect _ s.running.engine (s.running.claim? w m).2.engine
    rw [Running.claim?_engine_of_none h]
    exact .turnedAway m.fingerprint
  | claimed m => exact Or.inl ⟨rfl, s.running.claim?_engine w m⟩
  | fetched => exact Or.inr ⟨_, rfl, Running.fetch_effect ..⟩
  | unchanged hc revision => exact Or.inr ⟨_, rfl, .unchanged _ revision⟩
  | parsed => exact Or.inl ⟨rfl, s.engine.tracker, rfl⟩
  | settled => exact Or.inr ⟨_, rfl, Running.settle_effect ..⟩
  | left => exact Or.inl ⟨rfl, _, rfl⟩

/-- A cycle of a material that is not in progress begins. -/
theorem performAll_begin_of_idle {m : Material} {f : Fingerprint} (hf : m.fingerprint = f)
    {skipUnchanged : Bool} {moves : List Move} (h : s.engine.tracker.isInProgress f = false) :
    performAll w (.begin m skipUnchanged :: moves) s =
      performAll w moves
        ⟨s.running.begun w f, s.cycles.insert f ⟨m, ⟨f⟩, skipUnchanged, .claimed⟩⟩ := by
  rw [performAll, perform, begin, Running.claim?_of_idle hf h]
  simp only [hf]
  rfl

/-- Open cycles are kept under the fingerprints of their materials. What holds of all that is read,
and of stages at which nothing is, holds of their stages. -/
theorem Step.cycles (P : Fingerprint → CycleStage → Prop)
    (hunread : ∀ f stage, (∀ revision parsed, stage ≠ .parsed revision parsed) → P f stage)
    (hread : ∀ m directory revision world,
      P m.fingerprint (.parsed revision (w.parse m directory revision world).1))
    (h : Step w s events s')
    (hs : ∀ f c, s.cycles.get? f = some c → c.material.fingerprint = f ∧ P f c.stage) :
    ∀ f c, s'.cycles.get? f = some c → c.material.fingerprint = f ∧ P f c.stage := by
  have hinsert {f : Fingerprint} {c : OpenCycle} (hf : c.material.fingerprint = f)
      (hstage : P f c.stage) (g : Fingerprint) (d : OpenCycle)
      (hd : (s.cycles.insert f c).get? g = some d) : d.material.fingerprint = g ∧ P g d.stage := by
    rw [KeyMap.get?_insert] at hd
    split at hd
    · next hg => exact hg ▸ Option.some.inj hd ▸ ⟨hf, hstage⟩
    · exact hs g d hd
  cases h with
  | idle | turnedAway => exact hs
  | claimed => exact hinsert rfl (hunread _ _ nofun)
  | fetched hc stage hstage => exact hinsert (hs _ _ hc).1 (hunread _ _ hstage)
  | unchanged hc => exact hinsert (hs _ _ hc).1 (hunread _ _ nofun)
  | @parsed f c hc directory revision =>
    have hf := (hs f c hc).1
    exact hinsert hf (hf ▸ hread c.material directory revision s.world)
  | settled hc => exact hinsert (hs _ _ hc).1 (hunread _ _ nofun)
  | left hc =>
    intro g d hd
    rw [leave, KeyMap.get?_erase] at hd
    split at hd
    · cases hd
    · exact hs g d hd

/-- A property of the events so far and the site, kept by each step, holds after every run. -/
theorem performAll_induction (P : List Event → Site σ → Prop)
    (step : ∀ before s fresh s', P before s → Step w s fresh s' → P (before ++ fresh) s')
    {before : List Event} (start : P before s) {moves : List Move}
    (h : performAll w moves s = (events, s')) : P (before ++ events) s' := by
  induction moves generalizing before s events with
  | nil =>
    obtain ⟨rfl, rfl⟩ := Prod.mk.inj h
    rwa [List.append_nil]
  | cons move moves ih =>
    obtain ⟨rfl, rfl⟩ := Prod.mk.inj h
    have := ih (step before s _ _ start (perform_step rfl)) rfl
    rwa [List.append_assoc] at this

end Site

end PipelineSync
