import PipelineSync.Proofs.Engine.Steps

/-!
# Calls as runs

A call that has the engine to itself is a run of its own steps, and so are many such calls one after
another. What holds of every run therefore holds of every sequence of calls, and of calls whose
steps alternate in whatever way. A call gives back what it has claimed.
-/

namespace PipelineSync

variable {σ : Type} {w : World σ}

/-- What becomes of an engine by a cycle of a repository from beginning to end, with its answer. -/
inductive Course (f : Fingerprint) : Except Error CycleOutcome → Engine → Engine → Prop where
  | checkoutFailed {e e' : Engine} {error : Error} {saved : Option (Except Error Unit)}
      (h : Effect (.fetched f ⟨.error error, saved⟩) e e') :
    Course f (.ok (.checkoutFailed error.message)) e e'
  | unchanged {e e' : Engine} {copy : String × String} {saved : Option (Except Error Unit)}
      (revision : String) (h : Effect (.fetched f ⟨.ok copy, saved⟩) e e') :
    Course f (.ok (.unchanged revision)) e e'
  | settled {e e₁ e' : Engine} {copy : String × String} {saved : Option (Except Error Unit)}
      {revision : String} {parsed : Except Error Partial} {answer : Except Error CycleOutcome}
      (hfetched : Effect (.fetched f ⟨.ok copy, saved⟩) e e₁)
      (hsettled : Effect (.settled f revision parsed answer) e₁ e') : Course f answer e e'

theorem Course.tracker {f : Fingerprint} {answer : Except Error CycleOutcome} {e e' : Engine}
    (h : Course f answer e e') : e'.tracker = e.tracker := by
  cases h with
  | checkoutFailed h => exact h.tracker
  | unchanged revision h => exact h.tracker
  | settled hfetched hsettled => exact hsettled.tracker.trans hfetched.tracker

theorem Course.withTracker {f : Fingerprint} {answer : Except Error CycleOutcome} {e e' : Engine}
    (h : Course f answer e e') (tracker : Tracker) :
    Course f answer { e with tracker } { e' with tracker } := by
  cases h with
  | checkoutFailed h => exact .checkoutFailed (h.withTracker tracker)
  | unchanged revision h => exact .unchanged revision (h.withTracker tracker)
  | settled hfetched hsettled =>
    exact .settled (hfetched.withTracker tracker) (hsettled.withTracker tracker)

namespace Running

variable {m : Material} {f : Fingerprint} {s : Running σ}

theorem cycle_course (w : World σ) (m : Material) (f : Fingerprint) (skipUnchanged : Bool)
    (s : Running σ) :
    Course f (s.cycle w m f skipUnchanged).1 s.engine (s.cycle w m f skipUnchanged).2.engine := by
  have hfetched := fetch_effect w m f s
  rw [cycle]
  rcases hfetch : s.fetch w m f with ⟨⟨e | ⟨directory, revision⟩, saved⟩, fetched⟩ <;>
    rw [hfetch] at hfetched
  · exact .checkoutFailed hfetched
  · dsimp only
    split
    · exact .unchanged revision hfetched
    · have hsettled := settle_effect w m f revision (w.parse m directory revision fetched.world).1
        { fetched with world := (w.parse m directory revision fetched.world).2 }
      exact .settled hfetched hsettled

/-- A cycle of a material with a fingerprint, between claiming the material and giving it back. -/
def runClaimed (w : World σ) (m : Material) (f : Fingerprint) (skipUnchanged : Bool)
    (s : Running σ) : Except Error CycleOutcome × Running σ :=
  let (result, s) := (s.begun w f).cycle w m f skipUnchanged
  (result, s.release w ⟨f⟩)

theorem run_of_idle (hf : m.fingerprint = f) (h : s.engine.tracker.isInProgress f = false)
    (skipUnchanged : Bool) : s.run w m skipUnchanged = s.runClaimed w m f skipUnchanged := by
  rw [run, claim?_of_idle hf h, hf, runClaimed]

/-- A call of a material that is in progress only says so. -/
theorem run_of_busy (h : s.engine.tracker.isInProgress m.fingerprint = true)
    (skipUnchanged : Bool) :
    s.run w m skipUnchanged = (.ok .alreadyInProgress, s.say w
      ⟨.engine, .debug, "Skipping " ++ m.text ++ ": update already in progress"⟩) := by
  simp [run, claim?, Tracker.begin, h]

/-- After a call the materials are in progress that were before. -/
theorem run_tracker (w : World σ) (m : Material) (skipUnchanged : Bool) (s : Running σ) :
    (s.run w m skipUnchanged).2.engine.tracker = s.engine.tracker := by
  cases hidle : s.engine.tracker.isInProgress m.fingerprint with
  | true => rw [run_of_busy hidle, say_engine]
  | false =>
    have hnone : s.engine.tracker.running.get? m.fingerprint = none := by
      simpa [Tracker.isInProgress, KeyMap.contains] using hidle
    have hcycle := (cycle_course w m m.fingerprint skipUnchanged (s.begun w m.fingerprint)).tracker
    have herase : (s.begun w m.fingerprint).engine.tracker.release ⟨m.fingerprint⟩ =
        s.engine.tracker := congrArg Tracker.mk (KeyMap.erase_insert hnone ())
    rw [run_of_idle rfl hidle]
    exact (congrArg (Tracker.release · ⟨m.fingerprint⟩) hcycle).trans herase

/-- A call of a material that is not in progress runs its cycle. -/
theorem run_course (h : s.engine.tracker.isInProgress m.fingerprint = false)
    (skipUnchanged : Bool) :
    Course m.fingerprint (s.run w m skipUnchanged).1 s.engine
      (s.run w m skipUnchanged).2.engine := by
  have htracker := run_tracker w m skipUnchanged s
  have hcycle := cycle_course w m m.fingerprint skipUnchanged (s.begun w m.fingerprint)
  rw [run_of_idle rfl h] at htracker ⊢
  let cycled := (s.begun w m.fingerprint).cycle w m m.fingerprint skipUnchanged
  -- the material counts as in progress during the cycle, and neither before it nor after it
  have hend : (s.runClaimed w m m.fingerprint skipUnchanged).2.engine =
      { cycled.2.engine with tracker := s.engine.tracker } := by
    rw [← htracker]
    rfl
  rw [hend]
  exact hcycle.withTracker s.engine.tracker

end Running

namespace Site

/-! ## Open cycles -/

/-- The materials in progress are those whose cycle is open, and each cycle holds the token of its
own. -/
structure Tracked (s : Site σ) : Prop where
  token : ∀ f c, s.cycles.get? f = some c → c.token = ⟨f⟩
  isInProgress : ∀ f, s.engine.tracker.isInProgress f = s.cycles.contains f

section Tracked

variable {s s' : Site σ} {f : Fingerprint} {c : OpenCycle}

/-- A cycle is opened, or one that is open is replaced, while its material is in progress. -/
theorem Tracked.insert (hs : s.Tracked) {running : Running σ} (htoken : c.token = ⟨f⟩)
    (hself : running.engine.tracker.isInProgress f = true)
    (hother : ∀ g, g ≠ f →
      running.engine.tracker.isInProgress g = s.engine.tracker.isInProgress g) :
    Tracked ⟨running, s.cycles.insert f c⟩ := by
  constructor
  · intro g d hd
    rw [KeyMap.get?_insert] at hd
    split at hd
    · next hg =>
      obtain rfl := Option.some.inj hd
      rw [htoken, hg]
    · exact hs.token g d hd
  · intro g
    rw [KeyMap.contains_insert]
    split
    · next hg => exact hg ▸ hself
    · next hg => exact (hother g hg).trans (hs.isInProgress g)

/-- A cycle that comes further keeps its token. -/
theorem Tracked.advance (hs : s.Tracked) (hc : s.cycles.get? f = some c) (stage : CycleStage)
    {running : Running σ} (htracker : running.engine.tracker = s.engine.tracker) :
    Tracked ⟨running, s.cycles.insert f { c with stage }⟩ := by
  refine hs.insert (hs.token f c hc) ?_ fun g _ => by rw [htracker]
  rw [htracker, hs.isInProgress, KeyMap.contains, hc]
  rfl

/-- A cycle that is left gives back the token of its material. -/
theorem Tracked.leave (hs : s.Tracked) (hc : s.cycles.get? f = some c) :
    (s.leave w f c).Tracked := by
  constructor
  · intro g d hd
    rw [Site.leave, KeyMap.get?_erase] at hd
    split at hd
    · cases hd
    · exact hs.token g d hd
  · intro g
    have hleft : (s.leave w f c).engine.tracker = s.engine.tracker.release ⟨f⟩ :=
      congrArg s.engine.tracker.release (hs.token f c hc)
    rw [hleft, Tracker.isInProgress_release, hs.isInProgress]
    exact (s.cycles.contains_erase f g).symm

theorem Step.tracked {events : List Event} (h : Step w s events s') (hs : s.Tracked) :
    s'.Tracked := by
  cases h with
  | idle => exact hs
  | turnedAway m h =>
    have hengine := Running.claim?_engine_of_none h
    exact ⟨hs.token, fun g => (congrArg (·.tracker.isInProgress g) hengine).trans
      (hs.isInProgress g)⟩
  | claimed m token skipUnchanged h =>
    obtain ⟨rfl, hengine⟩ := Running.claim?_engine_of_some h
    refine hs.insert rfl ?_ fun g hg => ?_
    · rw [hengine, Tracker.isInProgress_insert, if_pos rfl]
    · rw [hengine, Tracker.isInProgress_insert, if_neg hg]
      rfl
  | fetched hc stage => exact hs.advance hc stage (Running.fetch_effect ..).tracker
  | unchanged hc => exact hs.advance hc .answered rfl
  | parsed hc => exact hs.advance hc _ rfl
  | settled hc => exact hs.advance hc .answered (Running.settle_effect ..).tracker
  | left hc => exact hs.leave hc

end Tracked

/-! ## Calls -/

theorem performAll_append (w : World σ) (moves later : List Move) (s : Site σ) :
    performAll w (moves ++ later) s =
      ((performAll w moves s).1 ++ (performAll w later (performAll w moves s).2).1,
        (performAll w later (performAll w moves s).2).2) := by
  induction moves generalizing s with
  | nil => rfl
  | cons move moves ih =>
    rw [List.cons_append, performAll, performAll, ih, List.append_assoc]

/-- The steps of a cycle with nothing between them, and what they answer. -/
theorem exists_performAll_eq_run (w : World σ) (m : Material) (skipUnchanged : Bool)
    (s : Running σ) :
    ∃ moves, (performAll w moves ⟨s, ∅⟩).2 = ⟨(s.run w m skipUnchanged).2, ∅⟩ ∧
      (performAll w moves ⟨s, ∅⟩).1.filterMap Event.answer? = [(s.run w m skipUnchanged).1] := by
  let start : Move := .begin m skipUnchanged
  let next : Move := .advance m.fingerprint
  let stop : Move := .leave m.fingerprint
  simp only [Running.run]
  rcases hclaim : s.claim? w m with ⟨_ | token, claimed⟩
  · refine ⟨[start], ?_, ?_⟩ <;> simp [performAll, perform, start, begin, hclaim, Event.answer?]
  simp only [Running.cycle]
  rcases hfetch : claimed.fetch w m m.fingerprint with ⟨⟨e | ⟨directory, revision⟩, saved⟩, fetched⟩
  · refine ⟨[start, next, stop], ?_, ?_⟩ <;>
      simp [performAll, perform, start, next, stop, begin, advance, leave, hclaim, hfetch,
        Event.answer?]
  cases hskip : fetched.isUnchanged m.fingerprint skipUnchanged revision with
  | true =>
    refine ⟨[start, next, next, stop], ?_, ?_⟩
    · simp [performAll, perform, start, next, stop, begin, advance, leave, hclaim, hfetch, hskip]
    · simp [performAll, perform, start, next, stop, begin, advance, hclaim, hfetch, hskip]
      rfl
  | false =>
    refine ⟨[start, next, next, next, stop], ?_, ?_⟩
    · simp [performAll, perform, start, next, stop, begin, advance, leave, hclaim, hfetch, hskip,
        Running.process, world]
    · simp [performAll, perform, start, next, stop, begin, advance, hclaim, hfetch, hskip,
        Running.process, world]
      rfl

/-- Calls one after another are a run. -/
theorem exists_performAll_eq_runEach (w : World σ) (skipUnchanged : Bool) (ms : List Material)
    (s : Running σ) :
    ∃ moves, (performAll w moves ⟨s, ∅⟩).2 = ⟨(s.runEach w skipUnchanged ms).2, ∅⟩ ∧
      (performAll w moves ⟨s, ∅⟩).1.filterMap Event.answer? =
        (s.runEach w skipUnchanged ms).1.map Prod.snd := by
  induction ms generalizing s with
  | nil => exact ⟨[], rfl, rfl⟩
  | cons m ms ih =>
    obtain ⟨moves, hstate, hanswers⟩ := exists_performAll_eq_run w m skipUnchanged s
    obtain ⟨later, hstate', hanswers'⟩ := ih (s.run w m skipUnchanged).2
    refine ⟨moves ++ later, ?_, ?_⟩
    · rw [performAll_append, hstate, hstate', Running.runEach]
    · rw [performAll_append, hstate, List.filterMap_append, hanswers, hanswers', Running.runEach]
      rfl

end Site

end PipelineSync
