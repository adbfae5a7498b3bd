import PipelineSync.Proofs.Engine.Start
import PipelineSync.Proofs.Engine.Stored
import PipelineSync.Proofs.Merge.Content

/-!
# The last good configuration

Whatever becomes of its cycles, an engine holds of each repository what was accepted of it last, and
the merge of all that with the local configuration: `run_lastGood`. The invariant is `HoldsMerge`,
and `Effect.holdsMerge` is what one step does to it.
-/

namespace PipelineSync

/-- The partial that an event makes part of the configuration, with its repository. -/
def Event.accepted? : Event → Option (Fingerprint × Partial)
  | settled f _ parsed (.ok (.merged _)) => parsed.toOption.map fun p => (f, p)
  | _ => none

/-- What each repository contributes after events: the partial that was accepted last, or else the
one that was there before. -/
def lastGood (before : KeyMap Fingerprint Partial) (events : List Event) :
    KeyMap Fingerprint Partial :=
  (events.filterMap Event.accepted?).foldl (fun partials a => partials.insert a.1 a.2) before

theorem lastGood_append (before : KeyMap Fingerprint Partial) (events later : List Event) :
    lastGood before (events ++ later) = lastGood (lastGood before events) later := by
  rw [lastGood, List.filterMap_append, List.foldl_append, lastGood, lastGood]

theorem get?_lastGood (before : KeyMap Fingerprint Partial) (events : List Event)
    (f : Fingerprint) :
    (lastGood before events).get? f =
      (((events.filterMap Event.accepted?).reverse.find? fun a => a.1 = f).map Prod.snd).or
        (before.get? f) := by
  rw [lastGood]
  induction events.filterMap Event.accepted? using List.reverseRecOn with
  | nil => rfl
  | append_singleton accepted a ih =>
    rw [List.foldl_append, List.foldl_cons, List.foldl_nil, KeyMap.get?_insert,
      List.reverse_append, List.reverse_singleton, List.singleton_append, List.find?_cons]
    by_cases hf : f = a.1
    · simp [hf]
    · rw [if_neg hf, ih, decide_eq_false (Ne.symm hf)]

theorem merge_partials {localConfig : LocalConfiguration} {ps : KeyMap Fingerprint Partial}
    {c : Configuration} (h : merge localConfig ps = .ok c) : c.partials = ps := by
  obtain ⟨m, -, -, rfl⟩ := merge_holds h
  rfl

/-- An engine holds partials, and the merge of them with a local configuration. -/
structure HoldsMerge (localConfig : LocalConfiguration) (partials : KeyMap Fingerprint Partial)
    (e : Engine) : Prop where
  localConfig_eq : e.localConfig = localConfig
  partials_eq : e.partials = partials
  merge_eq : merge localConfig partials = .ok e.merged

section Invariant

variable {localConfig : LocalConfiguration} {partials : KeyMap Fingerprint Partial}
  {e e' : Engine} {event : Event}

theorem Engine.restarted_holdsMerge {records : List UpdateRecord} {health : Health}
    {c : Configuration} (h : merge localConfig (restored localConfig records) = .ok c) :
    HoldsMerge localConfig (restored localConfig records)
      (restarted localConfig records health c) where
  localConfig_eq := rfl
  partials_eq := merge_partials h
  merge_eq := h

theorem Effect.holdsMerge (h : Effect event e e') (he : HoldsMerge localConfig partials e) :
    HoldsMerge localConfig (lastGood partials [event]) e' := by
  obtain ⟨hlocal, hpartials, hmerge⟩ := he
  cases h with
  | accepted f revision haccepted =>
    rw [hlocal, hpartials] at haccepted
    exact ⟨hlocal, merge_partials haccepted, haccepted⟩
  | _ => exact ⟨hlocal, hpartials, hmerge⟩

/-- A partial is accepted by the cycles that answer so, and by no others. -/
theorem Effect.accepted?_isSome_iff (h : Effect event e e') :
    event.accepted?.isSome = true ↔ ∃ revision, event.answer? = some (.ok (.merged revision)) := by
  cases h with
  | accepted f revision => exact ⟨fun _ => ⟨revision, rfl⟩, fun _ => rfl⟩
  | _ => exact ⟨nofun, nofun⟩

theorem Site.Step.lastGood {σ : Type} {w : World σ} {s s' : Site σ} {events : List Event}
    (h : Step w s events s') (hs : HoldsMerge localConfig partials s.engine) :
    HoldsMerge localConfig (lastGood partials events) s'.engine ∧
      ∀ event ∈ events, event.accepted?.isSome = true ↔
        ∃ revision, event.answer? = some (.ok (.merged revision)) := by
  rcases h.effect with ⟨rfl, tracker, heq⟩ | ⟨event, rfl, heffect⟩
  · rw [heq]
    exact ⟨⟨hs.localConfig_eq, hs.partials_eq, hs.merge_eq⟩, by simp⟩
  · exact ⟨heffect.holdsMerge hs, by simpa using heffect.accepted?_isSome_iff⟩

end Invariant

/-- After any run, whatever its cycles came to and in whatever order their steps were done, an
engine holds what was accepted last of each repository, or what was restored of it if nothing was,
and the merge of that with the local configuration. What was accepted is what the cycles that
answered `merged` have read, and the other cycles have no part in it. -/
theorem run_lastGood {σ : Type} {w : World σ} {localConfig : LocalConfiguration} {health : Health}
    {world world' : σ} {e : Engine}
    (hstart : Engine.start w localConfig health world = (.ok e, world'))
    {moves : List Move} {events : List Event} {s : Site σ}
    (hrun : Site.performAll w moves ⟨⟨e, world'⟩, ∅⟩ = (events, s)) :
    ∃ records, (w.loadAll world).1 = .ok records ∧
      (let M := lastGood (Engine.restored localConfig records) events
       merge localConfig M = .ok s.engine.merged ∧ s.engine.partials = M ∧
         s.engine.merged.partials = M) ∧
      ∀ event ∈ events, event.accepted?.isSome = true ↔
        ∃ revision, event.answer? = some (.ok (.merged revision)) := by
  obtain ⟨records, c, hload, hmerge, rfl⟩ := Engine.start_eq_ok_iff.1 (congrArg Prod.fst hstart)
  let restored := Engine.restored localConfig records
  let P (events : List Event) (s : Site σ) : Prop :=
    HoldsMerge localConfig (lastGood restored events) s.engine ∧
      ∀ event ∈ events, event.accepted?.isSome = true ↔
        ∃ revision, event.answer? = some (.ok (.merged revision))
  have hstep : ∀ before s fresh s', P before s → Site.Step w s fresh s' →
      P (before ++ fresh) s' := by
    rintro before s fresh s' ⟨hholds, hanswers⟩ hstep
    obtain ⟨hholds', hanswers'⟩ := hstep.lastGood hholds
    rw [← lastGood_append] at hholds'
    exact ⟨hholds', List.forall_mem_append.2 ⟨hanswers, hanswers'⟩⟩
  have hstarted : P [] ⟨⟨Engine.restarted localConfig records health c, world'⟩, ∅⟩ :=
    ⟨Engine.restarted_holdsMerge hmerge, by simp⟩
  obtain ⟨hholds, hanswers⟩ := Site.performAll_induction P hstep hstarted hrun
  exact ⟨records, hload,
    ⟨hholds.merge_eq, hholds.partials_eq, merge_partials hholds.merge_eq⟩, hanswers⟩

/-- An engine that starts with no records. -/
def appsEngine : Engine :=
  ((Engine.start (.ofScenario appsContents) {} {} {}).1.toOption).getD default

/-- A cycle of the site and one of the shop at the same time, whose steps alternate. -/
def siteAndShop : List Move :=
  let f := siteFingerprint
  let g := shopFingerprint
  [.begin siteMaterial true, .begin shopMaterial true, .advance f, .advance g, .advance g,
    .advance f, .advance f, .advance g, .leave g, .leave f]

/-- Both repositories define a pipeline. The one whose fragments are merged first has it. -/
theorem run_lastGood_siteAndShop :
    let world : Scenario :=
      { refreshes := [.ok ("/work/site", "site-1"), .ok ("/work/shop", "shop-1")] }
    let s := (Site.performAll (.ofScenario appsContents) siteAndShop ⟨⟨appsEngine, world⟩, ∅⟩).2
    s.engine.partials =
        .ofList [(siteFingerprint, appsPartial "site-1" ["home", "cart"])] ∧
      merge {} s.engine.partials = .ok s.engine.merged := by
  intro world s
  have hstart : Engine.start (.ofScenario appsContents) {} {} world = (.ok appsEngine, world) := rfl
  let run := Site.performAll (.ofScenario appsContents) siteAndShop ⟨⟨appsEngine, world⟩, ∅⟩
  obtain ⟨records, hload, ⟨hmerge, hpartials, -⟩, -⟩ := run_lastGood hstart (Prod.eta run).symm
  obtain rfl : [] = records := Except.ok.inj hload
  have hM : lastGood (Engine.restored {} []) run.1 =
      .ofList [(siteFingerprint, appsPartial "site-1" ["home", "cart"])] := by
    simp only [run, siteAndShop]
    rw [Site.performAll_begin_of_idle siteMaterial_fingerprint (by decide +kernel),
      Site.performAll_begin_of_idle shopMaterial_fingerprint (by decide +kernel)]
    decide +kernel
  rw [hM] at hmerge hpartials
  exact ⟨hpartials, hpartials ▸ hmerge⟩

end PipelineSync
