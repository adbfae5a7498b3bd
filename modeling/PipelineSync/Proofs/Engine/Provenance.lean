import PipelineSync.Engine.Host
import PipelineSync.Files.Entry
import PipelineSync.Proofs.Engine.LastGood
import PipelineSync.Proofs.Fragment.Together

/-!
# Where pipelines come from

A partial that is read of a working copy is of its repository and its revision, and so are all the
pipelines in it (`Partial.IsOf`). `Site.Attributed` takes this from the reading through open cycles
into the engine, where it has to fit the fingerprint the partial is kept under and the revision that
was merged last. `run_provenance` adds what a merge does with it: each pipeline is one of the
server's own or one of a single repository, and none of a repository is taken for one of the server.
-/

namespace PipelineSync

/-! ## Reading -/

/-- A partial of a repository at a revision. All its pipelines have its origin. -/
structure Partial.IsOf (f : Fingerprint) (revision : String) (p : Partial) : Prop where
  fingerprint_eq : p.origin.fingerprint = f
  revision_eq : p.origin.revision = revision
  pipelines : ∀ q ∈ p.pipelines, q.origin = .repository p.origin

theorem Fragment.origin_of_mem_ofElement {origin : RepositoryOrigin} {root : Element} {g : Group}
    {q : Pipeline} (hg : g ∈ (ofElement origin root).groups) (hq : q ∈ g.pipelines) :
    q.origin = .repository origin := by
  obtain ⟨groupElement, -, hgroup⟩ := List.mem_filterMap.1 hg
  obtain ⟨name, -, rfl⟩ := Option.map_eq_some_iff.1 hgroup
  obtain ⟨element, -, hpipeline⟩ := List.mem_filterMap.1 hq
  obtain ⟨name, -, rfl⟩ := Option.map_eq_some_iff.1 hpipeline
  rfl

section Reading

variable {validator : Validator} {origin : RepositoryOrigin}

theorem Fragment.origin_of_ofFound {found : Discovery.Found} {f : Fragment}
    (h : ofFound validator origin found = .ok f) {g : Group} {q : Pipeline} (hg : g ∈ f.groups)
    (hq : q ∈ g.pipelines) : q.origin = .repository origin := by
  rw [ofFound] at h
  split at h
  · cases h
  · rw [parse] at h
    obtain ⟨root, -, h⟩ := bind_eq_ok_iff.1 h
    obtain ⟨_, -, h⟩ := bind_eq_ok_iff.1 h
    obtain rfl := Except.ok.inj h
    exact origin_of_mem_ofElement hg hq

theorem Collection.origin_of_mem_declaredGroups {files : List Discovery.Found} {g : Group}
    {q : Pipeline} (hg : g ∈ declaredGroups validator origin files) (hq : q ∈ g.pipelines) :
    q.origin = .repository origin := by
  obtain ⟨⟨path, f⟩, hf, hg⟩ := List.mem_flatMap.1 hg
  obtain ⟨found, -, hfound⟩ := List.mem_filterMap.1 hf
  obtain ⟨f', hread, heq⟩ := Option.map_eq_some_iff.1 hfound
  obtain rfl := (Prod.mk.inj heq).2
  exact Fragment.origin_of_ofFound (toOption_eq_some_iff.1 hread) hg hq

theorem Partial.parse_origin {files : Files} {root : String} {isIgnored : String → Bool}
    {p : Partial} (h : parse validator files root isIgnored origin = .ok p) :
    p.origin = origin ∧ ∀ q ∈ p.pipelines, q.origin = .repository origin := by
  rw [parse] at h
  obtain ⟨found, -, h⟩ := bind_eq_ok_iff.1 h
  obtain ⟨c, hc, h⟩ := bind_eq_ok_iff.1 h
  obtain rfl := Except.ok.inj h
  obtain ⟨-, rfl⟩ := Collection.ofFiles_eq_ok_iff.1 hc
  refine ⟨rfl, fun q hq => ?_⟩
  have hq := (Group.joined_perm _).mem_iff.1 hq
  obtain ⟨g, hg, hq⟩ := List.mem_flatMap.1 hq
  exact Collection.origin_of_mem_declaredGroups hg hq

end Reading

section Host

variable {ρ : Type} {scm : Scm ρ} {copies : WorkingCopies} {validator : Validator}
  {store : RecordStore ρ}

theorem Partial.read_answer (m : Material) (directory revision : String) (h : Host ρ) :
    (read validator m directory revision h).1 =
      ofWorkingCopy validator h.files directory m revision := by
  simp only [read, Host.Action.bind_apply, Host.Action.get_apply, Host.Action.modify_apply]
  cases ofWorkingCopy validator h.files directory m revision <;> rfl

theorem World.isOf_of_parse_ofHost {m : Material} {directory revision : String} {h : Host ρ}
    {p : Partial}
    (hp : ((ofHost scm copies validator store).parse m directory revision h).1 = .ok p) :
    p.IsOf m.fingerprint revision := by
  have hread : Partial.ofWorkingCopy validator h.files directory m revision = .ok p := by
    rw [← Partial.read_answer]
    exact hp
  obtain ⟨horigin, hpipelines⟩ := Partial.parse_origin hread
  exact ⟨horigin ▸ rfl, horigin ▸ rfl, horigin ▸ hpipelines⟩

end Host

/-! ## What a step keeps -/

/-- The revision that an event makes part of the configuration for a repository. -/
def Event.mergedRevision? (f : Fingerprint) : Event → Option String
  | settled g _ _ (.ok (.merged revision)) => if f = g then some revision else none
  | _ => none

/-- The revision of a repository that was merged last. -/
def mergedRevision? (f : Fingerprint) (events : List Event) : Option String :=
  events.reverse.findSome? (Event.mergedRevision? f)

theorem mergedRevision?_append_singleton (f : Fingerprint) (events : List Event) (event : Event) :
    mergedRevision? f (events ++ [event]) =
      (event.mergedRevision? f).or (mergedRevision? f events) := by
  rw [mergedRevision?, List.reverse_append, List.reverse_singleton, List.singleton_append,
    List.findSome?_cons]
  cases event.mergedRevision? f <;> rfl

/-- Each partial of an engine is of the repository it is kept for, at the revision that was merged
last. -/
def Engine.Attributed (events : List Event) (e : Engine) : Prop :=
  ∀ f p, e.partials.get? f = some p →
    ∃ revision, mergedRevision? f events = some revision ∧ p.IsOf f revision

/-- What a cycle has read is of its repository at the revision of the working copy. -/
def CycleStage.Attributed (f : Fingerprint) : CycleStage → Prop
  | parsed revision result => ∀ p, result = .ok p → p.IsOf f revision
  | _ => True

/-- What an event tells to have been read is of its repository at its revision. -/
def Event.Attributed : Event → Prop
  | settled f revision parsed _ => ∀ p, parsed = .ok p → p.IsOf f revision
  | _ => True

theorem Effect.attributed {event : Event} {e e' : Engine} {events : List Event}
    (h : Effect event e e') (hevent : event.Attributed) (he : e.Attributed events) :
    e'.Attributed (events ++ [event]) := by
  intro f p hp
  rw [mergedRevision?_append_singleton]
  cases h with
  | @accepted _ g revision q c haccepted now =>
    change c.partials.get? f = some p at hp
    rw [merge_partials haccepted, KeyMap.get?_insert] at hp
    split at hp
    · next hf =>
      obtain rfl := Option.some.inj hp
      exact ⟨revision, by simp [Event.mergedRevision?, hf], hf ▸ hevent _ rfl⟩
    · next hf =>
      obtain ⟨revision', hrevision, hisOf⟩ := he f p hp
      exact ⟨revision', by simp [Event.mergedRevision?, hf, hrevision], hisOf⟩
  | _ => exact he f p hp

section Site

variable {σ : Type} {w : World σ}

/-- A site whose engine and whose cycles are clear about where partials come from. -/
structure Site.Attributed (events : List Event) (s : Site σ) : Prop where
  engine : s.engine.Attributed events
  cycles : ∀ f c, s.cycles.get? f = some c → c.material.fingerprint = f ∧ c.stage.Attributed f

theorem Site.Step.event_attributed {s s' : Site σ} {before events : List Event}
    (h : Step w s events s') (hs : s.Attributed before) : ∀ event ∈ events, event.Attributed := by
  cases h with
  | @settled f c hc revision parsed hstage =>
    intro event hevent
    obtain rfl := List.mem_singleton.1 hevent
    have hread := (hs.cycles f c hc).2
    rw [hstage] at hread
    exact hread
  | idle | claimed | parsed | left => exact fun _ hevent => nomatch hevent
  | turnedAway | fetched | unchanged =>
    intro event hevent
    obtain rfl := List.mem_singleton.1 hevent
    trivial

theorem Site.Step.attributed
    (hparse : ∀ m directory revision world p,
      (w.parse m directory revision world).1 = .ok p → p.IsOf m.fingerprint revision)
    {s s' : Site σ} {before events : List Event} (h : Step w s events s')
    (hs : s.Attributed before) : s'.Attributed (before ++ events) := by
  have hevents := h.event_attributed hs
  constructor
  · rcases h.effect with ⟨rfl, tracker, heq⟩ | ⟨event, rfl, heffect⟩
    · rw [heq, List.append_nil]
      exact hs.engine
    · exact heffect.attributed (hevents event List.mem_cons_self) hs.engine
  · refine h.cycles (fun f stage => stage.Attributed f) ?_ hparse hs.cycles
    intro f stage hunread
    cases stage with
    | parsed revision parsed => exact absurd rfl (hunread revision parsed)
    | _ => trivial

end Site

/-! ## What a merge does with it -/

section Merge

variable {localConfig : LocalConfiguration} {partials : KeyMap Fingerprint Partial}
  {c : Configuration}

theorem merge_pipelines_perm (h : merge localConfig partials = .ok c) :
    c.pipelines.Perm
      (localConfig.groups.flatMap Group.pipelines ++ partials.values.flatMap Partial.pipelines) := by
  obtain ⟨m, hm, -, rfl⟩ := merge_holds h
  have hperm := hm.pipelines_perm
  rw [declaredGroups, List.flatMap_append, List.flatMap_assoc] at hperm
  exact hperm

theorem merge_pipelines_nodup (h : merge localConfig partials = .ok c) : c.pipelines.Nodup := by
  obtain ⟨m, hm, -, rfl⟩ := merge_holds h
  exact hm.pipelines_distinct.imp fun {p q} hpq (heq : p = q) => hpq (heq ▸ Name.same_self _)

theorem mem_values_pipelines_iff {q : Pipeline} :
    q ∈ partials.values.flatMap Partial.pipelines ↔
      ∃ f p, partials.get? f = some p ∧ q ∈ p.pipelines := by
  simp only [List.mem_flatMap, KeyMap.mem_values_iff]
  constructor
  · rintro ⟨p, ⟨f, hp⟩, hq⟩
    exact ⟨f, p, hp, hq⟩
  · rintro ⟨f, p, hp, hq⟩
    exact ⟨p, ⟨f, hp⟩, hq⟩

/-- A pipeline of a merge is the server's own, or else a repository has it. -/
theorem merge_pipelines_local_or_not (h : merge localConfig partials = .ok c) {q : Pipeline}
    (hq : q ∈ c.pipelines) :
    (q ∈ localConfig.groups.flatMap Group.pipelines ∧
        ∀ f p, partials.get? f = some p → q ∉ p.pipelines) ∨
      (q ∉ localConfig.groups.flatMap Group.pipelines ∧
        ∃ f p, partials.get? f = some p ∧ q ∈ p.pipelines) := by
  have hperm := merge_pipelines_perm h
  have hdisjoint := List.disjoint_of_nodup_append (hperm.nodup_iff.1 (merge_pipelines_nodup h))
  rcases List.mem_append.1 (hperm.mem_iff.1 hq) with hlocal | hpartial
  · refine Or.inl ⟨hlocal, fun f p hp hq => hdisjoint hlocal ?_⟩
    exact mem_values_pipelines_iff.2 ⟨f, p, hp, hq⟩
  · exact Or.inr ⟨fun hlocal => hdisjoint hlocal hpartial, mem_values_pipelines_iff.1 hpartial⟩

end Merge

/-- After any run of an engine that started with nothing saved, each partial it holds is of the
repository under whose fingerprint it is kept, at the revision that was merged last of it, and all
pipelines of the partial have its origin. A pipeline of the merged configuration is one of the local
configuration as it stands there and no partial has it, or exactly one partial has it and the local
configuration has not. So all that a partial has is in the merged configuration, and none of it is
shown as local. -/
theorem run_provenance {ρ : Type} {scm : Scm ρ} {copies : WorkingCopies} {validator : Validator}
    {store : RecordStore ρ} {localConfig : LocalConfiguration} {health : Health}
    {world world' : Host ρ} {e : Engine} (hempty : (store.loadAll world).1 = .ok [])
    (hstart : Engine.start (.ofHost scm copies validator store) localConfig health world =
      (.ok e, world'))
    {moves : List Move} {events : List Event} {s : Site (Host ρ)}
    (hrun : Site.performAll (.ofHost scm copies validator store) moves ⟨⟨e, world'⟩, ∅⟩ =
      (events, s)) :
    (∀ f p, s.engine.partials.get? f = some p →
      p.origin.fingerprint = f ∧
      mergedRevision? f events = some p.origin.revision ∧
      ∀ q ∈ p.pipelines, q.origin = .repository p.origin) ∧
    (∀ q ∈ s.engine.merged.pipelines,
      (q ∈ localConfig.groups.flatMap Group.pipelines ∧
        ∀ f p, s.engine.partials.get? f = some p → q ∉ p.pipelines) ∨
      (q ∉ localConfig.groups.flatMap Group.pipelines ∧
        ∃! f, ∃ p, s.engine.partials.get? f = some p ∧ q ∈ p.pipelines)) ∧
    ∀ f p, s.engine.partials.get? f = some p →
      ∀ q ∈ p.pipelines, q ∈ s.engine.merged.pipelines ∧ q.isLocal = false := by
  obtain ⟨records, c, hload, hmerge, rfl⟩ := Engine.start_eq_ok_iff.1 (congrArg Prod.fst hstart)
  obtain rfl : records = [] := Except.ok.inj (hload.symm.trans hempty)
  let P (events : List Event) (s : Site (Host ρ)) : Prop :=
    s.Attributed events ∧ HoldsMerge localConfig s.engine.partials s.engine
  have hstep : ∀ before s fresh s', P before s →
      Site.Step (.ofHost scm copies validator store) s fresh s' → P (before ++ fresh) s' := by
    rintro before s fresh s' ⟨hattributed, hholds⟩ hstep
    have hholds' := (hstep.lastGood hholds).1
    refine ⟨hstep.attributed (fun _ _ _ _ _ => World.isOf_of_parse_ofHost) hattributed, ?_⟩
    rw [hholds'.partials_eq]
    exact hholds'
  have hnone : Engine.restored localConfig [] = ∅ := by
    rw [Engine.restored]
    split <;> rfl
  have hstarted : P [] ⟨⟨Engine.restarted localConfig [] health c, world'⟩, ∅⟩ := by
    have hholds : HoldsMerge localConfig (Engine.restored localConfig [])
        (Engine.restarted localConfig [] health c) := Engine.restarted_holdsMerge hmerge
    rw [hnone] at hholds
    refine ⟨⟨fun f p hp => ?_, by simp⟩, hholds.partials_eq.symm ▸ hholds⟩
    change (Engine.restarted localConfig [] health c).partials.get? f = some p at hp
    rw [hholds.partials_eq] at hp
    cases hp
  obtain ⟨hattributed, hholds⟩ := Site.performAll_induction P hstep hstarted hrun
  have horigin (f : Fingerprint) (p : Partial) (hp : s.engine.partials.get? f = some p) :
      p.origin.fingerprint = f ∧ mergedRevision? f events = some p.origin.revision ∧
        ∀ q ∈ p.pipelines, q.origin = .repository p.origin := by
    obtain ⟨revision, hrevision, hisOf⟩ := hattributed.engine f p hp
    exact ⟨hisOf.fingerprint_eq, hisOf.revision_eq ▸ hrevision, hisOf.pipelines⟩
  refine ⟨horigin, fun q hq => ?_, fun f p hp q hq => ⟨?_, ?_⟩⟩
  · refine (merge_pipelines_local_or_not hholds.merge_eq hq).imp_right ?_
    rintro ⟨hlocal, f, p, hp, hq⟩
    refine ⟨hlocal, f, ⟨p, hp, hq⟩, ?_⟩
    rintro f' ⟨p', hp', hq'⟩
    -- the origin of the pipeline names the repository
    obtain ⟨hf, -, hpipelines⟩ := horigin f p hp
    obtain ⟨hf', -, hpipelines'⟩ := horigin f' p' hp'
    have hsame : p'.origin = p.origin :=
      Origin.repository.inj ((hpipelines' q hq').symm.trans (hpipelines q hq))
    rw [← hf', hsame, hf]
  · refine (merge_pipelines_perm hholds.merge_eq).mem_iff.2 (List.mem_append_right _ ?_)
    exact mem_values_pipelines_iff.2 ⟨f, p, hp, hq⟩
  · rw [Pipeline.isLocal, (horigin f p hp).2.2 q hq]
    rfl

/-- A config repository on the server's own disk. -/
def diskMaterial : Material := { kind := .git, url := "/srv/config.git" }

/-- The fingerprint of the repository. -/
def diskFingerprint : Fingerprint :=
  ⟨"d110ce5bf1cca258ccd1867fda4c16b17ac1f1a2470abf42797e9f1d0cd9bc5c"⟩

theorem diskMaterial_fingerprint : diskMaterial.fingerprint = diskFingerprint := by
  decide +kernel

/-- Version control that puts the same files into every working copy. -/
def Scm.constant {ρ : Type} (revision : String) (files : List FileEntry) : Scm ρ :=
  let put (dir : String) : Host.Action ρ String := do
    modify fun h => { h with files := h.files.putBelow dir files }
    return revision
  { checkout := fun _ dir => put dir
    update := fun _ dir => put dir
    originMatches := fun _ _ => return true }

/-- Surroundings in which nothing is saved and each repository has one pipeline. -/
def onePipelineWorld : World (Host Unit) :=
  let file := Collection.sampleFile "apps.gocd.xml" "apps" "home"
  .ofHost (.constant "r1" [⟨file.relative, some file.content⟩]) ⟨"/work"⟩ Collection.lenient
    ⟨pure [], fun _ => pure ()⟩

/-- The pipeline is of the repository at the revision that was merged. -/
theorem run_provenance_onePipeline :
    let started := Engine.start onePipelineWorld sampleLocal {} { rest := () }
    let e := started.1.toOption.getD default
    let f := diskFingerprint
    let moves : List Move :=
      [.begin diskMaterial false, .advance f, .advance f, .advance f, .leave f]
    let run := Site.performAll onePipelineWorld moves ⟨⟨e, started.2⟩, ∅⟩
    ∃ p, run.2.engine.partials.get? f = some p ∧
      p.pipelines.map (fun q => q.name.text) = ["home"] ∧
      p.origin.fingerprint = f ∧ mergedRevision? f run.1 = some p.origin.revision ∧
      ∀ q ∈ p.pipelines, q ∈ run.2.engine.merged.pipelines ∧ q.isLocal = false := by
  intro started e f moves run
  have hempty : (onePipelineWorld.loadAll { rest := () }).1 = .ok [] := rfl
  have hstart : Engine.start onePipelineWorld sampleLocal {} { rest := () } =
      (.ok e, started.2) := rfl
  have hhome : (run.2.engine.partials.get? f).map
      (fun p => p.pipelines.map fun q => q.name.text) = some ["home"] := by
    simp only [run, moves]
    rw [Site.performAll_begin_of_idle diskMaterial_fingerprint (by decide +kernel)]
    decide +kernel
  obtain ⟨p, hp, hnames⟩ := Option.map_eq_some_iff.1 hhome
  obtain ⟨horigin, -, hmerged⟩ := run_provenance hempty hstart (Prod.eta run).symm
  obtain ⟨hf, hrevision, -⟩ := horigin f p hp
  exact ⟨p, hp, hnames, hf, hrevision, hmerged f p hp⟩

end PipelineSync
