import PipelineSync.Proofs.Engine.Steps
import PipelineSync.Proofs.Merge.Passwords
import PipelineSync.Record.Store

/-!
# What the steps of cycles save

`World.Keeps` is what an engine relies on when it saves records: a save that goes well puts a record
in the place of the one with its key, and nothing else changes what is saved. Then the record of a
repository is saved just when an event says so: `Site.Step.stored`.
-/

namespace PipelineSync

variable {σ : Type}

/-- The surroundings keep records, `stored` of which is what is saved, apart from passwords. -/
structure World.Keeps (w : World σ) (stored : σ → KeyMap Fingerprint UpdateRecord) : Prop where
  refresh : ∀ m world, stored (w.refresh m world).2 = stored world
  parse : ∀ m directory revision world,
    stored (w.parse m directory revision world).2 = stored world
  log : ∀ line world, stored (w.log line world) = stored world
  loadAll : ∀ world, stored (w.loadAll world).2 = stored world
  loaded : ∀ world records, (w.loadAll world).1 = .ok records →
    (records.map UpdateRecord.withoutPasswords).Perm (stored world).values
  save_ok : ∀ r world, (w.save r world).1 = .ok () →
    stored (w.save r world).2 = (stored world).insert r.key r.withoutPasswords
  save_error : ∀ r world e, (w.save r world).1 = .error e →
    stored (w.save r world).2 = stored world

namespace Event

/-- The repository that an event is about. -/
def fingerprint : Event → Fingerprint
  | turnedAway f | fetched f _ | unchanged f _ | settled f _ _ _ => f

/-- How saving the record went that the engine holds after an event, if it is a new one. -/
def saved? : Event → Option (Except Error Unit)
  | fetched _ result => result.saved
  | settled _ _ _ (.ok _) => some (.ok ())
  | _ => none

/-- What is saved after an event that leaves the engine as `e`. -/
def store (e : Engine) (saved : KeyMap Fingerprint UpdateRecord) (event : Event) :
    KeyMap Fingerprint UpdateRecord :=
  match event.saved?, e.records.get? event.fingerprint with
  | some (.ok ()), some r => saved.insert event.fingerprint r.withoutPasswords
  | _, _ => saved

end Event

/-- Every record lies under its own key. -/
def Keyed (records : KeyMap Fingerprint UpdateRecord) : Prop :=
  ∀ f r, records.get? f = some r → r.key = f

theorem Keyed.insert {records : KeyMap Fingerprint UpdateRecord} (h : Keyed records)
    {f : Fingerprint} {r : UpdateRecord} (hr : r.key = f) : Keyed (records.insert f r) := by
  intro g r' hg
  rw [KeyMap.get?_insert] at hg
  split at hg
  · next hgf => rw [← Option.some.inj hg, hr, hgf]
  · exact h g r' hg

theorem Keyed.recordFor_key {e : Engine} (h : Keyed e.records) (f : Fingerprint) (now : Time) :
    (e.recordFor f now).key = f := by
  rw [Engine.recordFor]
  cases hr : e.records.get? f with
  | none => rfl
  | some r => exact h f r hr

theorem Effect.keyed {event : Event} {e e' : Engine} (h : Effect event e e')
    (hkeys : Keyed e.records) : Keyed e'.records := by
  cases h with
  | turnedAway | unchanged | checkoutFine | failed => exact hkeys
  | checkoutFailed f | accepted f | rejected f => exact hkeys.insert (hkeys.recordFor_key f _)
  | checkoutCleared f _ _ hr =>
    have hkey := hkeys f _ hr
    exact hkeys.insert hkey

namespace Running

variable {w : World σ} {stored : σ → KeyMap Fingerprint UpdateRecord} {s : Running σ}
  {f : Fingerprint} {r : UpdateRecord}

theorem setHealth_stored (hw : w.Keeps stored) (scope : HealthScope)
    (message description : String) (s : Running σ) :
    stored (s.setHealth w scope message description).world = stored s.world :=
  hw.log _ _

theorem clearHealth_stored (hw : w.Keeps stored) (scope : HealthScope) (s : Running σ) :
    stored (s.clearHealth w scope).world = stored s.world := by
  rw [clearHealth]
  split
  · exact hw.log _ _
  · rfl

theorem sayCompleted_stored (hw : w.Keeps stored) (callbacks : Nat) (result : Except Error Unit)
    (s : Running σ) : stored (s.sayCompleted w callbacks result).world = stored s.world := by
  cases result with
  | ok => exact hw.log _ _
  | error e => exact (hw.log _ _).trans (hw.log _ _)

/-- A record that is kept is saved, or it could not be. -/
theorem keepRecord_stored (hw : w.Keeps stored) (hr : r.key = f)
    (copy : Except Error (String × String)) (s : Running σ) :
    stored (s.keepRecord w f r).2.world =
      Event.store (s.keepRecord w f r).2.engine (stored s.world)
        (.fetched f ⟨copy, some (s.keepRecord w f r).1⟩) := by
  have hok := hw.save_ok r s.world
  have herror := hw.save_error r s.world
  rw [keepRecord_engine, keepRecord, save]
  rcases hsave : w.save r s.world with ⟨e | _, world⟩ <;> rw [hsave] at hok herror
  · exact (hw.log _ _).trans (herror e rfl)
  · simpa [Event.store, Event.saved?, Event.fingerprint, hr, setRecord, change] using hok rfl

theorem fetch_stored (hw : w.Keeps stored) (hkeys : Keyed s.engine.records) (m : Material) :
    stored (s.fetch w m f).2.world =
      Event.store (s.fetch w m f).2.engine (stored s.world) (.fetched f (s.fetch w m f).1) := by
  have hworld := hw.refresh m s.world
  rcases hrefresh : w.refresh m s.world with ⟨e | copy, world⟩ <;> rw [hrefresh] at hworld
  · rw [fetch_of_error hrefresh]
    dsimp only
    rw [recordCheckoutFailure, ← hworld,
      ← setHealth_stored hw (.material f) ("Failed to update working copy of " ++ m.text) e.message
        { s with world }]
    refine keepRecord_stored hw ?_ (.error e) _
    exact hkeys.recordFor_key f _
  · rw [fetch_of_ok hrefresh, ← hworld, ← clearHealth_stored hw (.material f) { s with world }]
    rcases clearCheckoutFailure_cases w f ({ s with world }.clearHealth w (.material f)) with
      ⟨heq, -⟩ | ⟨r, hr, -, heq⟩
    · rw [heq]
      rfl
    · rw [clearHealth_engine] at hr
      rw [heq]
      refine keepRecord_stored hw ?_ (.ok copy) _
      exact hkeys f r hr

/-- A record that is committed is saved, or nothing becomes of it. -/
theorem commit_stored (hw : w.Keeps stored) (hr : r.key = f) (revision : String)
    (parsed : Except Error Partial) (outcome : CycleOutcome) {publish : Running σ → Running σ}
    (hworld : ∀ t, stored (publish t).world = stored t.world)
    (hrecord : ∀ t, (publish t).engine.records.get? f = some r) (s : Running σ) :
    stored (s.commit w r publish).2.world =
      Event.store (s.commit w r publish).2.engine (stored s.world)
        (.settled f revision parsed ((s.commit w r publish).1.map fun _ => outcome)) := by
  have hok := hw.save_ok r s.world
  have herror := hw.save_error r s.world
  rw [commit_eq, save]
  rcases hsave : w.save r s.world with ⟨e | _, world⟩ <;> rw [hsave] at hok herror
  · exact (sayCompleted_stored hw ..).trans (herror e rfl)
  · have hstored := (hworld { s with world }).trans (hok rfl)
    simp [Except.map, Event.store, Event.saved?, Event.fingerprint, sayCompleted_stored hw, hrecord,
      hstored, hr]

theorem settle_stored (hw : w.Keeps stored) (hkeys : Keyed s.engine.records) (m : Material)
    (revision : String) (parsed : Except Error Partial) :
    stored (s.settle w m f revision parsed).2.world =
      Event.store (s.settle w m f revision parsed).2.engine (stored s.world)
        (.settled f revision parsed (s.settle w m f revision parsed).1) := by
  have hkey := hkeys.recordFor_key f (w.now s.world)
  cases h : parsed.bind (s.engine.candidate f) with
  | ok c =>
    obtain ⟨p, rfl, hc⟩ := exists_candidate_of_bind h
    rw [settle_of_accepted hc, commitMerged]
    refine commit_stored hw ?_ revision (.ok p) (.merged revision) (fun t => ?_) (fun t => ?_) s
    · exact hkey
    · exact (clearHealth_stored hw _ _).trans (hw.log _ _)
    · rw [clearHealth_engine, setRecord_engine, KeyMap.get?_insert_self]
  | error e =>
    rw [settle_of_rejected h]
    split
    · rw [commitFault]
      refine commit_stored hw ?_ revision parsed (.faulted revision e.message) (fun t => ?_)
        (fun t => ?_) s
      · exact hkey
      · exact setHealth_stored hw _ _ _ _
      · rw [setRecord_engine, KeyMap.get?_insert_self]
    · rfl

theorem claim?_stored (hw : w.Keeps stored) (m : Material) (s : Running σ) :
    stored (s.claim? w m).2.world = stored s.world := by
  rw [claim?]
  split <;> exact hw.log _ _

end Running

/-- What a step saves is told by what it brings to light. -/
theorem Site.Step.stored {w : World σ} {stored : σ → KeyMap Fingerprint UpdateRecord}
    {s s' : Site σ} {events : List Event} (hw : w.Keeps stored)
    (hkeys : Keyed s.engine.records) (h : Step w s events s') :
    stored s'.world = events.foldl (Event.store s'.engine) (stored s.world) := by
  cases h with
  | idle => rfl
  | turnedAway m => exact Running.claim?_stored hw m _
  | claimed m => exact Running.claim?_stored hw m _
  | fetched => exact Running.fetch_stored hw hkeys _
  | unchanged => exact hw.log _ _
  | parsed => exact hw.parse _ _ _ _
  | settled => exact Running.settle_stored hw hkeys _ _ _
  | left => exact hw.log _ _

/-! ## Scenarios -/

/-- What will come of refreshing working copies and of saving records, and what has been saved.
Beyond its end nothing can be refreshed, and every save goes well. -/
structure Scenario where
  refreshes : List (Except Error (String × String)) := []
  saves : List (Except Error Unit) := []
  records : RecordTable := ∅

/-- Surroundings that follow a scenario, with fragments that depend on the revision alone. -/
def World.ofScenario (contents : Fingerprint → String → Except Error Partial) : World Scenario where
  refresh m world :=
    match world.refreshes with
    | [] => (.error (.checkoutFailed m.maskedUrl "unreachable"), world)
    | result :: rest => (result, { world with refreshes := rest })
  parse m _ revision world := (contents m.fingerprint revision, world)
  loadAll world := (.ok world.records.loadAll, world)
  save r world :=
    match world.saves with
    | [] => (.ok (), { world with records := world.records.save r })
    | .ok () :: rest => (.ok (), { world with saves := rest, records := world.records.save r })
    | .error e :: rest => (.error e, { world with saves := rest })
  now _ := { date := ⟨2024, 1, 2⟩, hour := 3, minute := 4, second := 5 }
  log _ world := world

/-- What is saved in a scenario, without passwords. -/
def Scenario.stored (world : Scenario) : KeyMap Fingerprint UpdateRecord :=
  world.records.map fun _ => UpdateRecord.withoutPasswords

theorem World.ofScenario_keeps (contents : Fingerprint → String → Except Error Partial) :
    (World.ofScenario contents).Keeps Scenario.stored where
  refresh m world := by
    simp only [ofScenario]
    split <;> rfl
  parse _ _ _ _ := rfl
  log _ _ := rfl
  loadAll _ := rfl
  loaded world records h := by
    obtain rfl : world.records.values = records := Except.ok.inj h
    exact .of_eq (KeyMap.values_map _ _).symm
  save_ok r world := by
    simp only [ofScenario]
    split
    · exact fun _ => KeyMap.map_insert ..
    · exact fun _ => KeyMap.map_insert ..
    · intro h
      cases h
  save_error r world e := by
    simp only [ofScenario]
    split
    · intro h
      cases h
    · intro h
      cases h
    · exact fun _ => rfl

/-- A repository of the scenarios. -/
def siteMaterial : Material := { kind := .git, url := "https://example.com/site.git" }

/-- Another repository of the scenarios. -/
def shopMaterial : Material := { kind := .git, url := "https://example.com/shop.git" }

/-- The fingerprint of the site. -/
def siteFingerprint : Fingerprint :=
  ⟨"73a242c6de1ac2e4adf6c5c54d6af69a3512825bff553b662b039312221ae5df"⟩

/-- The fingerprint of the shop. -/
def shopFingerprint : Fingerprint :=
  ⟨"286020871d9673a171004226c9298bdcc5fdf0d542b55749d5ae7ebdfeb61849"⟩

theorem siteMaterial_fingerprint : siteMaterial.fingerprint = siteFingerprint := by
  decide +kernel

theorem shopMaterial_fingerprint : shopMaterial.fingerprint = shopFingerprint := by
  decide +kernel

/-- A partial of one group. -/
def appsPartial (revision : String) (names : List String) : Partial where
  origin := ⟨⟨revision⟩, "https://example.com", revision⟩
  groups := [⟨"apps", names.map fun name => { name := ⟨name⟩ }⟩]

/-- The fragments of the two repositories. Those of the shop do not go together with those of the
site at first, and do not go without them later. -/
def appsContents (_ : Fingerprint) : String → Except Error Partial
  | "site-1" => .ok (appsPartial "site-1" ["home", "cart"])
  | "shop-1" => .ok (appsPartial "shop-1" ["cart"])
  | "shop-2" => .ok { appsPartial "shop-2" ["checkout"] with
      environments := [{ name := ⟨"prod"⟩, pipelines := [⟨"home"⟩] }] }
  | _ => .error (.malformedDocument "apps.gocd.xml" none "unexpected end")

end PipelineSync
