import PipelineSync.Engine.Start
import PipelineSync.Proofs.Engine.Steps
import PipelineSync.Proofs.Merge.Sources

/-!
# What an engine starts with

`Engine.start_eq` says what an engine makes of the records that were saved, apart from what it tells
while it does so.
-/

namespace PipelineSync

/-- Health with the faults in a record reported. -/
def Health.restore (h : Health) (r : UpdateRecord) : Health :=
  let h := match r.lastFault with
    | some fault => h.error (.configRepository r.key) fault.message fault.description
    | none => h
  match r.lastCheckoutFault with
  | some fault => h.error (.material r.key) fault.message fault.description
  | none => h

/-- A fault as a health entry shows it. -/
def Fault.entry (fault : Fault) : HealthEntry := ⟨.error, fault.message, fault.description⟩

namespace Health

theorem get?_error (h : Health) (scope : HealthScope) (message description : String)
    (scope' : HealthScope) :
    (h.error scope message description).get? scope' =
      if scope' = scope then some ⟨.error, message, description⟩ else h.get? scope' :=
  KeyMap.get?_insert ..

theorem get?_clear (h : Health) (scope scope' : HealthScope) :
    (h.clear scope).get? scope' = if scope' = scope then none else h.get? scope' :=
  KeyMap.get?_erase ..

theorem get?_restore_repository (h : Health) (r : UpdateRecord) (f : Fingerprint) :
    (h.restore r).get? (.configRepository f) =
      if f = r.key then (r.lastFault.map Fault.entry).or (h.get? (.configRepository f))
      else h.get? (.configRepository f) := by
  rw [restore]
  cases r.lastFault <;> cases r.lastCheckoutFault <;> simp [get?_error, Fault.entry]

theorem get?_restore_material (h : Health) (r : UpdateRecord) (f : Fingerprint) :
    (h.restore r).get? (.material f) =
      if f = r.key then (r.lastCheckoutFault.map Fault.entry).or (h.get? (.material f))
      else h.get? (.material f) := by
  rw [restore]
  cases r.lastFault <;> cases r.lastCheckoutFault <;> simp [get?_error, Fault.entry]

theorem get?_restore_global (h : Health) (r : UpdateRecord) :
    (h.restore r).get? .global = h.get? .global := by
  rw [restore]
  cases r.lastFault <;> cases r.lastCheckoutFault <;> simp [get?_error]

end Health

namespace Engine

/-- What remains of the partials in records: all of them or none. -/
def restored (localConfig : LocalConfiguration) (records : List UpdateRecord) :
    KeyMap Fingerprint Partial :=
  match merge localConfig (restoredPartials records) with
  | .ok _ => restoredPartials records
  | .error _ => ∅

/-- Health with the faults in records reported, and with what happened to their partials. -/
def restoredHealth (localConfig : LocalConfiguration) (records : List UpdateRecord)
    (health : Health) : Health :=
  let reported := records.foldl Health.restore health
  match merge localConfig (restoredPartials records) with
  | .ok _ => reported
  | .error c => reported.error .global discardedMessage c.toError.message

/-- An engine with the configuration and the records it starts with. -/
def restarted (localConfig : LocalConfiguration) (records : List UpdateRecord) (health : Health)
    (c : Configuration) : Engine where
  localConfig
  partials := c.partials
  merged := c
  records := .ofList (records.map fun r => (r.key, r))
  health := restoredHealth localConfig records health

variable {σ : Type}

theorem restoreHealth_engine (w : World σ) (s : Running σ) (r : UpdateRecord) :
    (restoreHealth w s r).engine = { s.engine with health := s.engine.health.restore r } := by
  rw [restoreHealth, Health.restore]
  cases r.lastFault <;> cases r.lastCheckoutFault <;> rfl

theorem foldl_restoreHealth_engine (w : World σ) (records : List UpdateRecord) (s : Running σ) :
    (records.foldl (restoreHealth w) s).engine =
      { s.engine with health := records.foldl Health.restore s.engine.health } := by
  induction records generalizing s with
  | nil => rfl
  | cons r records ih => rw [List.foldl_cons, ih, restoreHealth_engine, List.foldl_cons]

theorem restoreMerged_of_ok {w : World σ} {ps : KeyMap Fingerprint Partial} {s : Running σ}
    {c : Configuration} (h : merge s.engine.localConfig ps = .ok c) :
    restoreMerged w ps s = (.ok c, s) := by
  rw [restoreMerged, h]

theorem restoreMerged_of_error {w : World σ} {ps : KeyMap Fingerprint Partial} {s : Running σ}
    {c : Conflict} (h : merge s.engine.localConfig ps = .error c) :
    (restoreMerged w ps s).1 = (merge s.engine.localConfig ∅).mapError Conflict.toError ∧
      (restoreMerged w ps s).2.engine = { s.engine with
        health := s.engine.health.error .global discardedMessage c.toError.message } := by
  rw [restoreMerged, h]
  exact ⟨rfl, rfl⟩

theorem start_eq (w : World σ) (localConfig : LocalConfiguration) (health : Health) (world : σ) :
    (start w localConfig health world).1 =
      (w.loadAll world).1.bind fun records =>
        ((merge localConfig (restored localConfig records)).mapError Conflict.toError).map
          (restarted localConfig records health) := by
  rw [start]
  rcases w.loadAll world with ⟨e | records, loaded⟩
  · rfl
  have hfold : (records.foldl (restoreHealth w) ⟨{ localConfig, health }, loaded⟩).engine =
      { localConfig, health := records.foldl Health.restore health } :=
    foldl_restoreHealth_engine w records _
  change _ = Except.map (restarted localConfig records health) _
  dsimp only
  -- what was told while the faults were reported does not matter from here
  generalize records.foldl (restoreHealth w) ⟨{ localConfig, health }, loaded⟩ = s at hfold ⊢
  have hlocal : s.engine.localConfig = localConfig := by rw [hfold]
  cases hmerge : merge localConfig (restoredPartials records) with
  | ok c =>
    rw [restoreMerged_of_ok (hlocal.symm ▸ hmerge), restored, hmerge]
    simp only [hmerge, Except.mapError, Except.map, Running.say_engine, hfold, restarted,
      restoredHealth, install]
  | error conflict =>
    obtain ⟨hresult, hengine⟩ := restoreMerged_of_error (w := w) (hlocal.symm ▸ hmerge)
    rcases hrestore : restoreMerged w (restoredPartials records) s with ⟨result, t⟩
    rw [hrestore] at hresult hengine
    simp only at hresult hengine
    rw [hresult, hlocal, restored, hmerge]
    cases merge localConfig ∅ with
    | error conflict => rfl
    | ok c =>
      simp only [Except.mapError, Except.map, Running.say_engine, hengine, hfold, restarted,
        restoredHealth, install, hmerge]

/-- An engine starts if the records can be loaded and what is restored of them merges. -/
theorem start_eq_ok_iff {w : World σ} {localConfig : LocalConfiguration} {health : Health}
    {world : σ} {e : Engine} :
    (start w localConfig health world).1 = .ok e ↔
      ∃ records c, (w.loadAll world).1 = .ok records ∧
        merge localConfig (restored localConfig records) = .ok c ∧
        restarted localConfig records health c = e := by
  rw [start_eq]
  cases (w.loadAll world).1 with
  | error error => exact ⟨nofun, fun ⟨_, _, hload, _⟩ => nomatch hload⟩
  | ok records =>
    cases hmerge : merge localConfig (restored localConfig records) with
    | error conflict =>
      rw [Except.bind, hmerge]
      refine ⟨nofun, ?_⟩
      rintro ⟨records', c, hload, hc, -⟩
      obtain rfl := Except.ok.inj hload
      exact nomatch hmerge.symm.trans hc
    | ok c =>
      rw [Except.bind, hmerge]
      constructor
      · intro h
        exact ⟨records, c, rfl, hmerge, Except.ok.inj h⟩
      · rintro ⟨records', c', hload, hc, rfl⟩
        obtain rfl := Except.ok.inj hload
        obtain rfl := Except.ok.inj (hmerge.symm.trans hc)
        rfl

/-! ## Look-ups -/

/-- The record with a key among records. -/
def recordOf? (records : List UpdateRecord) (f : Fingerprint) : Option UpdateRecord :=
  records.find? fun r => r.key = f

section Lookups

variable {records : List UpdateRecord}

theorem recordOf?_cons (r : UpdateRecord) (records : List UpdateRecord) (f : Fingerprint) :
    recordOf? (r :: records) f = if r.key = f then some r else recordOf? records f := by
  rw [recordOf?, List.find?_cons]
  by_cases h : r.key = f <;> simp [h, recordOf?]

theorem recordOf?_eq_none {f : Fingerprint} (h : f ∉ records.map UpdateRecord.key) :
    recordOf? records f = none := by
  refine List.find?_eq_none.2 fun r hr hkey => h ?_
  rw [← of_decide_eq_true hkey]
  exact List.mem_map_of_mem hr

theorem recordOf?_eq_some_iff (h : (records.map UpdateRecord.key).Nodup) {f : Fingerprint}
    {r : UpdateRecord} : recordOf? records f = some r ↔ r ∈ records ∧ r.key = f := by
  induction records with
  | nil => simp [recordOf?]
  | cons r' records ih =>
    rw [List.map_cons, List.nodup_cons] at h
    rw [recordOf?_cons]
    split
    · next hkey =>
      constructor
      · intro hr
        exact Option.some.inj hr ▸ ⟨List.mem_cons_self, hkey⟩
      · rintro ⟨hmem, hr⟩
        rcases List.mem_cons.1 hmem with rfl | hmem
        · rfl
        · have hmem := List.mem_map_of_mem (f := UpdateRecord.key) hmem
          rw [hr, ← hkey] at hmem
          exact absurd hmem h.1
    · next hkey =>
      rw [ih h.2, List.mem_cons]
      constructor
      · rintro ⟨hmem, hr⟩
        exact ⟨Or.inr hmem, hr⟩
      · rintro ⟨rfl | hmem, hr⟩
        · exact absurd hr hkey
        · exact ⟨hmem, hr⟩

theorem get?_ofList_records (h : (records.map UpdateRecord.key).Nodup) (f : Fingerprint) :
    (KeyMap.ofList (records.map fun r => (r.key, r))).get? f = recordOf? records f := by
  ext r
  rw [KeyMap.get?_ofList_eq_some_iff (by simpa [Function.comp_def] using h),
    recordOf?_eq_some_iff h]
  simp [and_comm, eq_comm]

theorem get?_restoredPartials (h : (records.map UpdateRecord.key).Nodup) (f : Fingerprint) :
    (restoredPartials records).get? f = (recordOf? records f).bind UpdateRecord.lastMerged := by
  have hnodup : ((records.filterMap fun r => r.lastMerged.map fun p => (r.key, p)).map
      Prod.fst).Nodup := by
    refine List.pairwise_map.2 (List.pairwise_filterMap.2 ((List.pairwise_map.1 h).imp ?_))
    intro r r' hne a ha a' ha'
    obtain ⟨p, -, rfl⟩ := Option.map_eq_some_iff.1 ha
    obtain ⟨p', -, rfl⟩ := Option.map_eq_some_iff.1 ha'
    exact hne
  ext p
  rw [restoredPartials, KeyMap.get?_ofList_eq_some_iff hnodup]
  simp only [List.mem_filterMap, Option.map_eq_some_iff, Option.bind_eq_some_iff,
    recordOf?_eq_some_iff h, Prod.mk.injEq]
  constructor
  · rintro ⟨r, hr, p', hp, rfl, rfl⟩
    exact ⟨r, ⟨hr, rfl⟩, hp⟩
  · rintro ⟨r, ⟨hr, hkey⟩, hp⟩
    exact ⟨r, hr, p, hp, hkey, rfl⟩

/-- A scope that each record reports one of its faults in shows that of the record with the key. -/
theorem get?_foldl_restore (scope : Fingerprint → HealthScope)
    (fault : UpdateRecord → Option Fault)
    (hscope : ∀ (h : Health) r f, (h.restore r).get? (scope f) =
      if f = r.key then ((fault r).map Fault.entry).or (h.get? (scope f)) else h.get? (scope f))
    (h : (records.map UpdateRecord.key).Nodup) (health : Health) (f : Fingerprint) :
    (records.foldl Health.restore health).get? (scope f) =
      (((recordOf? records f).bind fault).map Fault.entry).or (health.get? (scope f)) := by
  induction records generalizing health with
  | nil => rfl
  | cons r records ih =>
    rw [List.map_cons, List.nodup_cons] at h
    rw [List.foldl_cons, ih h.2, hscope, recordOf?_cons]
    by_cases hkey : r.key = f
    · rw [recordOf?_eq_none (hkey ▸ h.1), if_pos hkey, if_pos hkey.symm]
      rfl
    · rw [if_neg hkey, if_neg (Ne.symm hkey)]

theorem get?_foldl_restore_repository (h : (records.map UpdateRecord.key).Nodup) (health : Health)
    (f : Fingerprint) :
    (records.foldl Health.restore health).get? (.configRepository f) =
      (((recordOf? records f).bind UpdateRecord.lastFault).map Fault.entry).or
        (health.get? (.configRepository f)) :=
  get?_foldl_restore .configRepository UpdateRecord.lastFault Health.get?_restore_repository h
    health f

theorem get?_foldl_restore_material (h : (records.map UpdateRecord.key).Nodup) (health : Health)
    (f : Fingerprint) :
    (records.foldl Health.restore health).get? (.material f) =
      (((recordOf? records f).bind UpdateRecord.lastCheckoutFault).map Fault.entry).or
        (health.get? (.material f)) :=
  get?_foldl_restore .material UpdateRecord.lastCheckoutFault Health.get?_restore_material h health
    f

theorem get?_foldl_restore_global (records : List UpdateRecord) (health : Health) :
    (records.foldl Health.restore health).get? .global = health.get? .global := by
  induction records generalizing health with
  | nil => rfl
  | cons r records ih => rw [List.foldl_cons, ih, Health.get?_restore_global]

/-- What happened to the partials is reported in a scope of its own. -/
theorem get?_restoredHealth (localConfig : LocalConfiguration) (health : Health)
    {scope : HealthScope} (hscope : scope ≠ .global) :
    (restoredHealth localConfig records health).get? scope =
      (records.foldl Health.restore health).get? scope := by
  rw [restoredHealth]
  split
  · rfl
  · rw [Health.get?_error, if_neg hscope]

theorem get?_restoredHealth_repository (h : (records.map UpdateRecord.key).Nodup)
    (localConfig : LocalConfiguration) (health : Health) (f : Fingerprint) :
    (restoredHealth localConfig records health).get? (.configRepository f) =
      (((recordOf? records f).bind UpdateRecord.lastFault).map Fault.entry).or
        (health.get? (.configRepository f)) := by
  have hscope : HealthScope.configRepository f ≠ .global := nofun
  rw [get?_restoredHealth localConfig health hscope, get?_foldl_restore_repository h]

theorem get?_restoredHealth_material (h : (records.map UpdateRecord.key).Nodup)
    (localConfig : LocalConfiguration) (health : Health) (f : Fingerprint) :
    (restoredHealth localConfig records health).get? (.material f) =
      (((recordOf? records f).bind UpdateRecord.lastCheckoutFault).map Fault.entry).or
        (health.get? (.material f)) := by
  have hscope : HealthScope.material f ≠ .global := nofun
  rw [get?_restoredHealth localConfig health hscope, get?_foldl_restore_material h]

/-- Partials are not discarded without notice. -/
theorem restored_of_healthy {localConfig : LocalConfiguration} {health : Health}
    (h : (restoredHealth localConfig records health).get? .global = none) :
    restored localConfig records = restoredPartials records := by
  rw [restoredHealth] at h
  rw [restored]
  split
  · rfl
  · next hmerge =>
    rw [hmerge, Health.get?_error, if_pos rfl] at h
    cases h

end Lookups

end Engine

end PipelineSync
