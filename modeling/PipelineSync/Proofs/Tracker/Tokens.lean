import Mathlib.Data.List.Nodup
import Mathlib.Data.List.Perm.Basic
import PipelineSync.Tracker

/-!
# Tokens that are out

The clones of a tracker share one table, so claims through any of them meet in one `Tracker`, while
the tokens are with whoever made the claims. `Tracker.Tallies` ties the table to the tokens that are
out: it has an entry for the material of each of them and no other, and no two are for one material.
Claiming and giving back keep the two in step, in any order, and `Holdings.live_tokens_distinct`
says what follows at every point of a run.
-/

namespace PipelineSync

namespace KeyMap

open Std

variable {κ α : Type} [Ord κ] [TransOrd κ] [LawfulEqOrd κ]

/-- A value that is put in stands beside those of the other keys. -/
theorem values_insert_perm (m : KeyMap κ α) (k : κ) (v : α) :
    (m.insert k v).values.Perm (v :: (m.erase k).values) := by
  have hfresh : (k, v) ∉ (m.erase k).entries := by
    simp [erase, filter]
  have hentries : (m.insert k v).entries.Perm ((k, v) :: (m.erase k).entries) := by
    rw [List.perm_ext_iff_of_nodup (nodup_entries _)
      (List.nodup_cons.2 ⟨hfresh, nodup_entries _⟩)]
    intro e
    have hkey : e.1 ≠ k ↔ compare k e.1 ≠ .eq := by
      rw [ne_comm, ne_eq, ne_eq, LawfulEqOrd.compare_eq_iff_eq]
    rw [insert, mem_insertEntry_iff m.sorted, List.mem_cons, erase, filter, List.mem_filter,
      bne_iff_ne, hkey]
  exact hentries.map Prod.snd

theorem values_perm_of_get? {m : KeyMap κ α} {k : κ} {v : α} (h : m.get? k = some v) :
    m.values.Perm (v :: (m.erase k).values) := by
  have := values_insert_perm m k v
  rwa [insert_of_get?_eq_some h] at this

theorem erase_of_get?_eq_none [DecidableEq κ] {m : KeyMap κ α} {k : κ} (h : m.get? k = none) :
    m.erase k = m := by
  refine ext_get? fun k' => ?_
  rw [get?_erase]
  split
  · next hk => rw [hk, h]
  · rfl

end KeyMap

/-! ## The table and the tokens -/

namespace Tracker

/-- The table has an entry for the material of each token and no other, and no two tokens are for
one material. -/
structure Tallies (t : Tracker) (live : List Token) : Prop where
  distinct : (live.map Token.fingerprint).Nodup
  claimed : ∀ f, t.isInProgress f = true ↔ f ∈ live.map Token.fingerprint

variable {t : Tracker} {live rest : List Token} {token : Token} {f : Fingerprint}

theorem tallies_empty : Tallies {} [] where
  distinct := List.nodup_nil
  claimed _ := by simp [isInProgress, KeyMap.contains]

theorem Tallies.perm (h : t.Tallies live) (hperm : live.Perm rest) : t.Tallies rest where
  distinct := (hperm.map Token.fingerprint).nodup_iff.1 h.distinct
  claimed f := by rw [h.claimed, (hperm.map Token.fingerprint).mem_iff]

theorem begin_of_busy (h : t.isInProgress f = true) :
    t.begin f = .error (.alreadyInProgress f) := by
  rw [begin, if_pos h]

theorem begin_of_idle (h : t.isInProgress f = false) :
    t.begin f = .ok (⟨f⟩, ⟨t.running.insert f ()⟩) := by
  rw [begin, if_neg (by simp [h])]

/-- A claim adds its token to those that are out. -/
theorem Tallies.insert (h : t.Tallies live) (hidle : t.isInProgress f = false) :
    Tallies ⟨t.running.insert f ()⟩ (⟨f⟩ :: live) where
  distinct := by
    refine List.nodup_cons.2 ⟨fun hmem => ?_, h.distinct⟩
    rw [← h.claimed, hidle] at hmem
    exact Bool.false_ne_true hmem
  claimed g := by
    rw [List.map_cons, List.mem_cons, ← h.claimed, isInProgress_insert]
    split
    · next hg => exact iff_of_true rfl (Or.inl hg)
    · next hg => exact (or_iff_right hg).symm

/-- A token that is given back is out no longer; no other one is for its material. -/
theorem Tallies.release (h : t.Tallies (token :: rest)) : (t.release token).Tallies rest where
  distinct := (List.nodup_cons.1 h.distinct).2
  claimed g := by
    rw [isInProgress_release]
    split
    · next hg =>
      rw [hg]
      exact iff_of_false Bool.false_ne_true (List.nodup_cons.1 h.distinct).1
    · next hg => rw [h.claimed, List.map_cons, List.mem_cons, or_iff_right hg]

/-- The table lists the materials of the tokens. -/
theorem Tallies.inProgress_perm (h : t.Tallies live) :
    t.inProgress.Perm (live.map Token.fingerprint) := by
  rw [inProgress, List.perm_ext_iff_of_nodup t.running.nodup_keys h.distinct]
  intro f
  rw [← h.claimed, isInProgress, KeyMap.contains, Option.isSome_iff_exists]
  simp [KeyMap.keys, KeyMap.get?_eq_some_iff]

/-- The materials in progress are listed in increasing order. -/
theorem inProgress_sorted (t : Tracker) :
    t.inProgress.Pairwise fun f g => compare f g = .lt :=
  List.pairwise_map.2 t.running.sorted

end Tracker

namespace Holdings

/-- The tokens that are out. -/
def live (h : Holdings) : List Token := h.tokens.values

variable {h : Holdings} {place : String} {f : Fingerprint}

/-! ## One act -/

theorem tokens_release (h : Holdings) (place : String) :
    (h.release place).tokens = h.tokens.erase place := by
  unfold release
  cases hplace : h.tokens.get? place with
  | none => exact (KeyMap.erase_of_get?_eq_none hplace).symm
  | some token => rfl

/-- Giving a token back keeps the table in step, also while there are tokens in nobody's place. -/
theorem tallies_release (inHand : List Token) (htally : h.tracker.Tallies (inHand ++ h.live))
    (place : String) :
    (h.release place).tracker.Tallies (inHand ++ (h.release place).live) := by
  unfold live
  rw [tokens_release, release]
  cases hplace : h.tokens.get? place with
  | none => rwa [KeyMap.erase_of_get?_eq_none hplace]
  | some token =>
    have hperm : (inHand ++ h.live).Perm (token :: (inHand ++ (h.tokens.erase place).values)) :=
      ((KeyMap.values_perm_of_get? hplace).append_left inHand).trans List.perm_middle
    exact (htally.perm hperm).release

theorem begin_of_busy (hbusy : h.tracker.isInProgress f = true) :
    h.begin place f = .error (.alreadyInProgress f) := by
  rw [begin, Tracker.begin_of_busy hbusy]
  rfl

/-- The holdings after a claim: the new token lies at its place, and the table has one more entry
and no longer the one of the token that lay there. -/
def claimed (h : Holdings) (place : String) (f : Fingerprint) : Holdings where
  tracker := (release { h with tracker := ⟨h.tracker.running.insert f ()⟩ } place).tracker
  tokens := h.tokens.insert place ⟨f⟩

theorem begin_of_idle (hidle : h.tracker.isInProgress f = false) :
    h.begin place f = .ok (h.claimed place f) := by
  have htokens : (h.tokens.erase place).insert place ⟨f⟩ = h.tokens.insert place ⟨f⟩ := by
    refine KeyMap.ext_get? fun place' => ?_
    rw [KeyMap.get?_insert, KeyMap.get?_insert, KeyMap.get?_erase]
    split <;> rfl
  rw [begin, Tracker.begin_of_idle hidle, claimed, ← htokens]
  change Except.ok _ = Except.ok _
  rw [tokens_release]

theorem tallies_claimed (htally : h.tracker.Tallies h.live)
    (hidle : h.tracker.isInProgress f = false) :
    (h.claimed place f).tracker.Tallies (h.claimed place f).live := by
  -- between the claim and the release of what lay at the place the new token is in hand
  have hinHand := tallies_release (h := { h with tracker := ⟨h.tracker.running.insert f ()⟩ })
    [⟨f⟩] (htally.insert hidle) place
  refine hinHand.perm ?_
  unfold live claimed
  rw [tokens_release]
  exact (KeyMap.values_insert_perm h.tokens place ⟨f⟩).symm

/-! ## Runs -/

/-- What may happen to tokens. -/
inductive Act where
  /-- A material is claimed, through any clone of the tracker, and the token kept at a place. -/
  | begin (place : String) (f : Fingerprint)
  /-- The token at a place is handed to a clone of the tracker. -/
  | finish (place : String)
  /-- The token at a place is dropped. -/
  | drop (place : String)

/-- The answer to an act, and what is held after it. -/
def perform (h : Holdings) : Act → Except Error Unit × Holdings
  | .begin place f =>
    match h.begin place f with
    | .ok h => (.ok (), h)
    | .error e => (.error e, h)
  | .finish place | .drop place => (.ok (), h.release place)

/-- What is held after some acts. -/
def performAll (h : Holdings) (acts : List Act) : Holdings :=
  acts.foldl (fun h act => (h.perform act).2) h

theorem perform_begin_of_idle (hidle : h.tracker.isInProgress f = false) :
    h.perform (.begin place f) = (.ok (), h.claimed place f) := by
  rw [perform, begin_of_idle hidle]

theorem perform_begin_of_busy (hbusy : h.tracker.isInProgress f = true) :
    h.perform (.begin place f) = (.error (.alreadyInProgress f), h) := by
  rw [perform, begin_of_busy hbusy]

theorem tallies_perform (htally : h.tracker.Tallies h.live) (act : Act) :
    (h.perform act).2.tracker.Tallies (h.perform act).2.live := by
  cases act with
  | begin place f =>
    cases hf : h.tracker.isInProgress f with
    | true => rwa [perform_begin_of_busy hf]
    | false =>
      rw [perform_begin_of_idle hf]
      exact tallies_claimed htally hf
  | finish place | drop place => exact tallies_release [] htally place

theorem tallies_performAll (htally : h.tracker.Tallies h.live) (acts : List Act) :
    (h.performAll acts).tracker.Tallies (h.performAll acts).live := by
  induction acts generalizing h with
  | nil => exact htally
  | cons act acts ih => exact ih (tallies_perform htally act)

/-- At every point of a run there is one token at most for each material. The tracker shows just the
materials of these tokens, each once and in order, and it grants a claim if there is no token for
the material and else refuses it and stays as it is; a token that is given back, late or not, takes
nothing with it but itself. -/
theorem live_tokens_distinct (acts : List Act) :
    let h := performAll {} acts
    (h.live.map Token.fingerprint).Nodup ∧
      (∀ f, h.tracker.isInProgress f = true ↔ ∃ token ∈ h.live, token.fingerprint = f) ∧
      (∀ place f, (∀ token ∈ h.live, token.fingerprint ≠ f) →
        ∃ h', h.perform (.begin place f) = (.ok (), h') ∧
          h'.tokens = h.tokens.insert place ⟨f⟩) ∧
      (∀ place f, (∃ token ∈ h.live, token.fingerprint = f) →
        h.perform (.begin place f) = (.error (.alreadyInProgress f), h)) ∧
      (∀ place, (h.perform (.finish place)).2.tokens = h.tokens.erase place ∧
        (h.perform (.drop place)).2.tokens = h.tokens.erase place) ∧
      h.tracker.inProgress.Perm (h.live.map Token.fingerprint) ∧
      h.tracker.inProgress.Pairwise fun f g => compare f g = .lt := by
  intro h
  have htally : h.tracker.Tallies h.live := tallies_performAll Tracker.tallies_empty acts
  have hclaimed (f : Fingerprint) :
      h.tracker.isInProgress f = true ↔ ∃ token ∈ h.live, token.fingerprint = f :=
    (htally.claimed f).trans List.mem_map
  refine ⟨htally.distinct, hclaimed, fun place f hfree => ?_, fun place f hlive => ?_,
    fun place => ⟨tokens_release h place, tokens_release h place⟩, htally.inProgress_perm,
    h.tracker.inProgress_sorted⟩
  · have hidle : h.tracker.isInProgress f = false := by
      rw [Bool.eq_false_iff, ne_eq, hclaimed]
      rintro ⟨token, htoken, rfl⟩
      exact hfree token htoken rfl
    exact ⟨_, perform_begin_of_idle hidle, rfl⟩
  · exact perform_begin_of_busy ((hclaimed f).2 hlive)

/-- A material is claimed anew, and then the place of its first token is cleared once more. -/
theorem live_tokens_distinct_clearedTwice :
    let site : Fingerprint := ⟨"73a2"⟩
    let shop : Fingerprint := ⟨"2860"⟩
    let docs : Fingerprint := ⟨"9c0d"⟩
    let h := performAll {} [.begin "first" site, .begin "second" shop, .finish "first",
      .begin "third" site, .drop "first"]
    (∃ token ∈ h.live, token.fingerprint = site) ∧ (∀ token ∈ h.live, token.fingerprint ≠ docs) ∧
      h.perform (.begin "fourth" site) = (.error (.alreadyInProgress site), h) ∧
      (∃ h', h.perform (.begin "fourth" docs) = (.ok (), h') ∧
        h'.tokens = h.tokens.insert "fourth" ⟨docs⟩) ∧
      h.tracker.inProgress.Perm [shop, site] := by
  intro site shop docs h
  have hlive : h.live = [⟨shop⟩, ⟨site⟩] := by decide
  have hsite : ∃ token ∈ h.live, token.fingerprint = site := by
    rw [hlive]
    exact ⟨⟨site⟩, by simp, rfl⟩
  have hdocs : ∀ token ∈ h.live, token.fingerprint ≠ docs := by
    rw [hlive]
    decide
  obtain ⟨-, -, hgrants, hrefuses, -, hlists, -⟩ := live_tokens_distinct [.begin "first" site,
    .begin "second" shop, .finish "first", .begin "third" site, .drop "first"]
  refine ⟨hsite, hdocs, hrefuses "fourth" site hsite, hgrants "fourth" docs hdocs, ?_⟩
  have hlists : h.tracker.inProgress.Perm (h.live.map Token.fingerprint) := hlists
  rwa [hlive] at hlists

end Holdings

end PipelineSync
