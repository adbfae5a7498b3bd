import Mathlib.Data.List.Infix
import PipelineSync.Text.Replace

/-!
# What replacing leaves of a text

A part that has been replaced does not occur any more, provided that the replacement has nothing in
common with it, and nothing else occurs that did not before: `not_infix_replaceAll` and
`infix_of_infix_replaceAll`. Both are by `replaceAll_induction`, which cuts a text at the
occurrences of the part. Where no occurrence lies across the place at which two texts meet, each is
replaced in by itself (`replaceAll_append_of_not_straddles`).
-/

namespace PipelineSync.Text

open List

section Affixes

variable {affix cs rest : List Char}

theorem dropAffix?_append (affix rest : List Char) :
    dropAffix? affix (affix ++ rest) = some rest := by
  induction affix with
  | nil => rfl
  | cons a affix ih => simpa [dropAffix?] using ih

theorem dropAffix?_eq_none_iff : dropAffix? affix cs = none ↔ ¬ affix <+: cs := by
  constructor
  · rintro h ⟨rest, rfl⟩
    rw [dropAffix?_append] at h
    cases h
  · intro h
    cases hdrop : dropAffix? affix cs with
    | none => rfl
    | some rest => exact absurd ⟨rest, (dropAffix?_eq_some hdrop).symm⟩ h

end Affixes

variable {part replacement : List Char}

theorem replaceAll_append (hne : part ≠ []) (replacement behind : List Char) :
    replaceAll part replacement (part ++ behind) =
      replacement ++ replaceAll part replacement behind := by
  obtain ⟨c, part, rfl⟩ := List.exists_cons_of_ne_nil hne
  rw [List.cons_append, replaceAll]
  have hdrop : dropAffix? (c :: part) (c :: (part ++ behind)) = some behind :=
    dropAffix?_append (c :: part) behind
  split
  · next behind' h =>
    obtain rfl : behind = behind' := Option.some.inj (hdrop.symm.trans h)
    simp
  · next h => cases hdrop.symm.trans h

theorem replaceAll_cons {c : Char} {rest : List Char} (h : ¬ part <+: c :: rest)
    (replacement : List Char) :
    replaceAll part replacement (c :: rest) = c :: replaceAll part replacement rest := by
  rw [replaceAll]
  have hdrop := dropAffix?_eq_none_iff.2 h
  split
  · next h => cases hdrop.symm.trans h
  · rfl

/-- A text is cut at the occurrences of a part, from left to right. -/
theorem replaceAll_induction (hne : part ≠ []) {motive : List Char → Prop} (nil : motive [])
    (occurrence : ∀ behind, motive behind → motive (part ++ behind))
    (other : ∀ c rest, ¬ part <+: c :: rest → motive rest → motive (c :: rest)) (cs : List Char) :
    motive cs := by
  induction hlen : cs.length using Nat.strongRecOn generalizing cs with
  | ind n ih =>
    subst hlen
    cases cs with
    | nil => exact nil
    | cons c rest =>
      by_cases h : part <+: c :: rest
      · obtain ⟨behind, hcut⟩ := h
        rw [← hcut]
        have hpos := List.length_pos_iff.2 hne
        have hlen : behind.length < (c :: rest).length := by
          rw [← hcut, List.length_append]
          omega
        exact occurrence behind (ih _ hlen behind rfl)
      · exact other c rest h (ih _ (Nat.lt_succ_self _) rest rfl)

theorem replaceAll_of_not_infix {cs : List Char} (h : ¬ part <:+: cs) :
    replaceAll part replacement cs = cs := by
  induction cs with
  | nil => rw [replaceAll]
  | cons c rest ih =>
    rw [replaceAll_cons (fun hfront => h hfront.isInfix),
      ih fun hrest => h (hrest.trans (List.suffix_cons c rest).isInfix)]

section Disjoint

variable {w cs : List Char}

theorem infix_of_infix_append {front : List Char} (hw : ∀ c ∈ w, c ∉ front)
    (h : w <:+: front ++ cs) : w <:+: cs := by
  induction front with
  | nil => exact h
  | cons c front ih =>
    have hrest : ∀ d ∈ w, d ∉ front := fun d hd hmem => hw d hd (List.mem_cons_of_mem _ hmem)
    rcases List.infix_cons_iff.1 h with hstart | hlater
    · cases w with
      | nil => exact List.nil_infix
      | cons d w =>
        obtain ⟨rfl, -⟩ := List.cons_prefix_cons.1 hstart
        exact absurd List.mem_cons_self (hw d List.mem_cons_self)
    · exact ih hrest hlater

theorem suffix_of_suffix_append {front : List Char} (hw : ∀ c ∈ w, c ∉ front)
    (h : w <:+ front ++ cs) : w <:+ cs := by
  induction front with
  | nil => exact h
  | cons c front ih =>
    have hrest : ∀ d ∈ w, d ∉ front := fun d hd hmem => hw d hd (List.mem_cons_of_mem _ hmem)
    rcases List.suffix_cons_iff.1 h with hall | hlater
    · have hc : c ∈ w := by simp [hall]
      exact absurd List.mem_cons_self (hw c hc)
    · exact ih hrest hlater

theorem prefix_of_prefix_replaceAll (hne : part ≠ []) (hreplacement : replacement ≠ [])
    (hw : ∀ c ∈ w, c ∉ replacement) (h : w <+: replaceAll part replacement cs) : w <+: cs := by
  induction w generalizing cs with
  | nil => exact List.nil_prefix
  | cons d w ih =>
    cases cs with
    | nil =>
      rw [replaceAll] at h
      exact absurd (List.prefix_nil.1 h) (List.cons_ne_nil d w)
    | cons c rest =>
      by_cases hoccurs : part <+: c :: rest
      · obtain ⟨behind, hcut⟩ := hoccurs
        rw [← hcut, replaceAll_append hne] at h
        obtain ⟨e, replacement, rfl⟩ := List.exists_cons_of_ne_nil hreplacement
        obtain ⟨rfl, -⟩ := List.cons_prefix_cons.1 h
        exact absurd List.mem_cons_self (hw d List.mem_cons_self)
      · rw [replaceAll_cons hoccurs] at h
        obtain ⟨rfl, hrest⟩ := List.cons_prefix_cons.1 h
        have hw' : ∀ c ∈ w, c ∉ replacement := fun c hc => hw c (List.mem_cons_of_mem _ hc)
        exact List.cons_prefix_cons.2 ⟨rfl, ih hw' hrest⟩

/-- A text is left as it is if nothing of the replacement shows. -/
theorem replaceAll_eq_self (hne : part ≠ []) (hreplacement : replacement ≠ [])
    (h : ∀ c ∈ replaceAll part replacement cs, c ∉ replacement) :
    replaceAll part replacement cs = cs := by
  induction cs using replaceAll_induction hne with
  | nil => rw [replaceAll]
  | occurrence behind ih =>
    rw [replaceAll_append hne] at h
    obtain ⟨e, replacement, rfl⟩ := List.exists_cons_of_ne_nil hreplacement
    exact absurd List.mem_cons_self (h e (by simp))
  | other c rest hno ih =>
    rw [replaceAll_cons hno] at h ⊢
    rw [ih fun d hd => h d (List.mem_cons_of_mem c hd)]

theorem suffix_of_suffix_replaceAll (hne : part ≠ []) (hreplacement : replacement ≠ [])
    (hw : ∀ c ∈ w, c ∉ replacement) (h : w <:+ replaceAll part replacement cs) : w <:+ cs := by
  induction cs using replaceAll_induction hne with
  | nil => rwa [replaceAll] at h
  | occurrence behind ih =>
    rw [replaceAll_append hne] at h
    exact (ih (suffix_of_suffix_append hw h)).trans (List.suffix_append part behind)
  | other c rest hno ih =>
    rw [replaceAll_cons hno] at h
    rcases List.suffix_cons_iff.1 h with rfl | hrest
    · have hsame := replaceAll_eq_self hne hreplacement fun d hd =>
        hw d (List.mem_cons_of_mem c hd)
      rw [hsame]
    · exact (ih hrest).trans (List.suffix_cons c rest)

/-- What has nothing in common with the replacement occurs only where it did before. -/
theorem infix_of_infix_replaceAll (hne : part ≠ []) (hreplacement : replacement ≠ [])
    (hw : ∀ c ∈ w, c ∉ replacement) (h : w <:+: replaceAll part replacement cs) : w <:+: cs := by
  induction cs using replaceAll_induction hne with
  | nil => rwa [replaceAll] at h
  | occurrence behind ih =>
    rw [replaceAll_append hne] at h
    exact (ih (infix_of_infix_append hw h)).trans (List.suffix_append part behind).isInfix
  | other c rest hno ih =>
    have hstart : w <+: replaceAll part replacement (c :: rest) → w <+: c :: rest :=
      prefix_of_prefix_replaceAll hne hreplacement hw
    rw [replaceAll_cons hno] at h hstart
    rcases List.infix_cons_iff.1 h with h | h
    · exact (hstart h).isInfix
    · exact (ih h).trans (List.suffix_cons c rest).isInfix

/-- What has been replaced is gone. -/
theorem not_infix_replaceAll (hne : part ≠ []) (hreplacement : replacement ≠ [])
    (hpart : ∀ c ∈ part, c ∉ replacement) : ¬ part <:+: replaceAll part replacement cs := by
  induction cs using replaceAll_induction hne with
  | nil =>
    rw [replaceAll]
    exact fun h => hne (List.infix_nil.1 h)
  | occurrence behind ih =>
    rw [replaceAll_append hne]
    exact fun h => ih (infix_of_infix_append hpart h)
  | other c rest hno ih =>
    have hstart : part <+: replaceAll part replacement (c :: rest) → part <+: c :: rest :=
      prefix_of_prefix_replaceAll hne hreplacement hpart
    rw [replaceAll_cons hno] at hstart ⊢
    intro h
    rcases List.infix_cons_iff.1 h with h | h
    · exact hno (hstart h)
    · exact ih h

end Disjoint

/-! ## Texts that meet -/

/-- An occurrence of a part can lie across the place where two texts meet. -/
def Straddles (part front behind : List Char) : Prop :=
  ∃ before after, before ≠ [] ∧ after ≠ [] ∧ part = before ++ after ∧ before <:+ front ∧
    after <+: behind

section Straddles

variable {front behind : List Char}

theorem Straddles.of_suffix {front' : List Char} (h : Straddles part front' behind)
    (hfront : front' <:+ front) : Straddles part front behind := by
  obtain ⟨before, after, hbefore, hafter, hpart, hends, hstarts⟩ := h
  exact ⟨before, after, hbefore, hafter, hpart, hends.trans hfront, hstarts⟩

/-- Occurrences at the start of two texts that meet are in the first or across. -/
theorem straddles_of_atFront (hfront : front ≠ []) (hno : ¬ part <+: front)
    (h : part <+: front ++ behind) : Straddles part front behind := by
  rcases List.prefix_or_prefix_of_prefix h (List.prefix_append front behind) with hin | hacross
  · exact absurd hin hno
  · obtain ⟨after, rfl⟩ := hacross
    refine ⟨front, after, hfront, ?_, rfl, List.suffix_refl front, ?_⟩
    · rintro rfl
      exact hno (by simp)
    · exact (List.prefix_append_right_inj front).1 h

/-- Each of two texts is replaced in by itself if nothing is to be replaced across them. -/
theorem replaceAll_append_of_not_straddles (hne : part ≠ []) (h : ¬ Straddles part front behind)
    (replacement : List Char) :
    replaceAll part replacement (front ++ behind) =
      replaceAll part replacement front ++ replaceAll part replacement behind := by
  induction front using replaceAll_induction hne with
  | nil => rw [List.nil_append, replaceAll, List.nil_append]
  | occurrence front ih =>
    have hfront : ¬ Straddles part front behind :=
      fun hacross => h (hacross.of_suffix (List.suffix_append part front))
    rw [List.append_assoc, replaceAll_append hne, replaceAll_append hne, ih hfront,
      List.append_assoc]
  | other c front hno ih =>
    have hfront : ¬ Straddles part front behind :=
      fun hacross => h (hacross.of_suffix (List.suffix_cons c front))
    have hcons : ¬ part <+: c :: (front ++ behind) :=
      fun hstart => h (straddles_of_atFront (List.cons_ne_nil c front) hno hstart)
    rw [List.cons_append, replaceAll_cons hcons, replaceAll_cons hno, ih hfront, List.cons_append]

/-- Replacing one part brings no other across the place where two texts meet. -/
theorem Straddles.of_replaceAll {other : List Char} (hne : part ≠ [])
    (hreplacement : replacement ≠ []) (hother : ∀ c ∈ other, c ∉ replacement)
    (h : Straddles other (replaceAll part replacement front) (replaceAll part replacement behind)) :
    Straddles other front behind := by
  obtain ⟨before, after, hbefore, hafter, rfl, hends, hstarts⟩ := h
  refine ⟨before, after, hbefore, hafter, rfl, ?_, ?_⟩
  · exact suffix_of_suffix_replaceAll hne hreplacement
      (fun c hc => hother c (List.mem_append_left after hc)) hends
  · exact prefix_of_prefix_replaceAll hne hreplacement
      (fun c hc => hother c (List.mem_append_right before hc)) hstarts

end Straddles

/-! ## Places in a text -/

/-- No occurrence of a part overlaps what stands in a text from one place up to another. -/
def Clear (part cs : List Char) (start stop : Nat) : Prop :=
  ∀ i < cs.length, part <+: cs.drop i → i + part.length ≤ start ∨ stop ≤ i

instance (part cs : List Char) (start stop : Nat) : Decidable (Clear part cs start stop) :=
  inferInstanceAs (Decidable (∀ i < cs.length, _))

namespace Clear

variable {cs : List Char} {start stop : Nat}

theorem le_or_le (h : Clear part cs start stop) (hne : part ≠ []) {before after : List Char}
    (hcs : cs = before ++ (part ++ after)) :
    before.length + part.length ≤ start ∨ stop ≤ before.length := by
  subst hcs
  refine h before.length ?_ ?_
  · have hpos := List.length_pos_iff.2 hne
    simp only [List.length_append]
    omega
  · rw [List.drop_left]
    exact List.prefix_append part after

/-- What stands behind a text has the same places, but for the length of that text. -/
theorem of_append {front : List Char}
    (h : Clear part (front ++ cs) (front.length + start) (front.length + stop)) :
    Clear part cs start stop := by
  intro i hi hoccurs
  have hlater := h (front.length + i) (by simpa using hi) (by rwa [List.drop_length_add_append])
  omega

variable {front kept behind : List Char}

/-- A stretch of a text that no occurrence overlaps is whole: none is in it, and none across either
of its ends. -/
theorem whole (h : Clear part (front ++ (kept ++ behind)) front.length
      (front.length + kept.length)) (hne : part ≠ []) :
    ¬ Straddles part front (kept ++ behind) ∧ ¬ Straddles part kept behind ∧ ¬ part <:+: kept := by
  have hplace {before after : List Char}
      (hcs : front ++ (kept ++ behind) = before ++ (part ++ after)) :
      before.length + part.length ≤ front.length ∨ front.length + kept.length ≤ before.length :=
    h.le_or_le hne hcs
  refine ⟨?_, ?_, ?_⟩
  · rintro ⟨before, after, hbefore, hafter, rfl, ⟨start, rfl⟩, ⟨later, hlater⟩⟩
    have := hplace (show _ = start ++ (before ++ after ++ later) by simp [← hlater])
    have := List.length_pos_iff.2 hbefore
    have := List.length_pos_iff.2 hafter
    simp only [List.length_append] at *
    omega
  · rintro ⟨before, after, hbefore, hafter, rfl, ⟨start, rfl⟩, ⟨later, rfl⟩⟩
    have := hplace (show _ = front ++ start ++ (before ++ after ++ later) by simp)
    have := List.length_pos_iff.2 hbefore
    simp only [List.length_append] at *
    omega
  · rintro ⟨before, after, rfl⟩
    have := hplace (show _ = front ++ before ++ (part ++ (after ++ behind)) by simp)
    have := List.length_pos_iff.2 hne
    simp only [List.length_append] at *
    omega

end Clear

end PipelineSync.Text
