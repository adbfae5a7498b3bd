import Mathlib
import PipelineSync.Proofs.Url.Encoding
import PipelineSync.Url.Basic

/-!
# Paths are read again as they are

The segments of a path that has been read are encoded, and none of them means itself or its parent
(`IsSegment`). So nothing is left to resolve when the path is read again: `readPath_again`.
-/

namespace PipelineSync.Url

variable {special : Bool} {segment : List Char} {segments done : List (List Char)}

/-- Whether a character ends a segment. -/
def endsSegment (special : Bool) (c : Char) : Bool := c == '/' || (special && c == '\\')

/-- A segment in its encoded form. -/
def IsPiece (special : Bool) (segment : List Char) : Prop :=
  ∀ c ∈ segment, pathSet c = false ∧ endsSegment special c = false

/-- A segment as it stands in a path that is read. -/
structure IsSegment (special : Bool) (segment : List Char) : Prop where
  isPiece : IsPiece special segment
  not_isDoubleDot : isDoubleDot segment = false
  not_isSingleDot : isSingleDot segment = false

theorem isSegment_nil (special : Bool) : IsSegment special [] :=
  ⟨fun _ hc => (List.not_mem_nil hc).elim, by decide, by decide⟩

theorem resolve_cons_cons (next : List Char) :
    resolve done (segment :: next :: segments) =
      if isDoubleDot segment then resolve (resolve.dropParent done) (next :: segments)
      else if isSingleDot segment then resolve done (next :: segments)
      else resolve (segment :: done) (next :: segments) := rfl

/-- Segments among which none means itself or its parent are resolved. -/
theorem resolve_of_forall (h : ∀ segment ∈ segments, IsSegment special segment) :
    resolve done segments = done.reverse ++ segments := by
  induction segments generalizing done with
  | nil => rw [resolve, List.append_nil]
  | cons segment segments ih =>
    obtain ⟨hfirst, hrest⟩ := List.forall_mem_cons.1 h
    have hdouble : ¬ isDoubleDot segment = true := Bool.eq_false_iff.1 hfirst.not_isDoubleDot
    have hsingle : ¬ isSingleDot segment = true := Bool.eq_false_iff.1 hfirst.not_isSingleDot
    cases segments with
    | nil => rw [resolve, if_neg hdouble, if_neg hsingle]
    | cons next segments =>
      rw [resolve_cons_cons, if_neg hdouble, if_neg hsingle, ih hrest, List.reverse_cons,
        List.append_assoc]
      rfl

theorem mem_of_mem_dropParent (h : segment ∈ resolve.dropParent done) : segment ∈ done := by
  cases done with
  | nil => exact h
  | cons last done =>
    rw [resolve.dropParent] at h
    split at h
    · exact h
    · exact List.mem_cons_of_mem last h

theorem forall_mem_reverse_append (hdone : ∀ segment ∈ done, IsSegment special segment)
    (hlast : IsSegment special segment) :
    ∀ segment' ∈ done.reverse ++ [segment], IsSegment special segment' := by
  intro segment' hmem
  rcases List.mem_append.1 hmem with hmem | hmem
  · exact hdone segment' (List.mem_reverse.1 hmem)
  · exact List.mem_singleton.1 hmem ▸ hlast

/-- Resolving leaves segments, and at least one. -/
theorem resolve_spec (hdone : ∀ segment ∈ done, IsSegment special segment)
    (hsegments : ∀ segment ∈ segments, IsPiece special segment) (hne : segments ≠ []) :
    resolve done segments ≠ [] ∧
      ∀ segment ∈ resolve done segments, IsSegment special segment := by
  induction segments generalizing done with
  | nil => exact absurd rfl hne
  | cons segment segments ih =>
    obtain ⟨hfirst, hrest⟩ := List.forall_mem_cons.1 hsegments
    have hparent : ∀ segment ∈ resolve.dropParent done, IsSegment special segment :=
      fun segment hmem => hdone segment (mem_of_mem_dropParent hmem)
    cases segments with
    | nil =>
      rw [resolve]
      split
      · exact ⟨by simp, forall_mem_reverse_append hparent (isSegment_nil special)⟩
      · next hdouble =>
        split
        · exact ⟨by simp, forall_mem_reverse_append hdone (isSegment_nil special)⟩
        · next hsingle =>
          have hsegment : IsSegment special segment :=
            ⟨hfirst, Bool.eq_false_iff.2 hdouble, Bool.eq_false_iff.2 hsingle⟩
          exact ⟨by simp, forall_mem_reverse_append hdone hsegment⟩
    | cons next segments =>
      rw [resolve_cons_cons]
      split
      · exact ih hparent hrest (List.cons_ne_nil _ _)
      · next hdouble =>
        split
        · exact ih hdone hrest (List.cons_ne_nil _ _)
        · next hsingle =>
          have hsegment : IsSegment special segment :=
            ⟨hfirst, Bool.eq_false_iff.2 hdouble, Bool.eq_false_iff.2 hsingle⟩
          exact ih (List.forall_mem_cons.2 ⟨hsegment, hdone⟩) hrest (List.cons_ne_nil _ _)

/-- What a path consists of. -/
theorem readPath_spec (special : Bool) (cs : List Char) :
    readPath special cs = [] ∧ special = false ∨
      ∃ segments, readPath special cs = '/' :: List.intercalate ['/'] segments ∧ segments ≠ [] ∧
        ∀ segment ∈ segments, IsSegment special segment := by
  have hslash : IsStable (endsSegment special) := by
    cases special <;> (unfold IsStable; decide)
  rw [readPath]
  split
  · next hempty =>
    rw [Bool.and_eq_true, Bool.not_eq_true'] at hempty
    exact Or.inl ⟨rfl, hempty.2⟩
  · refine Or.inr ⟨_, rfl, resolve_spec (List.forall_mem_nil _) ?_ ?_⟩
    · intro segment hmem
      obtain ⟨piece, hpiece, rfl⟩ := List.mem_map.1 hmem
      intro c hc
      obtain ⟨hset, hc⟩ := mem_encode isStable_pathSet hc
      refine ⟨hset, ?_⟩
      rcases hc with hc | hc
      · exact (Text.mem_of_mem_splitAt hpiece hc).2
      · exact hslash.of_mem hc
    · simp [Text.splitAt_ne_nil]

/-- A path that is read stands as it is when it is read again. -/
theorem readPath_again (special : Bool) (cs : List Char) :
    readPath special (readPath special cs) = readPath special cs := by
  rcases readPath_spec special cs with ⟨hpath, rfl⟩ | ⟨segments, hpath, hne, hsegments⟩
  · rw [hpath]
    rfl
  · have hsplit : Text.splitAt (endsSegment special) (List.intercalate ['/'] segments) = segments :=
      Text.splitAt_intercalate rfl hne fun segment hmem c hc =>
        ((hsegments segment hmem).isPiece c hc).2
    have hencode : segments.map (encode pathSet) = segments := by
      refine (List.map_congr_left fun segment hmem => ?_).trans (List.map_id segments)
      exact encode_of_forall fun c hc => ((hsegments segment hmem).isPiece c hc).1
    rw [hpath, readPath, if_neg (by simp)]
    change '/' :: List.intercalate ['/'] (resolve []
      ((Text.splitAt (endsSegment special) (List.intercalate ['/'] segments)).map
        (encode pathSet))) = _
    rw [hsplit, hencode, resolve_of_forall hsegments]
    rfl

end PipelineSync.Url
