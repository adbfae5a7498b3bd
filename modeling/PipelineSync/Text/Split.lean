/-!
# Cutting text

Text cut at every character of a class, and affixes taken off.
-/

namespace PipelineSync.Text

/-- The pieces between the characters that satisfy `p`; there is always at least one. -/
def splitAt (p : Char → Bool) : List Char → List (List Char)
  | [] => [[]]
  | c :: cs =>
    match splitAt p cs with
    | [] => [[c]]
    | piece :: pieces => if p c then [] :: piece :: pieces else (c :: piece) :: pieces

theorem splitAt_eq_splitOnP (p : Char → Bool) (cs : List Char) : splitAt p cs = cs.splitOnP p := by
  induction cs with
  | nil => rfl
  | cons c cs ih =>
    rw [splitAt, ih, List.splitOnP_cons_eq_if_modifyHead]
    cases h : cs.splitOnP p with
    | nil => exact absurd h (List.splitOnP_ne_nil p cs)
    | cons piece pieces => rfl

theorem splitAt_ne_nil (p : Char → Bool) (cs : List Char) : splitAt p cs ≠ [] := by
  rw [splitAt_eq_splitOnP]
  exact List.splitOnP_ne_nil p cs

theorem splitAt_append_cons {p : Char → Bool} {c : Char} (hc : p c = true) (cs ds : List Char) :
    splitAt p (cs ++ c :: ds) = splitAt p cs ++ splitAt p ds := by
  simp only [splitAt_eq_splitOnP]
  exact List.splitOnP_append_cons cs ds hc

theorem splitAt_of_forall_not {p : Char → Bool} {cs : List Char} (h : ∀ c ∈ cs, p c = false) :
    splitAt p cs = [cs] := by
  rw [splitAt_eq_splitOnP]
  exact List.splitOnP_eq_singleton h

theorem splitAt_intercalate {p : Char → Bool} {c : Char} (hc : p c = true)
    {pieces : List (List Char)} (hne : pieces ≠ [])
    (h : ∀ piece ∈ pieces, ∀ d ∈ piece, p d = false) :
    splitAt p (List.intercalate [c] pieces) = pieces := by
  induction pieces with
  | nil => exact absurd rfl hne
  | cons piece pieces ih =>
    have hpiece := splitAt_of_forall_not (h piece List.mem_cons_self)
    cases pieces with
    | nil => rwa [List.intercalate_singleton]
    | cons next pieces =>
      rw [List.intercalate_cons_cons, List.append_assoc, List.singleton_append,
        splitAt_append_cons hc, hpiece, List.singleton_append,
        ih (List.cons_ne_nil _ _) fun piece hmem => h piece (List.mem_cons_of_mem _ hmem)]

theorem mem_of_mem_intercalate {sep : List Char} {parts : List (List Char)} {c : Char}
    (h : c ∈ sep.intercalate parts) : c ∈ sep ∨ ∃ part ∈ parts, c ∈ part := by
  induction parts with
  | nil => cases h
  | cons part parts ih =>
    cases parts with
    | nil =>
      rw [List.intercalate_singleton] at h
      exact Or.inr ⟨part, List.mem_cons_self, h⟩
    | cons next parts =>
      rw [List.intercalate_cons_cons] at h
      rcases List.mem_append.1 h with h | h
      · rcases List.mem_append.1 h with h | h
        · exact Or.inr ⟨part, List.mem_cons_self, h⟩
        · exact Or.inl h
      · refine (ih h).imp_right ?_
        rintro ⟨part', hpart, hc⟩
        exact ⟨part', List.mem_cons_of_mem _ hpart, hc⟩

theorem mem_of_mem_splitAt {p : Char → Bool} {cs piece : List Char} (h : piece ∈ splitAt p cs)
    {c : Char} (hc : c ∈ piece) : c ∈ cs ∧ p c = false := by
  induction cs generalizing piece with
  | nil =>
    obtain rfl := List.mem_singleton.1 h
    cases hc
  | cons d cs ih =>
    rw [splitAt] at h
    cases hrest : splitAt p cs with
    | nil => exact absurd hrest (splitAt_ne_nil p cs)
    | cons first pieces =>
      have htail {piece' : List Char} (hmem : piece' ∈ first :: pieces) (hc' : c ∈ piece') :
          c ∈ d :: cs ∧ p c = false := by
        obtain ⟨hin, hp⟩ := ih (hrest ▸ hmem) hc'
        exact ⟨List.mem_cons_of_mem d hin, hp⟩
      rw [hrest] at h
      dsimp only at h
      split at h
      · rcases List.mem_cons.1 h with rfl | h
        · cases hc
        · exact htail h hc
      · next hd =>
        rcases List.mem_cons.1 h with rfl | h
        · rcases List.mem_cons.1 hc with rfl | hc
          · exact ⟨List.mem_cons_self, Bool.eq_false_iff.2 hd⟩
          · exact htail List.mem_cons_self hc
        · exact htail (List.mem_cons_of_mem _ h) hc

/-- The lines of a text: a line ends at a line feed or at the end of the text. -/
def splitLines (s : String) : List String :=
  (splitAt (· == '\n') s.toList).map String.ofList

/-- The text behind `affix`, if the text starts with it. -/
def dropAffix? : List Char → List Char → Option (List Char)
  | [], cs => some cs
  | _ :: _, [] => none
  | a :: as, c :: cs => if a = c then dropAffix? as cs else none

/-- Whether `part` occurs in the text. -/
def occursIn (part : List Char) : List Char → Bool
  | [] => part.isEmpty
  | c :: cs => part.isPrefixOf (c :: cs) || occursIn part cs

theorem dropAffix?_eq_some {affix cs rest : List Char} (h : dropAffix? affix cs = some rest) :
    cs = affix ++ rest := by
  induction affix generalizing cs with
  | nil => simpa [dropAffix?] using h
  | cons a as ih =>
    cases cs with
    | nil => simp [dropAffix?] at h
    | cons c cs =>
      simp only [dropAffix?] at h
      split at h
      · next hac => simp [hac, ih h]
      · simp at h

/-- Takes `affix` off the end for as long as the text ends with it. -/
def dropEndAll (affix : List Char) (cs : List Char) : List Char :=
  go cs.reverse |>.reverse
where
  /-- Works on the text from its end. -/
  go (back : List Char) : List Char :=
    match h : dropAffix? affix.reverse back with
    | some rest =>
      if hne : affix.length = 0 then back
      else
        have : rest.length < back.length := by
          have hlen := congrArg List.length (dropAffix?_eq_some h)
          simp at hlen
          omega
        go rest
    | none => back
  termination_by back.length

/-- Texts with `separator` between them. -/
def join (separator : String) (parts : List String) : String :=
  String.intercalate separator parts

end PipelineSync.Text
