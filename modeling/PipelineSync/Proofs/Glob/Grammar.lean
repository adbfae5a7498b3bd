import Mathlib.Data.List.TakeWhile
import PipelineSync.Material.Filter

/-!
# Which texts are patterns

`Glob.compile` reads a pattern from the left and says at which place it is wrong. `Glob.IsPattern`
says which texts are patterns in words of its own: it has a rule for each kind of piece, and no
places. The two agree (`exists_compile_iff`). A `/` in front moves every place by one, but behind it
a path component starts as it does in front of the pattern, so the `/` makes no difference to
whether the text is a pattern (`Material.valid_anchored_iff`).
-/

namespace PipelineSync

namespace Glob

/-- Whether a character stands for itself outside of a class. -/
def IsPlain (c : Char) : Prop := c ≠ '?' ∧ c ≠ '*' ∧ c ≠ '['

/-- The texts that are patterns, or the ends of patterns. `fresh` says that a path component starts
in front of the text. -/
inductive IsPattern : Bool → List Char → Prop where
  | nil (fresh : Bool) : IsPattern fresh []
  | literal (fresh : Bool) {c : Char} {cs : List Char} (hc : IsPlain c)
      (h : IsPattern (c == '/') cs) : IsPattern fresh (c :: cs)
  | anyChar (fresh : Bool) {cs : List Char} (h : IsPattern false cs) : IsPattern fresh ('?' :: cs)
  | anyRun (fresh : Bool) {cs : List Char} (hnext : cs.head? ≠ some '*') (h : IsPattern false cs) :
    IsPattern fresh ('*' :: cs)
  /-- Components up to the end of the path. -/
  | anyComponentsLast : IsPattern true ['*', '*']
  | anyComponents {cs : List Char} (h : IsPattern true cs) :
    IsPattern true ('*' :: '*' :: '/' :: cs)
  /-- A class has a first member, which may be a `]`, and ends at the next `]`. -/
  | oneOf (fresh : Bool) {first : Char} {body cs : List Char} (hfirst : first ≠ '!')
      (hbody : ']' ∉ body) (h : IsPattern false cs) :
    IsPattern fresh ('[' :: first :: (body ++ ']' :: cs))
  | noneOf (fresh : Bool) {first : Char} {body cs : List Char} (hbody : ']' ∉ body)
      (h : IsPattern false cs) : IsPattern fresh ('[' :: '!' :: first :: (body ++ ']' :: cs))

/-! ## One piece -/

section Pieces

variable {fresh : Bool} {c : Char} {cs : List Char}

theorem isPattern_literal_iff (hc : IsPlain c) :
    IsPattern fresh (c :: cs) ↔ IsPattern (c == '/') cs := by
  refine ⟨fun h => ?_, IsPattern.literal fresh hc⟩
  cases h with
  | literal _ _ h => exact h
  | anyChar => exact absurd rfl hc.1
  | anyRun | anyComponentsLast | anyComponents => exact absurd rfl hc.2.1
  | oneOf | noneOf => exact absurd rfl hc.2.2

theorem isPattern_anyChar_iff : IsPattern fresh ('?' :: cs) ↔ IsPattern false cs := by
  refine ⟨fun h => ?_, IsPattern.anyChar fresh⟩
  cases h with
  | literal _ hc => exact absurd rfl hc.1
  | anyChar _ h => exact h

theorem isPattern_anyRun_iff (hnext : cs.head? ≠ some '*') :
    IsPattern fresh ('*' :: cs) ↔ IsPattern false cs := by
  refine ⟨fun h => ?_, IsPattern.anyRun fresh hnext⟩
  cases h with
  | literal _ hc => exact absurd rfl hc.2.1
  | anyRun _ _ h => exact h
  | anyComponentsLast | anyComponents => exact absurd rfl hnext

theorem isPattern_anyComponents_iff : IsPattern fresh ('*' :: '*' :: cs) ↔
    fresh = true ∧ (cs = [] ∨ ∃ rest, cs = '/' :: rest ∧ IsPattern true rest) := by
  constructor
  · intro h
    cases h with
    | literal _ hc => exact absurd rfl hc.2.1
    | anyRun _ hnext => exact absurd rfl hnext
    | anyComponentsLast => exact ⟨rfl, Or.inl rfl⟩
    | anyComponents h => exact ⟨rfl, Or.inr ⟨_, rfl, h⟩⟩
  · rintro ⟨rfl, rfl | ⟨rest, rfl, h⟩⟩
    · exact .anyComponentsLast
    · exact .anyComponents h

theorem close_append {body rest : List Char} (hbody : ']' ∉ body) (negated : Bool) (first : Char) :
    readClass?.close negated first (body ++ ']' :: rest) =
      some (negated, members (first :: body), rest) := by
  have hin : ∀ c ∈ body, (c != ']') = true := fun c hc => by
    rw [bne_iff_ne]
    rintro rfl
    exact hbody hc
  unfold readClass?.close
  rw [List.dropWhile_append_of_pos hin, List.takeWhile_append_of_pos hin]
  simp

theorem exists_of_close {negated negated' : Bool} {first : Char} {ms : List Member}
    {rest : List Char} (h : readClass?.close negated first cs = some (negated', ms, rest)) :
    ∃ body, cs = body ++ ']' :: rest ∧ ']' ∉ body := by
  unfold readClass?.close at h
  cases hclose : cs.dropWhile (· != ']') with
  | nil => simp [hclose] at h
  | cons d rest' =>
    rw [hclose] at h
    obtain ⟨-, -, rfl⟩ : negated = negated' ∧ _ ∧ rest' = rest := by simpa using h
    have hne : cs.dropWhile (· != ']') ≠ [] := by simp [hclose]
    obtain rfl : d = ']' := by simpa [hclose] using List.head_dropWhile_not (· != ']') hne
    refine ⟨cs.takeWhile (· != ']'), ?_, fun hmem => ?_⟩
    · rw [← hclose, List.takeWhile_append_dropWhile]
    · simpa using List.mem_takeWhile_imp hmem

theorem readClass?_of_ne {first : Char} (h : first ≠ '!') (cs : List Char) :
    readClass? (first :: cs) = readClass?.close false first cs := by
  unfold readClass?
  split
  · next heq => exact absurd (List.cons.inj heq).1 h
  · next heq => exact absurd (List.cons.inj heq).1 h
  · next heq =>
    obtain ⟨rfl, rfl⟩ := List.cons.inj heq
    rfl
  · next heq => cases heq

theorem isPattern_class_iff : IsPattern fresh ('[' :: cs) ↔
    ∃ negated ms rest, readClass? cs = some (negated, ms, rest) ∧ IsPattern false rest := by
  constructor
  · intro h
    cases h with
    | literal _ hc => exact absurd rfl hc.2.2
    | oneOf _ hfirst hbody h =>
      exact ⟨_, _, _, (readClass?_of_ne hfirst _).trans (close_append hbody _ _), h⟩
    | noneOf _ hbody h => exact ⟨_, _, _, close_append hbody _ _, h⟩
  · rintro ⟨negated, ms, rest, hread, h⟩
    unfold readClass? at hread
    split at hread
    · obtain ⟨body, rfl, hbody⟩ := exists_of_close hread
      exact .noneOf fresh hbody h
    · cases hread
    · next first cs hmore hnoMore =>
      have hfirst : first ≠ '!' := by
        rintro rfl
        cases cs with
        | nil => exact hnoMore rfl rfl
        | cons c cs => exact hmore c cs rfl rfl
      obtain ⟨body, rfl, hbody⟩ := exists_of_close hread
      exact .oneOf fresh hfirst hbody h
    · cases hread

end Pieces

/-! ## All of a pattern -/

/-- Compiling goes well just for the texts that the rules build; the place it starts at is only for
telling faults. -/
theorem isOk_compileFrom_iff (fresh : Bool) (position : Nat) (cs : List Char) :
    (compileFrom fresh position cs).isOk = true ↔ IsPattern fresh cs := by
  have hmap {α β : Type} (g : α → β) (x : Except Error α) : (g <$> x).isOk = x.isOk := by
    cases x <;> rfl
  have herror {α : Type} (e : Error) : ¬ (Except.error e : Except Error α).isOk = true :=
    Bool.false_ne_true
  fun_induction compileFrom fresh position cs with
  | case1 fresh => exact iff_of_true rfl (.nil fresh)
  | case2 fresh position cs ih =>
    rw [hmap, isPattern_anyChar_iff]
    exact ih
  | case3 => simp [herror, isPattern_anyComponents_iff]
  | case4 position rest _ ih => simp [hmap, ih, isPattern_anyComponents_iff]
  | case5 => exact iff_of_true rfl .anyComponentsLast
  | case6 position c cs hc =>
    have hne : ¬ c = '/' := hc
    simp [herror, isPattern_anyComponents_iff, hne]
  | case7 fresh position cs _ hfresh => simp [herror, isPattern_anyComponents_iff, hfresh]
  | case8 fresh position cs _ hnext ih =>
    have hnext : cs.head? ≠ some '*' := by
      intro hhead
      obtain ⟨rest, hrest⟩ := List.head?_eq_some_iff.1 hhead
      exact hnext rest hrest
    rw [hmap, isPattern_anyRun_iff hnext]
    exact ih
  | case9 fresh position cs hread => simp [herror, isPattern_class_iff, hread]
  | case10 fresh position cs negated ms rest hread _ ih =>
    rw [hmap, isPattern_class_iff, hread]
    refine ⟨fun h => ⟨negated, ms, rest, rfl, ih.1 h⟩, ?_⟩
    rintro ⟨_, _, _, ⟨⟩, h⟩
    exact ih.2 h
  | case11 fresh position c cs hany _ _ hrun hclass ih =>
    rw [hmap, isPattern_literal_iff ⟨hany, hrun, hclass⟩]
    exact ih

/-- Whether a text is a pattern. -/
def Valid (pattern : String) : Prop := IsPattern true pattern.toList

/-- The texts that compile are the patterns. -/
theorem exists_compile_iff {pattern : String} :
    (∃ tokens, compile pattern = .ok tokens) ↔ Valid pattern := by
  rw [Valid, ← isOk_compileFrom_iff true 0, ← compile]
  cases compile pattern with
  | error e => exact ⟨nofun, nofun⟩
  | ok tokens => exact ⟨fun _ => rfl, fun _ => ⟨tokens, rfl⟩⟩

end Glob

namespace Material

/-- A pattern starts where a component does, so a `/` in front of it changes nothing. -/
theorem valid_anchored_iff {pattern : String} :
    Glob.Valid (anchored pattern) ↔ Glob.Valid pattern := by
  unfold anchored
  split
  · rfl
  · unfold Glob.Valid
    rw [String.toList_append]
    exact Glob.isPattern_literal_iff ⟨by decide, by decide, by decide⟩

/-- Whether a path can be held against a pattern depends on the pattern alone. -/
theorem exists_matchesPattern_iff {path pattern : String} :
    (∃ matched, matchesPattern path pattern = .ok matched) ↔ Glob.Valid pattern := by
  rw [← valid_anchored_iff, ← Glob.exists_compile_iff]
  unfold matchesPattern Glob.isMatch
  cases Glob.compile (anchored pattern) with
  | error e => exact ⟨nofun, nofun⟩
  | ok tokens => exact ⟨fun _ => ⟨tokens, rfl⟩, fun _ => ⟨_, rfl⟩⟩

/-- Nothing is told of patterns that are valid. -/
theorem filterLines_eq_nil (path : String) {patterns : List String}
    (h : ∀ pattern ∈ patterns, Glob.Valid pattern) : filterLines path patterns = [] := by
  induction patterns with
  | nil => rfl
  | cons pattern rest ih =>
    obtain ⟨hpattern, hrest⟩ := List.forall_mem_cons.1 h
    obtain ⟨matched, hmatched⟩ : ∃ matched, matchesPattern (Path.filterForm path) pattern =
        .ok matched := exists_matchesPattern_iff.2 hpattern
    rw [filterLines, hmatched]
    cases matched with
    | true => rfl
    | false => exact ih hrest

end Material

end PipelineSync
