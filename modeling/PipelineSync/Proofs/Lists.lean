import Mathlib.Data.List.Basic
import Mathlib.Data.List.Induction

/-!
# Folds that may fail, readings of all elements, look-ups and first occurrences

`foldlM_induction` is the rule by which what holds of every prefix of a fold holds of the whole.
`forall₂_of_mapM_eq_some` says what a list that is read element by element is read of. The lemmas on
`List.eraseDupsBy` are for relations that compare elements by a key.
-/

namespace PipelineSync

open List

/-! ## Folds that may fail -/

theorem ok_bind {α β ε : Type} (a : α) (f : α → Except ε β) : (Except.ok a >>= f) = f a := rfl

theorem bind_eq_ok_iff {α β ε : Type} {x : Except ε α} {f : α → Except ε β} {b : β} :
    (x >>= f) = .ok b ↔ ∃ a, x = .ok a ∧ f a = .ok b := by
  cases x with
  | error e => exact ⟨nofun, fun ⟨_, h, _⟩ => nomatch h⟩
  | ok a =>
    constructor
    · exact fun h => ⟨a, rfl, h⟩
    · rintro ⟨a', ha, h⟩
      rwa [Except.ok.inj ha]

theorem bind_eq_error {α β ε : Type} {x : Except ε α} {f : α → Except ε β} {e : ε}
    (h : (x >>= f) = .error e) : x = .error e ∨ ∃ a, x = .ok a ∧ f a = .error e := by
  cases x with
  | error e' => exact Or.inl (congrArg Except.error (Except.error.inj h))
  | ok a => exact Or.inr ⟨a, rfl, h⟩

theorem toOption_eq_some_iff {α ε : Type} {x : Except ε α} {a : α} :
    x.toOption = some a ↔ x = .ok a := by
  cases x with
  | error e => exact ⟨nofun, nofun⟩
  | ok a' => simp [Except.toOption]

section Folds

variable {α β ε : Type} {f : β → α → Except ε β}

/-- A property of what a fold has been through and what it has made of it, kept by each step. -/
theorem foldlM_induction (P : List α → β → Prop) {l before : List α} {b c : β}
    (step : ∀ before a b c, P before b → f b a = .ok c → P (before ++ [a]) c)
    (start : P before b) (h : l.foldlM f b = .ok c) : P (before ++ l) c := by
  induction l generalizing before b with
  | nil =>
    obtain rfl : b = c := Except.ok.inj h
    simpa using start
  | cons a l ih =>
    rw [List.foldlM_cons] at h
    obtain ⟨b', hb, h⟩ := bind_eq_ok_iff.1 h
    have := ih (step before a b b' start hb) h
    rwa [List.append_assoc] at this

/-- The same from the start of a fold on. -/
theorem foldlM_induction_nil (P : List α → β → Prop) {l : List α} {b c : β}
    (step : ∀ before a b c, P before b → f b a = .ok c → P (before ++ [a]) c)
    (start : P [] b) (h : l.foldlM f b = .ok c) : P l c :=
  foldlM_induction P step start h

/-- If each step goes well just when the elements up to it are good together, then so does the fold,
and it builds what the steps build. -/
theorem foldlM_eq_ok_iff (good : List α → Prop) (build : List α → β)
    (hfront : ∀ before later, good (before ++ later) → good before)
    (hstep : ∀ before a b, good before →
      (f (build before) a = .ok b ↔ good (before ++ [a]) ∧ b = build (before ++ [a])))
    (hgood : good []) {l : List α} {b : β} :
    l.foldlM f (build []) = .ok b ↔ good l ∧ b = build l := by
  suffices ∀ before, good before →
      (l.foldlM f (build before) = .ok b ↔ good (before ++ l) ∧ b = build (before ++ l)) from
    this [] hgood
  induction l with
  | nil =>
    intro before hbefore
    rw [List.append_nil]
    exact ⟨fun h => ⟨hbefore, (Except.ok.inj h).symm⟩, fun h => congrArg Except.ok h.2.symm⟩
  | cons a l ih =>
    intro before hbefore
    have hsplit : before ++ a :: l = (before ++ [a]) ++ l := by simp
    rw [List.foldlM_cons, bind_eq_ok_iff, hsplit]
    constructor
    · rintro ⟨b₁, ha, hl⟩
      obtain ⟨hgood, rfl⟩ := (hstep before a b₁ hbefore).1 ha
      exact (ih _ hgood).1 hl
    · rintro ⟨hgood, rfl⟩
      have ha := hfront _ _ hgood
      exact ⟨_, (hstep before a _ hbefore).2 ⟨ha, rfl⟩, (ih _ ha).2 ⟨hgood, rfl⟩⟩

/-- A fold that puts something in front for each element. -/
theorem foldlM_cons_eq {γ : Type} {f : List γ → α → Except ε (List γ)} {g : α → γ}
    (hf : ∀ b a c, f b a = .ok c → c = g a :: b) {l : List α} {b c : List γ}
    (h : l.foldlM f b = .ok c) : c = (l.map g).reverse ++ b := by
  refine foldlM_induction_nil (fun l c => c = (l.map g).reverse ++ b) ?_ rfl h
  intro before a d d' hd hstep
  rw [hf d a d' hstep, hd, List.map_append, List.reverse_append]
  rfl

/-- A fold that fails does so at an element, after those before it. -/
theorem exists_of_foldlM_eq_error {l : List α} {b : β} {e : ε} (h : l.foldlM f b = .error e) :
    ∃ before a after c, l = before ++ a :: after ∧ before.foldlM f b = .ok c ∧
      f c a = .error e := by
  induction l generalizing b with
  | nil => cases h
  | cons a l ih =>
    rw [List.foldlM_cons] at h
    rcases bind_eq_error h with hstep | ⟨b', hstep, h⟩
    · exact ⟨[], a, l, b, rfl, rfl, hstep⟩
    · obtain ⟨before, a', after, c, rfl, hbefore, hfail⟩ := ih h
      refine ⟨a :: before, a', after, c, rfl, ?_, hfail⟩
      rw [List.foldlM_cons, hstep]
      exact hbefore

theorem foldlM_flatMap {γ : Type} (g : γ → List α) (l : List γ) (b : β) :
    (l.flatMap g).foldlM f b = l.foldlM (fun b c => (g c).foldlM f b) b := by
  induction l generalizing b with
  | nil => rfl
  | cons c l ih =>
    rw [List.flatMap_cons, List.foldlM_append, List.foldlM_cons]
    simp only [ih]

/-- A fold over images is the image of the fold, if each step is. -/
theorem foldlM_map_hom {α' β' : Type} {f' : β' → α' → Except ε β'} {φ : β → β'} {ψ : α → α'}
    (h : ∀ b a, f' (φ b) (ψ a) = (f b a).map φ) (l : List α) (b : β) :
    (l.map ψ).foldlM f' (φ b) = (l.foldlM f b).map φ := by
  induction l generalizing b with
  | nil => rfl
  | cons a l ih =>
    rw [List.map_cons, List.foldlM_cons, List.foldlM_cons, h]
    cases f b a with
    | error e => rfl
    | ok b' => exact ih b'

theorem forM_eq_ok_iff {g : α → Except ε Unit} {l : List α} {u : Unit} :
    l.forM g = .ok u ↔ ∀ a ∈ l, g a = .ok () := by
  induction l with
  | nil => exact iff_of_true rfl (by simp)
  | cons a l ih =>
    rw [List.forall_mem_cons, ← ih]
    change (g a >>= fun _ => l.forM g) = .ok () ↔ _
    cases g a with
    | error e => exact ⟨nofun, fun h => nomatch h.1⟩
    | ok u => exact ⟨fun h => ⟨rfl, h⟩, And.right⟩

theorem exists_of_forM_eq_error {g : α → Except ε Unit} {l : List α} {e : ε}
    (h : l.forM g = .error e) : ∃ a ∈ l, g a = .error e := by
  induction l with
  | nil => cases h
  | cons a l ih =>
    rcases bind_eq_error (f := fun _ => l.forM g) h with ha | ⟨_, -, hl⟩
    · exact ⟨a, List.mem_cons_self, ha⟩
    · obtain ⟨b, hb, hfail⟩ := ih hl
      exact ⟨b, List.mem_cons_of_mem _ hb, hfail⟩

end Folds

/-! ## Reading all elements -/

section Reading

variable {α β : Type} {f : α → Option β} {l : List α}

theorem mapM_eq_some_map {g : α → β} (h : ∀ a ∈ l, f a = some (g a)) :
    l.mapM f = some (l.map g) := by
  induction l with
  | nil => rfl
  | cons a l ih =>
    rw [List.mapM_cons, h a List.mem_cons_self, ih fun b hb => h b (List.mem_cons_of_mem _ hb)]
    rfl

theorem forall₂_of_mapM_eq_some {bs : List β} (h : l.mapM f = some bs) :
    List.Forall₂ (fun a b => f a = some b) l bs := by
  induction l generalizing bs with
  | nil =>
    obtain rfl : [] = bs := Option.some.inj h
    exact List.Forall₂.nil
  | cons a l ih =>
    simp only [List.mapM_cons, Option.bind_eq_bind, Option.bind_eq_some_iff] at h
    obtain ⟨b, hb, bs', hbs, h⟩ := h
    obtain rfl : b :: bs' = bs := Option.some.inj h
    exact List.Forall₂.cons hb (ih hbs)

theorem exists_of_mem_mapM {bs : List β} (h : l.mapM f = some bs) {b : β} (hb : b ∈ bs) :
    ∃ a ∈ l, f a = some b := by
  have hall := forall₂_of_mapM_eq_some h
  clear h
  induction hall with
  | nil => cases hb
  | cons hab _ ih =>
    rcases List.mem_cons.1 hb with rfl | hb
    · exact ⟨_, List.mem_cons_self, hab⟩
    · obtain ⟨a, ha, hab⟩ := ih hb
      exact ⟨a, List.mem_cons_of_mem _ ha, hab⟩

end Reading

/-! ## Looking up -/

section Lookup

variable {α β : Type}

theorem mem_of_lookup [BEq α] [LawfulBEq α] {l : List (α × β)} {a : α} {b : β}
    (h : l.lookup a = some b) : (a, b) ∈ l := by
  obtain ⟨before, after, rfl, -⟩ := List.lookup_eq_some_iff.1 h
  exact List.mem_append_right _ List.mem_cons_self

theorem find?_eq_some_of_unique {p : α → Bool} {l : List α} {a : α} (ha : a ∈ l)
    (hp : p a = true) (hunique : ∀ b ∈ l, p b = true → b = a) : l.find? p = some a := by
  cases hfind : l.find? p with
  | none => exact absurd hp (List.find?_eq_none.1 hfind a ha)
  | some b =>
    have hb := hunique b (List.mem_of_find?_eq_some hfind) (List.find?_some hfind)
    rw [hb]

end Lookup

/-! ## First occurrences -/

section FirstOccurrences

variable {α κ : Type} [BEq κ] [LawfulBEq κ] (key : α → κ)

theorem eraseDupsBy_append_singleton (l : List α) (a : α) :
    (l ++ [a]).eraseDupsBy (fun x y => key x == key y) =
      if l.any fun x => key x == key a then l.eraseDupsBy fun x y => key x == key y
      else l.eraseDupsBy (fun x y => key x == key y) ++ [a] := by
  match l with
  | [] => simp [eraseDupsBy_cons]
  | b :: l =>
    -- the recursion of `eraseDupsBy` is on the rest without the duplicates of the head
    have ih := eraseDupsBy_append_singleton (l.filter fun x => (key x == key b) = false) a
    rw [List.cons_append, eraseDupsBy_cons, eraseDupsBy_cons, List.filter_append]
    by_cases hab : key a = key b
    · simp [hab]
    · have hany : (l.filter fun x => (key x == key b) = false).any (fun x => key x == key a) =
          (b :: l).any fun x => key x == key a := by
        rw [Bool.eq_iff_iff]
        simp only [List.any_eq_true, List.mem_filter, List.mem_cons]
        constructor
        · rintro ⟨x, ⟨hx, -⟩, hxa⟩
          exact ⟨x, Or.inr hx, hxa⟩
        · rintro ⟨x, rfl | hx, hxa⟩
          · exact absurd (eq_of_beq hxa).symm hab
          · refine ⟨x, ⟨hx, ?_⟩, hxa⟩
            simp [eq_of_beq hxa, hab]
      rw [← hany]
      have hself : [a].filter (fun x => (key x == key b) = false) = [a] := by simp [hab]
      rw [hself, ih]
      split
      · rfl
      · rfl
termination_by l.length
decreasing_by exact Nat.lt_succ_of_le (List.length_filter_le _ _)

theorem eraseDupsBy_sublist {r : α → α → Bool} (l : List α) : (l.eraseDupsBy r).Sublist l := by
  match l with
  | [] => simp
  | a :: l =>
    rw [eraseDupsBy_cons]
    exact ((eraseDupsBy_sublist _).trans List.filter_sublist).cons_cons a
termination_by l.length
decreasing_by exact Nat.lt_succ_of_le (List.length_filter_le _ _)

theorem mem_of_mem_eraseDupsBy {r : α → α → Bool} {l : List α} {a : α}
    (h : a ∈ l.eraseDupsBy r) : a ∈ l :=
  (eraseDupsBy_sublist l).subset h

theorem any_eraseDupsBy (l : List α) (k : κ) :
    ((l.eraseDupsBy fun x y => key x == key y).any fun x => key x == k) =
      l.any fun x => key x == k := by
  have hsingleton (a : α) : ([a].any fun x => key x == k) = (key a == k) := by simp
  induction l using List.reverseRecOn with
  | nil => simp
  | append_singleton l a ih =>
    rw [eraseDupsBy_append_singleton, List.any_append, hsingleton]
    split
    · next hold =>
      rw [ih]
      by_cases hk : key a = k
      · rw [← hk, hold]
        simp
      · simp [hk]
    · rw [List.any_append, hsingleton, ih]

theorem pairwise_eraseDupsBy (l : List α) :
    (l.eraseDupsBy fun x y => key x == key y).Pairwise fun x y => key x ≠ key y := by
  match l with
  | [] => simp
  | b :: l =>
    rw [eraseDupsBy_cons]
    refine List.pairwise_cons.2 ⟨fun x hx => ?_, pairwise_eraseDupsBy _⟩
    have := (List.mem_filter.1 (mem_of_mem_eraseDupsBy hx)).2
    intro hxb
    simp [hxb] at this
termination_by l.length
decreasing_by exact Nat.lt_succ_of_le (List.length_filter_le _ _)

end FirstOccurrences

end PipelineSync
