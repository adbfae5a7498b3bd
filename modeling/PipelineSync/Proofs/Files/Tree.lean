import Mathlib.Data.List.Basic
import PipelineSync.Files.Tree

/-!
# One directory of a tree

What the operations on a tree do to the entries of one directory. `Tree.entriesAt?` gives the entries
of a directory that is there or can still be made; making it, or a directory on the way to it, leaves
them as they are (`exists_makeDir_take`), and a change at an entry is a change of the list of entries
(`exists_modify`).
-/

namespace PipelineSync

namespace Tree

/-! ## Entries -/

theorem lookup_cons_eq_ite (e : String × Tree) (es : List (String × Tree)) (name : String) :
    (e :: es).lookup name = if name = e.1 then some e.2 else es.lookup name := by
  rw [List.lookup_cons]
  by_cases h : name = e.1
  · simp [h]
  · have : (name == e.1) = false := beq_eq_false_iff_ne.2 h
    rw [this, if_neg h]

theorem lookup_setEntry (name : String) (t : Tree) (es : List (String × Tree)) (other : String) :
    (setEntry name t es).lookup other = if other = name then some t else es.lookup other := by
  induction es with
  | nil => exact lookup_cons_eq_ite (name, t) [] other
  | cons e es ih =>
    unfold setEntry
    by_cases hlt : name < e.1
    · rw [if_pos hlt, lookup_cons_eq_ite]
    · rw [if_neg hlt]
      by_cases heq : name = e.1
      · subst heq
        rw [if_pos rfl, lookup_cons_eq_ite, lookup_cons_eq_ite]
        by_cases hother : other = e.1 <;> simp [hother]
      · rw [if_neg heq, lookup_cons_eq_ite, lookup_cons_eq_ite, ih]
        by_cases hother : other = e.1
        · subst hother
          simp [Ne.symm heq]
        · simp [hother]

theorem lookup_filter_ne (name : String) (es : List (String × Tree)) (other : String) :
    (es.filter fun e => e.1 != name).lookup other =
      if other = name then none else es.lookup other := by
  induction es with
  | nil => simp
  | cons e es ih =>
    rw [List.filter_cons, lookup_cons_eq_ite]
    by_cases he : e.1 = name
    · subst he
      have hself : (e.1 != e.1) = false := bne_self_eq_false e.1
      rw [hself, if_neg Bool.false_ne_true, ih]
      by_cases hother : other = e.1 <;> simp [hother]
    · by_cases hother : other = e.1
      · subst hother
        simp [he, lookup_cons_eq_ite]
      · simp [he, lookup_cons_eq_ite, hother, ih]

/-- The names of entries increase. -/
def Ordered (es : List (String × Tree)) : Prop :=
  es.Pairwise fun a b => a.1 < b.1

theorem mem_setEntry {name : String} {t : Tree} {es : List (String × Tree)} {e : String × Tree}
    (h : e ∈ setEntry name t es) : e = (name, t) ∨ e ∈ es := by
  induction es with
  | nil => exact Or.inl (List.mem_singleton.1 h)
  | cons d es ih =>
    unfold setEntry at h
    split at h
    · exact List.mem_cons.1 h
    · split at h
      · exact (List.mem_cons.1 h).imp_right (List.mem_cons_of_mem d)
      · rcases List.mem_cons.1 h with rfl | h
        · exact Or.inr List.mem_cons_self
        · exact (ih h).imp_right (List.mem_cons_of_mem d)

theorem Ordered.setEntry {es : List (String × Tree)} (h : Ordered es) (name : String) (t : Tree) :
    Ordered (setEntry name t es) := by
  unfold Ordered at h ⊢
  induction es with
  | nil => exact List.pairwise_singleton _ _
  | cons e es ih =>
    obtain ⟨hfirst, hrest⟩ := List.pairwise_cons.1 h
    unfold Tree.setEntry
    by_cases hlt : name < e.1
    · rw [if_pos hlt, List.pairwise_cons]
      refine ⟨?_, h⟩
      intro d hd
      rcases List.mem_cons.1 hd with rfl | hd
      · exact hlt
      · exact String.lt_trans hlt (hfirst d hd)
    · rw [if_neg hlt]
      by_cases heq : name = e.1
      · subst heq
        rw [if_pos rfl, List.pairwise_cons]
        exact ⟨hfirst, hrest⟩
      · rw [if_neg heq, List.pairwise_cons]
        refine ⟨?_, ih hrest⟩
        intro d hd
        rcases mem_setEntry hd with rfl | hd
        · exact Std.lt_of_le_of_ne (String.not_lt.1 hlt) (Ne.symm heq)
        · exact hfirst d hd

theorem Ordered.filter {es : List (String × Tree)} (h : Ordered es)
    (p : String × Tree → Bool) : Ordered (es.filter p) :=
  List.Pairwise.filter p h

theorem Ordered.nodup {es : List (String × Tree)} (h : Ordered es) : (es.map Prod.fst).Nodup := by
  rw [List.nodup_iff_pairwise_ne, List.pairwise_map]
  apply h.imp
  intro a b hab heq
  rw [heq] at hab
  exact String.lt_irrefl _ hab

theorem Ordered.lookup_of_mem {es : List (String × Tree)} (h : Ordered es) {name : String}
    {t : Tree} (hmem : (name, t) ∈ es) : es.lookup name = some t := by
  induction es with
  | nil => exact absurd hmem List.not_mem_nil
  | cons e es ih =>
    obtain ⟨hfirst, hrest⟩ := List.pairwise_cons.1 h
    rw [lookup_cons_eq_ite]
    rcases List.mem_cons.1 hmem with rfl | hmem
    · rw [if_pos rfl]
    · rw [if_neg (String.ne_of_lt (hfirst _ hmem)).symm, ih hrest hmem]

/-! ## Directories -/

/-- The entries of a directory; there are none where it can still be made. -/
def entriesAt? : List String → Tree → Option (List (String × Tree))
  | [], .dir es => some es
  | [], .file _ => none
  | _ :: _, .file _ => none
  | name :: names, .dir es => entriesAt? names ((es.lookup name).getD (.dir []))

theorem entriesAt?_empty (names : List String) : entriesAt? names (.dir []) = some [] := by
  induction names with
  | nil => rfl
  | cons name names ih => exact ih

theorem entriesAt?_of_find? {names : List String} {t : Tree} {es : List (String × Tree)}
    (h : t.find? names = .ok (.dir es)) : entriesAt? names t = some es := by
  induction names generalizing t with
  | nil =>
    obtain rfl : t = .dir es := by simpa [find?] using h
    rfl
  | cons name names ih =>
    cases t with
    | file c => cases h
    | dir ds =>
      unfold find? at h
      unfold entriesAt?
      cases hd : ds.lookup name with
      | none => simp [hd] at h
      | some u =>
        rw [hd] at h
        exact ih h

theorem find?_of_entriesAt? {names : List String} {t : Tree} {es : List (String × Tree)}
    (h : entriesAt? names t = some es) :
    t.find? names = .ok (.dir es) ∨ t.find? names = .error .notFound ∧ es = [] := by
  induction names generalizing t with
  | nil =>
    cases t with
    | file c => cases h
    | dir ds =>
      obtain rfl : ds = es := by simpa [entriesAt?] using h
      exact Or.inl rfl
  | cons name names ih =>
    cases t with
    | file c => cases h
    | dir ds =>
      unfold entriesAt? at h
      unfold find?
      cases hd : ds.lookup name with
      | none =>
        rw [hd, Option.getD_none, entriesAt?_empty] at h
        exact Or.inr ⟨rfl, (Option.some.inj h).symm⟩
      | some u =>
        rw [hd] at h
        exact ih h

theorem find?_dir_cons (es : List (String × Tree)) (name : String) (names : List String) :
    (dir es).find? (name :: names) =
      match es.lookup name with
      | some t => t.find? names
      | none => .error .notFound := rfl

theorem find?_append {names more : List String} {t u : Tree} (h : t.find? names = .ok u) :
    t.find? (names ++ more) = u.find? more := by
  induction names generalizing t with
  | nil =>
    obtain rfl : t = u := by simpa [find?] using h
    rfl
  | cons name names ih =>
    cases t with
    | file c => cases h
    | dir ds =>
      rw [find?_dir_cons] at h
      rw [List.cons_append, find?_dir_cons]
      cases hd : ds.lookup name with
      | none => simp [hd] at h
      | some v =>
        rw [hd] at h
        exact ih h

theorem find?_append_of_error {names : List String} {t : Tree} {fault : FileFault}
    (h : t.find? names = .error fault) (more : List String) :
    t.find? (names ++ more) = .error fault := by
  induction names generalizing t with
  | nil => simp [find?] at h
  | cons name names ih =>
    cases t with
    | file c => exact h
    | dir ds =>
      rw [find?_dir_cons] at h
      rw [List.cons_append, find?_dir_cons]
      cases hd : ds.lookup name with
      | none => rwa [hd] at h
      | some v =>
        rw [hd] at h
        exact ih h

/-- What is at an entry of a directory. -/
theorem find?_entry {names : List String} {t : Tree} {es : List (String × Tree)}
    (h : t.find? names = .ok (.dir es)) (name : String) :
    t.find? (names ++ [name]) =
      match es.lookup name with
      | some u => .ok u
      | none => .error .notFound := by
  rw [find?_append h]
  unfold find?
  cases es.lookup name <;> rfl

/-- Making directories on the way to a directory leaves its entries as they are. -/
theorem exists_makeDir_append {names more : List String} {t : Tree} {es : List (String × Tree)}
    (h : entriesAt? (names ++ more) t = some es) :
    ∃ t', makeDir names t = .ok t' ∧ entriesAt? (names ++ more) t' = some es := by
  induction names generalizing t with
  | nil =>
    cases t with
    | file c => cases more <;> cases h
    | dir ds => exact ⟨_, rfl, h⟩
  | cons name names ih =>
    cases t with
    | file c => cases h
    | dir ds =>
      obtain ⟨u, hu, hes⟩ := ih h
      refine ⟨.dir (setEntry name u ds), ?_, ?_⟩
      · unfold makeDir
        rw [hu]
        rfl
      · rw [List.cons_append]
        unfold entriesAt?
        rw [lookup_setEntry, if_pos rfl]
        exact hes

/-- A directory that can be made is there afterwards, with its entries. -/
theorem exists_makeDir {names : List String} {t : Tree} {es : List (String × Tree)}
    (h : entriesAt? names t = some es) :
    ∃ t', makeDir names t = .ok t' ∧ t'.find? names = .ok (.dir es) := by
  induction names generalizing t with
  | nil =>
    cases t with
    | file c => cases h
    | dir ds =>
      obtain rfl : ds = es := by simpa [entriesAt?] using h
      exact ⟨_, rfl, rfl⟩
  | cons name names ih =>
    cases t with
    | file c => cases h
    | dir ds =>
      obtain ⟨u, hu, hes⟩ := ih h
      refine ⟨.dir (setEntry name u ds), ?_, ?_⟩
      · unfold makeDir
        rw [hu]
        rfl
      · unfold find?
        rw [lookup_setEntry, if_pos rfl]
        exact hes

/-- The entries of a directory after a change at one of them. -/
def changeEntry (change : Option Tree → Except FileFault (Option Tree)) (name : String)
    (es : List (String × Tree)) : Except FileFault (List (String × Tree)) := do
  match ← change (es.lookup name) with
  | some t => return setEntry name t es
  | none => return es.filter fun e => e.1 != name

/-- A change at an entry of a directory that is there. -/
theorem exists_modify {change : Option Tree → Except FileFault (Option Tree)}
    {names : List String} {name : String} {t : Tree} {es es' : List (String × Tree)}
    (h : t.find? names = .ok (.dir es)) (hchange : changeEntry change name es = .ok es') :
    ∃ t', modify change (names ++ [name]) t = .ok t' ∧ t'.find? names = .ok (.dir es') := by
  induction names generalizing t with
  | nil =>
    obtain rfl : t = .dir es := by simpa [find?] using h
    refine ⟨.dir es', ?_, rfl⟩
    unfold changeEntry at hchange
    rw [List.nil_append, modify]
    cases hc : change (es.lookup name) with
    | error fault => rw [hc] at hchange; cases hchange
    | ok u =>
      rw [hc] at hchange
      cases u <;> cases hchange <;> rfl
  | cons first names ih =>
    cases t with
    | file c => cases h
    | dir ds =>
      rw [find?_dir_cons] at h
      cases hd : ds.lookup first with
      | none => simp [hd] at h
      | some u =>
        rw [hd] at h
        obtain ⟨u', hu, hes⟩ := ih h
        obtain ⟨second, rest, hrest⟩ : ∃ second rest, names ++ [name] = second :: rest :=
          List.exists_cons_of_ne_nil (by simp)
        refine ⟨.dir (setEntry first u' ds), ?_, ?_⟩
        · rw [hrest] at hu
          rw [List.cons_append, hrest, modify, hd]
          dsimp only
          rw [hu]
          rfl
        · rw [find?_dir_cons, lookup_setEntry, if_pos rfl]
          exact hes

end Tree

end PipelineSync
