import Mathlib.Data.List.Induction
import Mathlib.Data.List.Perm.Basic
import PipelineSync.Configuration.Merge
import PipelineSync.Proofs.Lists

/-!
# What has been merged

A `Merge` is fed with groups and environments one after another. `Merge.Holds` says what each of
its four parts then owes to all that went in, and `addGroup_holds` and `addEnvironment_holds` keep
it.
-/

namespace PipelineSync

/-! ## Groups -/

namespace Group

/-- The groups that a list of groups comes to: one for each name, in the order in which the names
are first seen, with the pipelines of all groups of the name. -/
def joined (gs : List Group) : List Group :=
  (gs.map name).eraseDups.map fun n => ⟨n, (gs.filter (·.name = n)).flatMap pipelines⟩

theorem addTo_map {F : String → Group} (hF : ∀ n, (F n).name = n) {ns : List String}
    (h : ns.Nodup) (g : Group) :
    g.addTo (ns.map F) =
      if g.name ∈ ns then
        ns.map fun n =>
          if n = g.name then { F n with pipelines := (F n).pipelines ++ g.pipelines } else F n
      else ns.map F ++ [g] := by
  induction ns with
  | nil => rfl
  | cons n ns ih =>
    obtain ⟨hn, hns⟩ := List.nodup_cons.1 h
    rw [List.map_cons, addTo, hF, ih hns]
    by_cases hg : n = g.name
    · have hrest : ns.map (fun m => if m = g.name then
          { F m with pipelines := (F m).pipelines ++ g.pipelines } else F m) = ns.map F :=
        List.map_congr_left fun m hm => if_neg fun hmg => hn (by rw [hg, ← hmg]; exact hm)
      simp [hg, hF, ← hrest]
    · by_cases hmem : g.name ∈ ns
      · simp [hg, hmem]
      · simp [hg, hmem, Ne.symm hg]

theorem nodup_eraseDups (l : List String) : l.eraseDups.Nodup :=
  pairwise_eraseDupsBy id l

theorem eraseDups_append_singleton (l : List String) (a : String) :
    (l ++ [a]).eraseDups = if a ∈ l then l.eraseDups else l.eraseDups ++ [a] := by
  have h := eraseDupsBy_append_singleton id l a
  have hany : (l.any fun x => id x == id a) = decide (a ∈ l) := by
    rw [Bool.eq_iff_iff]
    simp
  rw [hany] at h
  simpa [List.eraseDups] using h

theorem joined_append_singleton (gs : List Group) (g : Group) :
    joined (gs ++ [g]) = g.addTo (joined gs) := by
  have hpipelines (n : String) : ((gs ++ [g]).filter (·.name = n)).flatMap pipelines =
      (gs.filter (·.name = n)).flatMap pipelines ++ if n = g.name then g.pipelines else [] := by
    by_cases h : g.name = n
    · simp [h]
    · simp [h, Ne.symm h]
  rw [joined, joined, addTo_map (fun _ => rfl) (nodup_eraseDups _), List.map_append, List.map_cons,
    List.map_nil, eraseDups_append_singleton]
  simp only [List.mem_eraseDups]
  split
  · refine List.map_congr_left fun n _ => ?_
    rw [hpipelines]
    split
    · rfl
    · simp
  · next hnew =>
    rw [List.map_append, List.map_cons, List.map_nil, hpipelines]
    congr 1
    · refine List.map_congr_left fun n hn => ?_
      have hne : n ≠ g.name := fun h => hnew (h ▸ List.mem_eraseDups.1 hn)
      rw [hpipelines, if_neg hne, List.append_nil]
    · have hnone : gs.filter (·.name = g.name) = [] := by
        refine List.filter_eq_nil_iff.2 fun x hx hxg => hnew ?_
        rw [← of_decide_eq_true hxg]
        exact List.mem_map_of_mem hx
      simp [hnone]

theorem flatMap_pipelines_addTo (g : Group) (gs : List Group) :
    ((g.addTo gs).flatMap pipelines).Perm (gs.flatMap pipelines ++ g.pipelines) := by
  induction gs with
  | nil => simp [addTo]
  | cons h gs ih =>
    rw [addTo]
    split
    · rw [List.flatMap_cons, List.flatMap_cons, List.append_assoc, List.append_assoc]
      exact List.Perm.append_left _ List.perm_append_comm
    · rw [List.flatMap_cons, List.flatMap_cons, List.append_assoc]
      exact ih.append_left _

/-- Joining groups neither loses nor repeats a pipeline. -/
theorem joined_perm (gs : List Group) :
    ((joined gs).flatMap pipelines).Perm (gs.flatMap pipelines) := by
  induction gs using List.reverseRecOn with
  | nil => exact List.Perm.refl _
  | append_singleton gs g ih =>
    rw [joined_append_singleton, List.flatMap_append, List.flatMap_singleton]
    exact (flatMap_pipelines_addTo g _).trans (ih.append_right _)

end Group

namespace Merge

/-! ## Entries by name -/

section Entries

variable {α : Type} {es : List (Name × α)} {n m : Name}

theorem find?_cons (e : Name × α) (es : List (Name × α)) (n : Name) :
    find? (e :: es) n = if e.1.same n then some e.2 else find? es n := by
  rw [find?, List.find?_cons]
  split <;> simp_all [find?]

/-- A name is looked up without regard to its case. -/
theorem find?_congr (h : n.same m = true) : find? es n = find? es m := by
  have hsame (k : Name) : k.same n = k.same m := by
    rw [Name.same, Name.same, Name.same_iff.1 h]
  simp only [find?, hsame]

theorem find?_eq_none_iff : find? es n = none ↔ ∀ e ∈ es, ¬ e.1.same n = true := by
  simp [find?, List.find?_eq_none]

end Entries

/-! ## Pipelines -/

/-- The pipelines have different names, and these are the ones noted, the latest first. -/
structure Defines (definedIn : List (Name × String)) (ps : List Pipeline) : Prop where
  names : definedIn.map Prod.fst = (ps.map Pipeline.name).reverse
  distinct : ps.Pairwise fun p q => ¬ p.name.same q.name = true

theorem Defines.find?_eq_none_iff {definedIn : List (Name × String)} {ps : List Pipeline}
    (h : Defines definedIn ps) {n : Name} :
    find? definedIn n = none ↔ ∀ p ∈ ps, ¬ p.name.same n = true := by
  have hmem (k : Name) : (∃ e ∈ definedIn, e.1 = k) ↔ ∃ p ∈ ps, p.name = k := by
    have : k ∈ definedIn.map Prod.fst ↔ k ∈ (ps.map Pipeline.name).reverse := by rw [h.names]
    simpa using this
  rw [Merge.find?_eq_none_iff]
  constructor
  · intro hnone p hp
    obtain ⟨e, he, hep⟩ := (hmem p.name).2 ⟨p, hp, rfl⟩
    exact hep ▸ hnone e he
  · intro hnone e he
    obtain ⟨p, hp, hpe⟩ := (hmem e.1).1 ⟨e, he, rfl⟩
    exact hpe ▸ hnone p hp

theorem define_eq_ok_iff {source : String} {definedIn definedIn' : List (Name × String)}
    {p : Pipeline} :
    define source definedIn p = .ok definedIn' ↔
      find? definedIn p.name = none ∧ (p.name, source) :: definedIn = definedIn' := by
  rw [define]
  split <;> simp_all

theorem defines_append {source : String} {definedIn definedIn' : List (Name × String)}
    {before ps : List Pipeline} (h : Defines definedIn before)
    (hok : ps.foldlM (define source) definedIn = .ok definedIn') :
    Defines definedIn' (before ++ ps) := by
  refine foldlM_induction (fun ps d => Defines d ps) ?_ h hok
  intro before d p d' h hdefine
  obtain ⟨hnone, rfl⟩ := define_eq_ok_iff.1 hdefine
  refine ⟨by simp [h.names], List.pairwise_append.2 ⟨h.distinct, by simp, ?_⟩⟩
  intro q hq p' hp
  obtain rfl := List.mem_singleton.1 hp
  exact h.find?_eq_none_iff.1 hnone q hq

/-! ## The environment of a pipeline -/

/-- The pipelines that environments list, each with the name of the environment. -/
def listings (es : List Environment) : List (Name × Name) :=
  es.flatMap fun e => e.pipelines.map fun n => (n, e.name)

/-- Every listing is noted: each pipeline has one environment, in whatever case it is written. -/
def Assigns (environmentOf listings : List (Name × Name)) : Prop :=
  ∀ l ∈ listings, ∃ other, find? environmentOf l.1 = some other ∧ other.same l.2 = true

theorem assign_eq_ok_iff {environment pipeline : Name} {entries entries' : List (Name × Name)} :
    assign environment entries pipeline = .ok entries' ↔
      (∀ other, find? entries pipeline = some other → other.same environment = true) ∧
        (pipeline, environment) :: entries = entries' := by
  rw [assign]
  split
  · next other h =>
    split <;> simp_all
  · next h => simp [h]

theorem assigns_step {environment pipeline : Name} {entries entries' ls : List (Name × Name)}
    (h : Assigns entries ls) (hok : assign environment entries pipeline = .ok entries') :
    Assigns entries' (ls ++ [(pipeline, environment)]) := by
  obtain ⟨hagree, rfl⟩ := assign_eq_ok_iff.1 hok
  intro l hl
  rw [find?_cons]
  rcases List.mem_append.1 hl with hl | hl
  · obtain ⟨other, hfind, hsame⟩ := h l hl
    split
    · next hlist =>
      have := hagree other ((find?_congr hlist).trans hfind)
      exact ⟨environment, rfl, Name.same_trans (Name.same_symm this) hsame⟩
    · exact ⟨other, hfind, hsame⟩
  · obtain rfl := List.mem_singleton.1 hl
    exact ⟨environment, by simp, Name.same_self _⟩

theorem assigns_append {e : Environment} {entries entries' ls : List (Name × Name)}
    (h : Assigns entries ls) (hok : e.pipelines.foldlM (assign e.name) entries = .ok entries') :
    Assigns entries' (ls ++ e.pipelines.map fun n => (n, e.name)) := by
  have start : Assigns entries (ls ++ [].map fun n => (n, e.name)) := by simpa using h
  refine foldlM_induction (fun ns t => Assigns t (ls ++ ns.map fun n => (n, e.name))) ?_ start hok
  intro before t n t' h hok
  rw [List.map_append, ← List.append_assoc]
  exact assigns_step h hok

/-- Environments that list a pipeline in common have one name. -/
theorem Assigns.same {environmentOf : List (Name × Name)} {es : List Environment}
    (h : Assigns environmentOf (listings es)) {a b : Environment} (ha : a ∈ es) (hb : b ∈ es)
    {n : Name} (hna : n.isIn a.pipelines = true) (hnb : n.isIn b.pipelines = true) :
    a.name.same b.name = true := by
  have hnoted {e : Environment} (he : e ∈ es) (hn : n.isIn e.pipelines = true) :
      ∃ other, find? environmentOf n = some other ∧ other.same e.name = true := by
    obtain ⟨k, hk, hnk⟩ := Name.isIn_iff.1 hn
    have hlisted : (k, e.name) ∈ listings es :=
      List.mem_flatMap.2 ⟨e, he, List.mem_map.2 ⟨k, hk, rfl⟩⟩
    obtain ⟨other, hfind, hother⟩ := h _ hlisted
    exact ⟨other, (find?_congr hnk).trans hfind, hother⟩
  obtain ⟨other, hfind, hoa⟩ := hnoted ha hna
  obtain ⟨other', hfind', hob⟩ := hnoted hb hnb
  obtain rfl : other = other' := Option.some.inj (hfind.symm.trans hfind')
  exact Name.same_trans (Name.same_symm hoa) hob

/-! ## Environments -/

theorem addName_eq (names : List Name) (n : Name) :
    addName names n = if n.isIn names then names else names ++ [n] := rfl

/-- A name is there afterwards, in whatever case, if it was before or was added. -/
theorem isIn_foldl_addName {n : Name} {names added : List Name} :
    n.isIn (added.foldl addName names) = true ↔ n.isIn names = true ∨ n.isIn added = true := by
  induction added generalizing names with
  | nil => simp [Name.isIn]
  | cons a added ih =>
    rw [List.foldl_cons, ih, addName_eq]
    have hcons : n.isIn (a :: added) = true ↔ n.same a = true ∨ n.isIn added = true := by
      simp [Name.isIn]
    rw [hcons]
    split
    · next hthere =>
      refine ⟨Or.imp_right Or.inr, ?_⟩
      rintro (h | h | h)
      · exact Or.inl h
      · obtain ⟨m, hm, ham⟩ := Name.isIn_iff.1 hthere
        exact Or.inl (Name.isIn_iff.2 ⟨m, hm, Name.same_trans h ham⟩)
      · exact Or.inr h
    · have happend : n.isIn (names ++ [a]) = true ↔ n.isIn names = true ∨ n.same a = true := by
        simp [Name.isIn]
      rw [happend, or_assoc]

/-- No name is made up. -/
theorem mem_of_mem_foldl_addName {n : Name} {names added : List Name}
    (h : n ∈ added.foldl addName names) : n ∈ names ∨ n ∈ added := by
  induction added generalizing names with
  | nil => exact Or.inl h
  | cons a added ih =>
    rcases ih h with h | h
    · rw [addName_eq] at h
      split at h
      · exact Or.inl h
      · rcases List.mem_append.1 h with h | h
        · exact Or.inl h
        · exact Or.inr (List.mem_cons.2 (Or.inl (List.mem_singleton.1 h)))
    · exact Or.inr (List.mem_cons_of_mem _ h)

theorem joinEnvironment_ok {there e joined : Environment}
    (h : joinEnvironment there e = .ok joined) :
    joined.name = there.name ∧ joined.pipelines = e.pipelines.foldl addName there.pipelines ∧
      e.bindings.foldlM (addVariable e.name) there.bindings = .ok joined.bindings := by
  rw [joinEnvironment] at h
  obtain ⟨bindings, hb, h⟩ := bind_eq_ok_iff.1 h
  obtain rfl := Except.ok.inj h
  exact ⟨rfl, rfl, hb⟩

/-- An environment goes to the end, or it is joined to the one of its name where that stands. -/
theorem placeEnvironment_ok {e : Environment} {es placed : List Environment}
    (h : placeEnvironment e es = .ok placed) :
    (placed = es ++ [e] ∧ ∀ there ∈ es, ¬ there.name.same e.name = true) ∨
      ∃ before there after joined, es = before ++ there :: after ∧
        there.name.same e.name = true ∧ joinEnvironment there e = .ok joined ∧
        placed = before ++ joined :: after := by
  induction es generalizing placed with
  | nil =>
    obtain rfl := Except.ok.inj h
    exact Or.inl ⟨rfl, by simp⟩
  | cons first es ih =>
    rw [placeEnvironment] at h
    split at h
    · next hsame =>
      obtain ⟨joined, hj, h⟩ := bind_eq_ok_iff.1 h
      obtain rfl := Except.ok.inj h
      exact Or.inr ⟨[], first, es, joined, rfl, hsame, hj, rfl⟩
    · next hother =>
      obtain ⟨rest, hp, h⟩ := bind_eq_ok_iff.1 h
      obtain rfl := Except.ok.inj h
      rcases ih hp with ⟨rfl, hnone⟩ | ⟨before, there, after, joined, rfl, hsame, hj, rfl⟩
      · refine Or.inl ⟨rfl, fun there hthere => ?_⟩
        rcases List.mem_cons.1 hthere with rfl | hthere
        · exact hother
        · exact hnone there hthere
      · exact Or.inr ⟨first :: before, there, after, joined, rfl, hsame, hj, rfl⟩

/-- The environments that are there, against all that were added: one for each name, in the order
in which the names are first seen, with the pipelines that one of its name lists. -/
structure Collects (there added : List Environment) : Prop where
  names : there.map Environment.name = (added.map Environment.name).eraseDupsBy Name.same
  listed : ∀ t ∈ there, ∀ n ∈ t.pipelines, ∃ e ∈ added, e.name.same t.name = true ∧ n ∈ e.pipelines
  kept : ∀ e ∈ added, ∃ t ∈ there,
    t.name.same e.name = true ∧ ∀ n ∈ e.pipelines, n.isIn t.pipelines = true

theorem eraseDupsBy_same_append_singleton (names : List Name) (n : Name) :
    (names ++ [n]).eraseDupsBy Name.same =
      if n.isIn names then names.eraseDupsBy Name.same
      else names.eraseDupsBy Name.same ++ [n] := by
  have hany : (names.any fun m => m.key == n.key) = n.isIn names := by
    simp only [Name.isIn, BEq.comm]
    rfl
  rw [← hany]
  exact eraseDupsBy_append_singleton Name.key names n

theorem Collects.isIn_iff {there added : List Environment} (h : Collects there added) (n : Name) :
    n.isIn (added.map Environment.name) = true ↔ ∃ t ∈ there, t.name.same n = true := by
  rw [Name.isIn_iff]
  constructor
  · rintro ⟨m, hm, hnm⟩
    obtain ⟨e, he, rfl⟩ := List.mem_map.1 hm
    obtain ⟨t, ht, hsame, -⟩ := h.kept e he
    exact ⟨t, ht, Name.same_trans hsame (Name.same_symm hnm)⟩
  · rintro ⟨t, ht, hsame⟩
    have hname : t.name ∈ there.map Environment.name := List.mem_map_of_mem ht
    rw [h.names] at hname
    exact ⟨t.name, mem_of_mem_eraseDupsBy hname, Name.same_symm hsame⟩

/-- Where one of several is replaced, each of the others is still there. -/
theorem mem_replaced {α : Type} {before after : List α} {old new a : α}
    (h : a ∈ before ++ old :: after) : a ∈ before ++ new :: after ∨ a = old := by
  simp only [List.mem_append, List.mem_cons] at h ⊢
  tauto

section Collects

variable {e t joined : Environment} {there before after added placed : List Environment}

/-- An environment of a new name goes behind the ones that are there. -/
theorem Collects.append (h : Collects there added)
    (hnone : ∀ t ∈ there, ¬ t.name.same e.name = true) :
    Collects (there ++ [e]) (added ++ [e]) := by
  have hnew : ¬ e.name.isIn (added.map Environment.name) = true := by
    rw [h.isIn_iff]
    rintro ⟨t, ht, hte⟩
    exact hnone t ht hte
  refine ⟨?_, fun t ht n hn => ?_, fun a ha => ?_⟩
  · rw [List.map_append, List.map_append, List.map_singleton,
      eraseDupsBy_same_append_singleton, if_neg hnew, h.names]
  · rcases List.mem_append.1 ht with ht | ht
    · obtain ⟨a, ha, hsame, hmem⟩ := h.listed t ht n hn
      exact ⟨a, List.mem_append_left _ ha, hsame, hmem⟩
    · obtain rfl := List.mem_singleton.1 ht
      exact ⟨t, by simp, Name.same_self _, hn⟩
  · rcases List.mem_append.1 ha with ha | ha
    · obtain ⟨t, ht, hsame, hmem⟩ := h.kept a ha
      exact ⟨t, List.mem_append_left _ ht, hsame, hmem⟩
    · obtain rfl := List.mem_singleton.1 ha
      exact ⟨a, by simp, Name.same_self _, fun n hn => Name.isIn_of_mem hn⟩

/-- An environment is joined to the one of its name. -/
theorem Collects.join (h : Collects (before ++ t :: after) added)
    (hsame : t.name.same e.name = true) (hj : joinEnvironment t e = .ok joined) :
    Collects (before ++ joined :: after) (added ++ [e]) := by
  obtain ⟨hname, hpipelines, -⟩ := joinEnvironment_ok hj
  have hold : e.name.isIn (added.map Environment.name) = true :=
    (h.isIn_iff e.name).2 ⟨t, by simp, hsame⟩
  refine ⟨?_, fun u hu n hn => ?_, fun a ha => ?_⟩
  · rw [List.map_append, List.map_append, List.map_singleton,
      eraseDupsBy_same_append_singleton, if_pos hold, ← h.names]
    simp [hname]
  · -- what was there before stands for its own, and the joined one for two
    rcases mem_replaced hu with hu | rfl
    · obtain ⟨a, ha, hau, hmem⟩ := h.listed u hu n hn
      exact ⟨a, List.mem_append_left _ ha, hau, hmem⟩
    · rw [hname]
      rw [hpipelines] at hn
      rcases mem_of_mem_foldl_addName hn with hn | hn
      · obtain ⟨a, ha, hat, hmem⟩ := h.listed t (by simp) n hn
        exact ⟨a, List.mem_append_left _ ha, hat, hmem⟩
      · exact ⟨e, by simp, Name.same_symm hsame, hn⟩
  · rcases List.mem_append.1 ha with ha | ha
    · obtain ⟨u, hu, hua, hmem⟩ := h.kept a ha
      rcases mem_replaced hu with hu | rfl
      · exact ⟨u, hu, hua, hmem⟩
      · refine ⟨joined, by simp, hname ▸ hua, fun n hn => ?_⟩
        rw [hpipelines, isIn_foldl_addName]
        exact Or.inl (hmem n hn)
    · obtain rfl := List.mem_singleton.1 ha
      refine ⟨joined, by simp, hname ▸ hsame, fun n hn => ?_⟩
      rw [hpipelines, isIn_foldl_addName]
      exact Or.inr (Name.isIn_of_mem hn)

theorem collects_append (h : Collects there added) (hok : placeEnvironment e there = .ok placed) :
    Collects placed (added ++ [e]) := by
  rcases placeEnvironment_ok hok with ⟨rfl, hnone⟩ | ⟨before, t, after, joined, rfl, hsame, hj, rfl⟩
  · exact h.append hnone
  · exact h.join hsame hj

end Collects

/-! ## Sources -/

/-- What a merge owes to all the groups and environments that went into it. -/
structure Holds (m : Merge) (gs : List Group) (es : List Environment) : Prop where
  groups : m.groups = Group.joined gs
  defines : Defines m.definedIn (gs.flatMap Group.pipelines)
  assigns : Assigns m.environmentOf (listings es)
  collects : Collects m.environments es

theorem holds_empty : Holds {} [] [] where
  groups := rfl
  defines := ⟨rfl, .nil⟩
  assigns := by simp [Assigns, listings]
  collects := ⟨rfl, by simp, by simp⟩

variable {m m' : Merge} {gs : List Group} {es : List Environment}

theorem addGroup_eq_ok {source : String} {g : Group} (hok : m.addGroup source g = .ok m') :
    ∃ definedIn, g.pipelines.foldlM (define source) m.definedIn = .ok definedIn ∧
      m' = { m with definedIn, groups := g.addTo m.groups } := by
  rw [addGroup] at hok
  obtain ⟨definedIn, hd, hok⟩ := bind_eq_ok_iff.1 hok
  exact ⟨definedIn, hd, (Except.ok.inj hok).symm⟩

theorem addEnvironment_eq_ok {e : Environment} (hok : m.addEnvironment e = .ok m') :
    ∃ environmentOf environments,
      e.pipelines.foldlM (assign e.name) m.environmentOf = .ok environmentOf ∧
      placeEnvironment e m.environments = .ok environments ∧
      m' = { m with environmentOf, environments } := by
  rw [addEnvironment] at hok
  obtain ⟨environmentOf, ha, hok⟩ := bind_eq_ok_iff.1 hok
  obtain ⟨environments, hp, hok⟩ := bind_eq_ok_iff.1 hok
  exact ⟨environmentOf, environments, ha, hp, (Except.ok.inj hok).symm⟩

theorem addGroup_holds {source : String} {g : Group} (h : m.Holds gs es)
    (hok : m.addGroup source g = .ok m') : m'.Holds (gs ++ [g]) es := by
  obtain ⟨definedIn, hd, rfl⟩ := addGroup_eq_ok hok
  exact {
    groups := by rw [Group.joined_append_singleton, ← h.groups]
    defines := by
      rw [List.flatMap_append, List.flatMap_singleton]
      exact defines_append h.defines hd
    assigns := h.assigns
    collects := h.collects }

theorem addEnvironment_holds {e : Environment} (h : m.Holds gs es)
    (hok : m.addEnvironment e = .ok m') : m'.Holds gs (es ++ [e]) := by
  obtain ⟨environmentOf, placed, ha, hp, rfl⟩ := addEnvironment_eq_ok hok
  exact {
    groups := h.groups
    defines := h.defines
    assigns := by
      rw [listings, List.flatMap_append, List.flatMap_singleton]
      exact assigns_append h.assigns ha
    collects := collects_append h.collects hp }

theorem checkReferences_eq_ok_iff :
    m.checkReferences = .ok () ↔
      ∀ e ∈ m.environments, ∀ n ∈ e.pipelines, find? m.definedIn n ≠ none := by
  rw [checkReferences, forM_eq_ok_iff]
  refine forall₂_congr fun e _ => ?_
  split
  · next n hn =>
    have hbad := List.find?_some hn
    simp only [reduceCtorEq, false_iff, not_forall]
    exact ⟨n, List.mem_of_find?_eq_some hn, by simpa using hbad⟩
  · next hn =>
    simpa [List.find?_eq_none, Option.ne_none_iff_isSome] using hn

end Merge

/-- The groups of all sources: those of the local configuration, then those of the partials in the
order of their fingerprints. -/
def declaredGroups (localConfig : LocalConfiguration) (partials : KeyMap Fingerprint Partial) :
    List Group :=
  localConfig.groups ++ partials.values.flatMap Partial.groups

/-- The environments of all sources, in the same order. -/
def declaredEnvironments (localConfig : LocalConfiguration)
    (partials : KeyMap Fingerprint Partial) : List Environment :=
  localConfig.environments ++ partials.values.flatMap Partial.environments

end PipelineSync
