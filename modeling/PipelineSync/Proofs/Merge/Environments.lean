import PipelineSync.Proofs.Merge.Content

/-!
# What an environment comes to

The first declaration of an environment is taken over as it stands, and of every later one of its
name what is new, provided that it agrees. `JoinedFrom` says what that leaves, and
`Merge.Joins` that it holds of all environments of a merge. So an environment is single-valued just
when its first declaration is: `merge_singleValued_iff`.
-/

namespace PipelineSync

/-! ## Variables -/

section Variables

/-- The bindings that are there after those of a first declaration and of later ones were joined:
the first ones as they are, then one for each name that is new. -/
structure Binds (first later joined : List (String × String)) : Prop where
  extends_first : ∃ added, joined = first ++ added ∧ (added.map Prod.fst).Nodup ∧
    (∀ b ∈ added, first.lookup b.1 = none) ∧ added ⊆ later
  agrees : ∀ b ∈ later, joined.lookup b.1 = some b.2

variable {first later there joined bs : List (String × String)} {environment : Name}

theorem lookup_eq_none_iff {k : String} : bs.lookup k = none ↔ k ∉ bs.map Prod.fst := by
  simp only [List.lookup_eq_none_iff, bne_iff_ne, List.mem_map, not_exists, not_and]
  exact forall₂_congr fun _ _ => ne_comm

theorem Merge.addVariable_eq_ok {b : String × String}
    (h : Merge.addVariable environment there b = .ok joined) :
    there.lookup b.1 = none ∧ joined = there ++ [b] ∨
      there.lookup b.1 = some b.2 ∧ joined = there := by
  rw [Merge.addVariable] at h
  split at h
  · next current hcurrent =>
    split at h
    · next heq => exact Or.inr ⟨heq ▸ hcurrent, (Except.ok.inj h).symm⟩
    · cases h
  · next hnone => exact Or.inl ⟨hnone, (Except.ok.inj h).symm⟩

theorem Binds.add {b : String × String} (h : Binds first later there)
    (hok : Merge.addVariable environment there b = .ok joined) :
    Binds first (later ++ [b]) joined := by
  obtain ⟨⟨added, rfl, hnodup, hnew, hsub⟩, hagrees⟩ := h
  rcases Merge.addVariable_eq_ok hok with ⟨hnone, rfl⟩ | ⟨hsome, rfl⟩
  · -- a new name goes behind the others, so what was read before is read still
    rw [List.lookup_append, Option.or_eq_none_iff] at hnone
    have hfresh : b.1 ∉ added.map Prod.fst := lookup_eq_none_iff.1 hnone.2
    refine ⟨⟨added ++ [b], List.append_assoc .., ?_, ?_, ?_⟩, ?_⟩
    · rw [List.map_append, List.map_singleton, ← List.concat_eq_append]
      exact hnodup.concat hfresh
    · rw [List.forall_mem_append, List.forall_mem_singleton]
      exact ⟨hnew, hnone.1⟩
    · exact List.append_subset.2 ⟨List.subset_append_of_subset_left _ hsub, by simp⟩
    · rw [List.forall_mem_append, List.forall_mem_singleton]
      constructor
      · intro b' hb'
        rw [List.lookup_append, hagrees b' hb', Option.some_or]
      · rw [List.lookup_append, List.lookup_append, hnone.1, hnone.2]
        exact List.lookup_cons_self
  · refine ⟨⟨added, rfl, hnodup, hnew, List.subset_append_of_subset_left _ hsub⟩, ?_⟩
    rw [List.forall_mem_append, List.forall_mem_singleton]
    exact ⟨hagrees, hsome⟩

theorem Binds.addAll (h : Binds first later there)
    (hok : bs.foldlM (Merge.addVariable environment) there = .ok joined) :
    Binds first (later ++ bs) joined := by
  refine foldlM_induction_nil (fun bs joined => Binds first (later ++ bs) joined) ?_
    (by rwa [List.append_nil]) hok
  intro before there b joined h hadd
  rw [← List.append_assoc]
  exact h.add hadd

/-- The value that a variable has first is the one it keeps. -/
theorem Binds.lookup_of_first (h : Binds first later joined) {k v : String}
    (hv : first.lookup k = some v) : joined.lookup k = some v := by
  obtain ⟨added, rfl, -⟩ := h.extends_first
  rw [List.lookup_append, hv, Option.some_or]

theorem Binds.first_subset (h : Binds first later joined) : first ⊆ joined := by
  obtain ⟨added, rfl, -⟩ := h.extends_first
  exact List.subset_append_left ..

theorem Binds.subset (h : Binds first later joined) : joined ⊆ first ++ later := by
  obtain ⟨added, rfl, -, -, hsub⟩ := h.extends_first
  exact List.append_subset.2
    ⟨List.subset_append_left .., List.subset_append_of_subset_right _ hsub⟩

/-- Only the first declaration can bind a variable more than once. -/
theorem Binds.nodup_iff (h : Binds first later joined) :
    (joined.map Prod.fst).Nodup ↔ (first.map Prod.fst).Nodup := by
  obtain ⟨added, rfl, hnodup, hnew, -⟩ := h.extends_first
  rw [List.map_append, List.nodup_append']
  refine ⟨And.left, fun hfirst => ⟨hfirst, hnodup, ?_⟩⟩
  intro k hk hadded
  obtain ⟨b, hb, rfl⟩ := List.mem_map.1 hadded
  exact lookup_eq_none_iff.1 (hnew b hb) hk

end Variables

/-! ## Pipelines -/

section Pipelines

/-- The names have no two that differ only in case. -/
def Distinct (names : List Name) : Prop := names.Pairwise fun m n => ¬ m.same n = true

/-- The names that are there after later ones were added to first ones. -/
def Enlists (first joined : List Name) : Prop :=
  ∃ added, joined = first ++ added ∧ Distinct added ∧ ∀ n ∈ added, ¬ n.isIn first = true

theorem Enlists.addName {first there : List Name} (h : Enlists first there) (n : Name) :
    Enlists first (Merge.addName there n) := by
  rw [Merge.addName_eq]
  split
  · exact h
  · next hnew =>
    obtain ⟨added, rfl, hdistinct, hother⟩ := h
    have hout (m : Name) (hm : m ∈ first ++ added) : ¬ n.same m = true := fun hsame =>
      hnew (Name.isIn_iff.2 ⟨m, hm, hsame⟩)
    refine ⟨added ++ [n], List.append_assoc .., ?_, ?_⟩
    · refine List.pairwise_append.2 ⟨hdistinct, List.pairwise_singleton .., ?_⟩
      intro m hm n' hn'
      obtain rfl := List.mem_singleton.1 hn'
      exact fun hsame => hout m (List.mem_append_right _ hm) (Name.same_symm hsame)
    · rw [List.forall_mem_append, List.forall_mem_singleton]
      refine ⟨hother, fun hfirst => ?_⟩
      obtain ⟨m, hm, hsame⟩ := Name.isIn_iff.1 hfirst
      exact hout m (List.mem_append_left _ hm) hsame

theorem Enlists.addAll {first there : List Name} (h : Enlists first there) (names : List Name) :
    Enlists first (names.foldl Merge.addName there) := by
  induction names generalizing there with
  | nil => exact h
  | cons n names ih => exact ih (h.addName n)

/-- Only the first declaration can list a pipeline more than once. -/
theorem Enlists.distinct_iff {first joined : List Name} (h : Enlists first joined) :
    Distinct joined ↔ Distinct first := by
  obtain ⟨added, rfl, hdistinct, hother⟩ := h
  rw [Distinct, List.pairwise_append]
  refine ⟨And.left, fun hfirst => ⟨hfirst, hdistinct, ?_⟩⟩
  intro m hm n hn hsame
  exact hother n hn (Name.isIn_iff.2 ⟨m, hm, Name.same_symm hsame⟩)

end Pipelines

/-! ## Environments -/

/-- What an environment comes to from its first declaration and the later ones of its name. -/
structure JoinedFrom (first : Environment) (later : List Environment) (t : Environment) : Prop where
  binds : Binds first.bindings (later.flatMap Environment.bindings) t.bindings
  enlists : Enlists first.pipelines t.pipelines

theorem joinedFrom_self (e : Environment) : JoinedFrom e [] e where
  binds := ⟨⟨[], (List.append_nil _).symm, by simp⟩, by simp⟩
  enlists := ⟨[], (List.append_nil _).symm, List.Pairwise.nil, by simp⟩

theorem JoinedFrom.join {first t e joined : Environment} {later : List Environment}
    (h : JoinedFrom first later t) (hok : Merge.joinEnvironment t e = .ok joined) :
    JoinedFrom first (later ++ [e]) joined := by
  obtain ⟨-, hpipelines, hbindings⟩ := Merge.joinEnvironment_ok hok
  constructor
  · rw [List.flatMap_append, List.flatMap_singleton]
    exact h.binds.addAll hbindings
  · rw [hpipelines]
    exact h.enlists.addAll e.pipelines

/-- The declarations of an environment, in the order in which they are merged. -/
def declarationsOf (es : List Environment) (name : Name) : List Environment :=
  es.filter fun e => e.name.same name

theorem mem_declarationsOf_iff {es : List Environment} {name : Name} {e : Environment} :
    e ∈ declarationsOf es name ↔ e ∈ es ∧ e.name.same name = true := List.mem_filter

theorem declarationsOf_append_singleton (es : List Environment) (e : Environment) (name : Name) :
    declarationsOf (es ++ [e]) name =
      if e.name.same name then declarationsOf es name ++ [e] else declarationsOf es name := by
  rw [declarationsOf, List.filter_append]
  by_cases h : e.name.same name = true
  · rw [if_pos h, List.filter_singleton, h]
    rfl
  · rw [if_neg h, List.filter_singleton, Bool.eq_false_iff.2 h]
    exact List.append_nil _

namespace Merge

/-- Every environment that is there comes from its declarations. -/
def Joins (there added : List Environment) : Prop :=
  ∀ t ∈ there, ∃ first later,
    declarationsOf added t.name = first :: later ∧ JoinedFrom first later t

section Joins

variable {e t joined : Environment} {there before after added placed : List Environment}

/-- An environment of another name has the same declarations as before. -/
theorem Joins.of_not_same (h : Joins there added) (ht : t ∈ there)
    (hne : ¬ e.name.same t.name = true) :
    ∃ first later, declarationsOf (added ++ [e]) t.name = first :: later ∧
      JoinedFrom first later t := by
  rw [declarationsOf_append_singleton, if_neg hne]
  exact h t ht

/-- The first declaration of its name is the environment. -/
theorem Joins.append (h : Joins there added) (hc : Collects there added)
    (hnone : ∀ t ∈ there, ¬ t.name.same e.name = true) : Joins (there ++ [e]) (added ++ [e]) := by
  rw [Joins, List.forall_mem_append, List.forall_mem_singleton]
  constructor
  · exact fun t ht => h.of_not_same ht fun hsame => hnone t ht (Name.same_symm hsame)
  · have hnew : declarationsOf added e.name = [] := by
      refine List.filter_eq_nil_iff.2 fun d hd hsame => ?_
      have hin := Name.isIn_iff.2 ⟨d.name, List.mem_map_of_mem hd, Name.same_symm hsame⟩
      obtain ⟨t, ht, hte⟩ := (hc.isIn_iff e.name).1 hin
      exact hnone t ht hte
    refine ⟨e, [], ?_, joinedFrom_self e⟩
    rw [declarationsOf_append_singleton, if_pos (Name.same_self _), hnew, List.nil_append]

/-- A later declaration is joined to the environment of its name, which is the only one. -/
theorem Joins.join (h : Joins (before ++ t :: after) added)
    (hc : Collects (before ++ t :: after) added) (hsame : t.name.same e.name = true)
    (hj : joinEnvironment t e = .ok joined) : Joins (before ++ joined :: after) (added ++ [e]) := by
  have hdistinct := hc.distinct
  have hapart (u : Environment) (hu : u ∈ before ∨ u ∈ after) : ¬ e.name.same u.name = true := by
    intro hue
    have htu := Name.same_trans hsame hue
    rw [List.pairwise_append] at hdistinct
    rcases hu with hu | hu
    · exact hdistinct.2.2 u hu t List.mem_cons_self (Name.same_symm htu)
    · exact List.rel_of_pairwise_cons hdistinct.2.1 hu htu
  intro u hu
  rcases List.mem_append.1 hu with hu | hu
  · exact h.of_not_same (by simp [hu]) (hapart u (Or.inl hu))
  rcases List.mem_cons.1 hu with rfl | hu
  · obtain ⟨hname, -⟩ := joinEnvironment_ok hj
    obtain ⟨first, later, hdeclared, hjoined⟩ := h t (by simp)
    refine ⟨first, later ++ [e], ?_, hjoined.join hj⟩
    rw [hname, declarationsOf_append_singleton, if_pos (Name.same_symm hsame), hdeclared,
      List.cons_append]
  · exact h.of_not_same (by simp [hu]) (hapart u (Or.inr hu))

theorem joins_append (hc : Collects there added) (h : Joins there added)
    (hok : placeEnvironment e there = .ok placed) : Joins placed (added ++ [e]) := by
  rcases placeEnvironment_ok hok with ⟨rfl, hnone⟩ | ⟨before, t, after, joined, rfl, hsame, hj, rfl⟩
  · exact h.append hc hnone
  · exact h.join hc hsame hj

end Joins

theorem joins_of_foldlM {ds : List Declaration} {m : Merge}
    (h : ds.foldlM Declaration.add {} = .ok m) :
    Joins m.environments (ds.flatMap Declaration.environments) := by
  -- that a name is there once is what the step needs of the rest of the merge
  let P (ds : List Declaration) (m : Merge) : Prop :=
    m.Holds (ds.flatMap Declaration.groups) (ds.flatMap Declaration.environments) ∧
      Joins m.environments (ds.flatMap Declaration.environments)
  have hstep : ∀ before d m m', P before m → d.add m = .ok m' → P (before ++ [d]) m' := by
    rintro before d m m' ⟨hholds, hjoins⟩ hok
    refine ⟨hholds.add hok, ?_⟩
    rw [List.flatMap_append, List.flatMap_singleton]
    cases d with
    | group source g =>
      obtain ⟨definedIn, -, rfl⟩ := addGroup_eq_ok hok
      rw [Declaration.environments, List.append_nil]
      exact hjoins
    | environment e =>
      obtain ⟨environmentOf, placed, -, hp, rfl⟩ := addEnvironment_eq_ok hok
      exact joins_append hholds.collects hjoins hp
  have hstart : P [] {} := ⟨holds_empty, by simp [Joins]⟩
  exact (foldlM_induction_nil P hstep hstart h).2

end Merge

/-! ## Single values -/

/-- Every variable is bound once, to the value that all declarations give it, and no pipeline is
listed twice. -/
structure Environment.SingleValued (t : Environment) (ds : List Environment) : Prop where
  once : (t.bindings.map Prod.fst).Nodup
  given : ∀ d ∈ ds, ∀ b ∈ d.bindings, b ∈ t.bindings
  listed : Distinct t.pipelines

theorem JoinedFrom.singleValued_iff {first t : Environment} {later : List Environment}
    (h : JoinedFrom first later t) :
    t.SingleValued (first :: later) ↔ first.SingleValued [first] := by
  constructor
  · intro ht
    exact ⟨h.binds.nodup_iff.1 ht.once, by simp, h.enlists.distinct_iff.1 ht.listed⟩
  · intro hfirst
    refine ⟨h.binds.nodup_iff.2 hfirst.once, ?_, h.enlists.distinct_iff.2 hfirst.listed⟩
    rw [List.forall_mem_cons]
    refine ⟨fun b hb => h.binds.first_subset hb, fun d hd b hb => ?_⟩
    exact mem_of_lookup (h.binds.agrees b (List.mem_flatMap.2 ⟨d, hd, hb⟩))

theorem merge_joins {localConfig : LocalConfiguration} {partials : KeyMap Fingerprint Partial}
    {c : Configuration} (h : merge localConfig partials = .ok c) :
    Merge.Joins c.environments (declaredEnvironments localConfig partials) := by
  obtain ⟨m, hfold, -, rfl⟩ := merge_eq_ok_iff.1 h
  have hjoins := Merge.joins_of_foldlM hfold
  rwa [declarations_environments] at hjoins

/-- An environment of an accepted merge binds every variable once, to the value that all its
declarations give it, and lists no pipeline twice, just when that holds of its first declaration by
itself, the sources being taken in their order. Whatever the first one is like, all that is bound is
declared, the value that it gives to a variable first is kept, and every later declaration agrees
with the value that is read. -/
theorem merge_singleValued_iff {localConfig : LocalConfiguration}
    {partials : KeyMap Fingerprint Partial} {c : Configuration}
    (h : merge localConfig partials = .ok c) {t : Environment} (ht : t ∈ c.environments) :
    ∃ first later,
      declarationsOf (declaredEnvironments localConfig partials) t.name = first :: later ∧
      (t.SingleValued (first :: later) ↔ first.SingleValued [first]) ∧
      (∀ b ∈ t.bindings, ∃ d ∈ first :: later, b ∈ d.bindings) ∧
      (∀ k v, first.bindings.lookup k = some v → t.bindings.lookup k = some v) ∧
      ∀ d ∈ later, ∀ b ∈ d.bindings, t.bindings.lookup b.1 = some b.2 := by
  obtain ⟨first, later, hdeclared, hjoined⟩ := merge_joins h t ht
  refine ⟨first, later, hdeclared, hjoined.singleValued_iff, ?_, ?_, ?_⟩
  · intro b hb
    rcases List.mem_append.1 (hjoined.binds.subset hb) with hb | hb
    · exact ⟨first, List.mem_cons_self, hb⟩
    · obtain ⟨d, hd, hb⟩ := List.mem_flatMap.1 hb
      exact ⟨d, List.mem_cons_of_mem _ hd, hb⟩
  · exact fun k v hv => hjoined.binds.lookup_of_first hv
  · exact fun d hd b hb => hjoined.binds.agrees b (List.mem_flatMap.2 ⟨d, hd, hb⟩)

/-- An environment with a variable. -/
def tierLocal : LocalConfiguration where
  environments := [{ name := ⟨"UAT"⟩, bindings := [("TIER", "test")] }]

/-- The same environment, with the same value and another variable. -/
def tierPartials : KeyMap Fingerprint Partial := .ofList [
  (⟨"1a"⟩, {
    origin := ⟨⟨"1a"⟩, "https://example.com/a.git", "r1"⟩
    environments := [{ name := ⟨"uat"⟩, bindings := [("ZONE", "eu"), ("TIER", "test")] }] })]

theorem merge_singleValued_tier :
    ∃ c, merge tierLocal tierPartials = .ok c ∧ ∀ t ∈ c.environments,
      t.bindings = [("TIER", "test"), ("ZONE", "eu")] ∧
      t.SingleValued (declarationsOf (declaredEnvironments tierLocal tierPartials) t.name) := by
  let uat : Environment := { name := ⟨"UAT"⟩, bindings := [("TIER", "test"), ("ZONE", "eu")] }
  have hmerge : merge tierLocal tierPartials =
      .ok { environments := [uat], partials := tierPartials } := by decide +kernel
  refine ⟨_, hmerge, ?_⟩
  rw [List.forall_mem_singleton]
  obtain ⟨first, later, hdeclared, hiff, -⟩ := merge_singleValued_iff hmerge List.mem_cons_self
  obtain ⟨rfl, -⟩ : tierLocal.environments.head (by decide) = first ∧
      later = tierPartials.values.flatMap Partial.environments := by
    have hlist : declarationsOf (declaredEnvironments tierLocal tierPartials) uat.name =
        tierLocal.environments ++ tierPartials.values.flatMap Partial.environments := by
      decide +kernel
    rw [hlist] at hdeclared
    exact ⟨(List.cons.inj hdeclared).1, (List.cons.inj hdeclared).2.symm⟩
  refine ⟨rfl, ?_⟩
  rw [hdeclared, hiff]
  exact ⟨by decide, by simp, by simp [tierLocal, Distinct]⟩

/-- An environment whose only declaration gives two values to a variable. -/
def tornEnvironment : Environment where
  name := ⟨"prod"⟩
  bindings := [("TIER", "live"), ("TIER", "test")]

/-- It is accepted as it stands. Behind an empty declaration of its name it is refused. -/
theorem variable_may_have_two_values :
    (∃ c, merge { environments := [tornEnvironment] } ∅ = .ok c ∧
      tornEnvironment ∈ c.environments ∧ ¬ tornEnvironment.SingleValued [tornEnvironment]) ∧
    merge { environments := [{ name := ⟨"prod"⟩ }, tornEnvironment] } ∅ =
      .error (.differentValues ⟨"prod"⟩ "TIER" "live" "test") := by
  have hmerge : merge { environments := [tornEnvironment] } ∅ =
      .ok { environments := [tornEnvironment] } := by decide +kernel
  refine ⟨⟨_, hmerge, List.mem_cons_self, fun h => ?_⟩, by decide +kernel⟩
  have honce := h.once
  simp [tornEnvironment] at honce

end PipelineSync
