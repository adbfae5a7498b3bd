import Mathlib.Data.List.Flatten
import PipelineSync.Proofs.Merge.Environments

/-!
# What a merge refuses

A merge fails at a declaration because of what it has noted of those before it, or in the end
because of a reference. `Conflict.IsIn` is about the sources alone: it says what stands in them if
a conflict is there. A merge fails only with a conflict that is (`merge_refuses_only_conflicts`),
and the sources that it accepts are the `Compatible` ones (`merge_ok_iff`).
-/

namespace PipelineSync

/-! ## Conflicts of sources -/

/-- The pipelines that all sources define, each with its source. -/
def declaredDefinitions (localConfig : LocalConfiguration)
    (partials : KeyMap Fingerprint Partial) : List (Name × String) :=
  (declarations localConfig partials).flatMap Declaration.definitions

/-- The conflict is there, in these definitions and environments. -/
def Conflict.IsIn (definitions : List (Name × String)) (es : List Environment) : Conflict → Prop
  | .definedTwice p first second =>
    ∃ q, [(q, first), (p, second)].Sublist definitions ∧ q.same p = true
  | .inTwoEnvironments p first second =>
    ∃ a ∈ es, ∃ b ∈ es, a.name = first ∧ b.name = second ∧ p.isIn a.pipelines = true ∧
      p ∈ b.pipelines ∧ ¬ first.same second = true
  | .differentValues e key first second =>
    ∃ a ∈ es, ∃ b ∈ es, a.name.same e = true ∧ b.name.same e = true ∧
      (key, first) ∈ a.bindings ∧ (key, second) ∈ b.bindings ∧ first ≠ second
  | .unknownPipeline e p =>
    (∃ a ∈ es, a.name.same e = true ∧ p ∈ a.pipelines) ∧ ∀ d ∈ definitions, ¬ d.1.same p = true

/-- The declaration `b` of an environment gives a variable another value than the earlier one `a`
gives it first, or than `b` itself gives it elsewhere. -/
structure Environment.Contradicts (b a : Environment) (key first second : String) : Prop where
  name : a.name.same b.name = true
  given : (key, second) ∈ b.bindings
  earlier : a.bindings.lookup key = some first ∨ (key, first) ∈ b.bindings
  differ : first ≠ second

/-- The conflict is there, and a merge in this order meets it: of the first declaration of an
environment it reads one value of each variable only. -/
def Conflict.IsMetIn (definitions : List (Name × String)) (es : List Environment) :
    Conflict → Prop
  | .differentValues e key first second =>
    ∃ a b, [a, b].Sublist es ∧ b.name = e ∧ b.Contradicts a key first second
  | c => c.IsIn definitions es

/-- A merge can accept these definitions and environments, in this order. -/
structure Compatible (definitions : List (Name × String)) (es : List Environment) : Prop where
  distinct : definitions.Pairwise fun d e => ¬ d.1.same e.1 = true
  separate : ∀ a ∈ es, ∀ b ∈ es, ∀ n : Name, n.isIn a.pipelines = true →
    n.isIn b.pipelines = true → a.name.same b.name = true
  agreeing : es.Pairwise fun a b => ∀ key first second, ¬ b.Contradicts a key first second
  defined : ∀ e ∈ es, ∀ n ∈ e.pipelines, ∃ d ∈ definitions, d.1.same n = true

section

variable {definitions : List (Name × String)} {es : List Environment} {c : Conflict}

theorem Conflict.IsMetIn.isIn (h : c.IsMetIn definitions es) : c.IsIn definitions es := by
  cases c with
  | definedTwice p first second => exact h
  | inTwoEnvironments p first second => exact h
  | unknownPipeline e p => exact h
  | differentValues e key first second =>
    obtain ⟨a, b, hab, rfl, hcontradicts⟩ := h
    have ha : a ∈ es := hab.subset (by simp)
    have hb : b ∈ es := hab.subset (by simp)
    rcases hcontradicts.earlier with hfirst | hfirst
    · exact ⟨a, ha, b, hb, hcontradicts.name, Name.same_self _, mem_of_lookup hfirst,
        hcontradicts.given, hcontradicts.differ⟩
    · exact ⟨b, hb, b, hb, Name.same_self _, Name.same_self _, hfirst, hcontradicts.given,
        hcontradicts.differ⟩

theorem Compatible.not_isMetIn (h : Compatible definitions es) : ¬ c.IsMetIn definitions es := by
  intro hc
  cases c with
  | definedTwice p first second =>
    obtain ⟨q, hsub, hsame⟩ := hc
    exact List.pairwise_iff_forall_sublist.1 h.distinct hsub hsame
  | inTwoEnvironments p first second =>
    obtain ⟨a, ha, b, hb, rfl, rfl, hpa, hpb, hother⟩ := hc
    exact hother (h.separate a ha b hb p hpa (Name.isIn_of_mem hpb))
  | differentValues e key first second =>
    obtain ⟨a, b, hsub, -, hcontradicts⟩ := hc
    exact List.pairwise_iff_forall_sublist.1 h.agreeing hsub key first second hcontradicts
  | unknownPipeline e p =>
    obtain ⟨⟨a, ha, -, hp⟩, hnone⟩ := hc
    obtain ⟨d, hd, hdp⟩ := h.defined a ha p hp
    exact hnone d hd hdp

end

/-! ## Where an addition fails -/

namespace Merge

theorem mem_of_find? {α : Type} {entries : List (Name × α)} {n : Name} {v : α}
    (h : find? entries n = some v) : ∃ k, (k, v) ∈ entries ∧ k.same n = true := by
  obtain ⟨e, he, rfl⟩ := Option.map_eq_some_iff.1 h
  have hsame := List.find?_some he
  exact ⟨e.1, List.mem_of_find?_eq_some he, hsame⟩

theorem define_eq_error {source : String} {definedIn : List (Name × String)} {p : Pipeline}
    {c : Conflict} (h : define source definedIn p = .error c) :
    ∃ q first, (q, first) ∈ definedIn ∧ q.same p.name = true ∧
      c = .definedTwice p.name first source := by
  rw [define] at h
  split at h
  · next first hfirst =>
    obtain ⟨q, hq, hsame⟩ := mem_of_find? hfirst
    exact ⟨q, first, hq, hsame, (Except.error.inj h).symm⟩
  · cases h

theorem assign_eq_error {environment n : Name} {entries : List (Name × Name)} {c : Conflict}
    (h : assign environment entries n = .error c) :
    ∃ k other, (k, other) ∈ entries ∧ k.same n = true ∧ ¬ other.same environment = true ∧
      c = .inTwoEnvironments n other environment := by
  rw [assign] at h
  split at h
  · next other hother =>
    split at h
    · cases h
    · next hdiffer =>
      obtain ⟨k, hk, hsame⟩ := mem_of_find? hother
      exact ⟨k, other, hk, hsame, hdiffer, (Except.error.inj h).symm⟩
  · cases h

theorem addVariable_eq_error {environment : Name} {there : List (String × String)}
    {b : String × String} {c : Conflict} (h : addVariable environment there b = .error c) :
    ∃ current, there.lookup b.1 = some current ∧ current ≠ b.2 ∧
      c = .differentValues environment b.1 current b.2 := by
  rw [addVariable] at h
  split at h
  · next current hcurrent =>
    split at h
    · cases h
    · next hdiffer => exact ⟨current, hcurrent, hdiffer, (Except.error.inj h).symm⟩
  · cases h

theorem joinEnvironment_eq_error {there e : Environment} {c : Conflict}
    (h : joinEnvironment there e = .error c) :
    e.bindings.foldlM (addVariable e.name) there.bindings = .error c := by
  rw [joinEnvironment] at h
  rcases bind_eq_error h with h | ⟨bindings, -, h⟩
  · exact h
  · cases h

theorem placeEnvironment_eq_error {e : Environment} {es : List Environment} {c : Conflict}
    (h : placeEnvironment e es = .error c) :
    ∃ there ∈ es, there.name.same e.name = true ∧ joinEnvironment there e = .error c := by
  induction es with
  | nil => cases h
  | cons first es ih =>
    rw [placeEnvironment] at h
    split at h
    · next hsame =>
      rcases bind_eq_error h with h | ⟨joined, -, h⟩
      · exact ⟨first, List.mem_cons_self, hsame, h⟩
      · cases h
    · rcases bind_eq_error h with h | ⟨rest, -, h⟩
      · obtain ⟨there, hthere, hsame, hfail⟩ := ih h
        exact ⟨there, List.mem_cons_of_mem _ hthere, hsame, hfail⟩
      · cases h

theorem checkReferences_eq_error {m : Merge} {c : Conflict} (h : m.checkReferences = .error c) :
    ∃ t ∈ m.environments, ∃ n ∈ t.pipelines, find? m.definedIn n = none ∧
      c = .unknownPipeline t.name n := by
  rw [checkReferences] at h
  obtain ⟨t, ht, hfail⟩ := exists_of_forM_eq_error h
  split at hfail
  · next n hn =>
    have hnone := List.find?_some hn
    exact ⟨t, ht, n, List.mem_of_find?_eq_some hn, Option.isNone_iff_eq_none.1 hnone,
      (Except.error.inj hfail).symm⟩
  · cases hfail

end Merge

/-! ## Failures traced to declarations -/

theorem pair_sublist_append {α : Type} {a b : α} {l after : List α} (h : a ∈ l) :
    [a, b].Sublist (l ++ b :: after) := by
  have ha : [a].Sublist l := List.singleton_sublist.2 h
  have hb : [b].Sublist (b :: after) := List.singleton_sublist.2 List.mem_cons_self
  exact ha.append hb

/-- A value that is read comes from the first declaration, or from a later one that gives it
first. -/
theorem Binds.exists_of_lookup {first before joined : List (String × String)}
    {later : List Environment} {k v : String}
    (h : Binds first (later.flatMap Environment.bindings ++ before) joined)
    (hv : joined.lookup k = some v) :
    first.lookup k = some v ∨ (∃ e ∈ later, e.bindings.lookup k = some v) ∨ (k, v) ∈ before := by
  have hread {w : String} (hw : joined.lookup k = some w) : v = w :=
    Option.some.inj (hv.symm.trans hw)
  cases hfirst : first.lookup k with
  | some w =>
    obtain rfl := hread (h.lookup_of_first hfirst)
    exact Or.inl rfl
  | none =>
    refine Or.inr ?_
    have hmem := h.subset (mem_of_lookup hv)
    rw [List.mem_append, List.mem_append] at hmem
    rcases hmem with hmem | hmem | hmem
    · exact absurd (List.mem_map_of_mem hmem) (lookup_eq_none_iff.1 hfirst)
    · obtain ⟨e, he, hmem⟩ := List.mem_flatMap.1 hmem
      -- the declaration may give several values, but the first of them agrees with what is read
      cases hlookup : e.bindings.lookup k with
      | none => exact absurd (List.mem_map_of_mem hmem) (lookup_eq_none_iff.1 hlookup)
      | some w =>
        have hw : (k, w) ∈ later.flatMap Environment.bindings ++ before :=
          List.mem_append_left _ (List.mem_flatMap.2 ⟨e, he, mem_of_lookup hlookup⟩)
        obtain rfl := hread (h.agrees _ hw)
        exact Or.inl ⟨e, he, hlookup⟩
    · exact Or.inr hmem

theorem JoinedFrom.exists_contradicts {first t e : Environment} {later : List Environment}
    {c : Conflict} (h : JoinedFrom first later t)
    (hname : ∀ a ∈ first :: later, a.name.same e.name = true)
    (hfail : Merge.joinEnvironment t e = .error c) :
    ∃ a ∈ first :: later, ∃ key v w, e.Contradicts a key v w ∧
      c = .differentValues e.name key v w := by
  obtain ⟨before, b, after, there, hsplit, hok, hb⟩ :=
    exists_of_foldlM_eq_error (Merge.joinEnvironment_eq_error hfail)
  obtain ⟨v, hv, hdiffer, rfl⟩ := Merge.addVariable_eq_error hb
  have hgiven : (b.1, b.2) ∈ e.bindings := by simp [hsplit]
  suffices hearlier : ∃ a ∈ first :: later,
      a.bindings.lookup b.1 = some v ∨ (b.1, v) ∈ e.bindings by
    obtain ⟨a, ha, hearlier⟩ := hearlier
    exact ⟨a, ha, b.1, v, b.2, ⟨hname a ha, hgiven, hearlier, hdiffer⟩, rfl⟩
  rcases (h.binds.addAll hok).exists_of_lookup hv with hfirst | ⟨a, ha, hlookup⟩ | hbefore
  · exact ⟨first, List.mem_cons_self, Or.inl hfirst⟩
  · exact ⟨a, List.mem_cons_of_mem _ ha, Or.inl hlookup⟩
  · refine ⟨first, List.mem_cons_self, Or.inr ?_⟩
    rw [hsplit]
    exact List.mem_append_left _ hbefore

section

variable {definitions : List (Name × String)} {es : List Environment} {ds : List Declaration}
  {m : Merge} {c : Conflict}

theorem addGroup_isMetIn {source : String} {g : Group} (hnotes : m.Notes ds)
    (hfail : m.addGroup source g = .error c)
    (hsub : (ds.flatMap Declaration.definitions ++
      (Declaration.group source g).definitions).Sublist definitions) :
    c.IsMetIn definitions es := by
  rw [Merge.addGroup] at hfail
  rcases bind_eq_error hfail with hfold | ⟨_, -, hfold⟩
  · obtain ⟨before, p, after, definedIn, hsplit, hok, hp⟩ := exists_of_foldlM_eq_error hfold
    obtain ⟨q, first, hq, hsame, rfl⟩ := Merge.define_eq_error hp
    refine ⟨q, List.Sublist.trans ?_ hsub, hsame⟩
    rw [Declaration.definitions, hsplit, List.map_append, List.map_cons, ← List.append_assoc]
    refine pair_sublist_append ?_
    rw [Merge.foldlM_define_eq hok, hnotes.definedIn] at hq
    simpa [or_comm] using hq
  · cases hfold

theorem addEnvironment_isMetIn {e : Environment}
    (hok : ds.foldlM Declaration.add {} = .ok m) (hfail : m.addEnvironment e = .error c)
    (hsub : (ds.flatMap Declaration.environments ++ [e]).Sublist es) :
    c.IsMetIn definitions es := by
  have hmem {a : Environment} (ha : a ∈ ds.flatMap Declaration.environments) : a ∈ es :=
    hsub.subset (List.mem_append_left _ ha)
  have he : e ∈ es := hsub.subset (by simp)
  rw [Merge.addEnvironment] at hfail
  rcases bind_eq_error hfail with hassign | ⟨environmentOf, -, hplace⟩
  · obtain ⟨before, n, after, entries, hsplit, hentries, hn⟩ := exists_of_foldlM_eq_error hassign
    obtain ⟨k, other, hk, hsame, hdiffer, rfl⟩ := Merge.assign_eq_error hn
    have hlisted : n ∈ e.pipelines := by simp [hsplit]
    rw [Merge.foldlM_assign_eq hentries, (Merge.notes_of_foldlM hok).environmentOf] at hk
    rcases List.mem_append.1 hk with hk | hk
    · -- the declaration itself gives one name only
      rw [List.mem_reverse, List.mem_map] at hk
      obtain ⟨_, -, heq⟩ := hk
      obtain rfl : e.name = other := congrArg Prod.snd heq
      exact absurd (Name.same_self _) hdiffer
    · rw [List.mem_reverse, Merge.listings, List.mem_flatMap] at hk
      obtain ⟨a, ha, hk⟩ := hk
      obtain ⟨k', hk', heq⟩ := List.mem_map.1 hk
      obtain ⟨rfl, rfl⟩ := Prod.mk.inj heq
      exact ⟨a, hmem ha, e, he, rfl, rfl, Name.isIn_iff.2 ⟨k', hk', Name.same_symm hsame⟩,
        hlisted, hdiffer⟩
  · rcases bind_eq_error hplace with hplace | ⟨_, -, hplace⟩
    · obtain ⟨t, ht, hsame, hjoin⟩ := Merge.placeEnvironment_eq_error hplace
      obtain ⟨first, later, hdeclared, hjoined⟩ := Merge.joins_of_foldlM hok t ht
      have hdeclares (a : Environment) (ha : a ∈ first :: later) :
          a ∈ ds.flatMap Declaration.environments ∧ a.name.same t.name = true := by
        rw [← hdeclared] at ha
        exact mem_declarationsOf_iff.1 ha
      obtain ⟨a, ha, key, v, w, hcontradicts, rfl⟩ := hjoined.exists_contradicts
        (fun a ha => Name.same_trans (hdeclares a ha).2 hsame) hjoin
      refine ⟨a, e, List.Sublist.trans ?_ hsub, rfl, hcontradicts⟩
      exact pair_sublist_append (hdeclares a ha).1
    · cases hplace

theorem Declaration.isMetIn_of_add {d : Declaration}
    (hok : ds.foldlM Declaration.add {} = .ok m) (hfail : d.add m = .error c)
    (hdefinitions : ((ds ++ [d]).flatMap Declaration.definitions).Sublist definitions)
    (hes : ((ds ++ [d]).flatMap Declaration.environments).Sublist es) :
    c.IsMetIn definitions es := by
  rw [List.flatMap_append, List.flatMap_singleton] at hdefinitions hes
  cases d with
  | group source g => exact addGroup_isMetIn (Merge.notes_of_foldlM hok) hfail hdefinitions
  | environment e => exact addEnvironment_isMetIn hok hfail hes

theorem checkReferences_isMetIn (hok : ds.foldlM Declaration.add {} = .ok m)
    (hfail : m.checkReferences = .error c) :
    c.IsMetIn (ds.flatMap Declaration.definitions) (ds.flatMap Declaration.environments) := by
  obtain ⟨t, ht, n, hn, hnone, rfl⟩ := Merge.checkReferences_eq_error hfail
  obtain ⟨e, he, hsame, hlisted⟩ := (Merge.holds_of_foldlM hok).collects.listed t ht n hn
  refine ⟨⟨e, he, hsame, hlisted⟩, fun d hd => ?_⟩
  refine Merge.find?_eq_none_iff.1 hnone d ?_
  rw [(Merge.notes_of_foldlM hok).definedIn]
  exact List.mem_reverse.2 hd

/-! ## What is accepted -/

theorem definitions_map_fst (ds : List Declaration) :
    (ds.flatMap Declaration.definitions).map Prod.fst =
      ((ds.flatMap Declaration.groups).flatMap Group.pipelines).map Pipeline.name := by
  induction ds with
  | nil => rfl
  | cons d ds ih =>
    rw [List.flatMap_cons, List.flatMap_cons, List.map_append, List.flatMap_append,
      List.map_append, ih]
    cases d with
    | group source g => simp [Declaration.definitions, Declaration.groups]
    | environment e => rfl

/-- What a merge reads of a variable is what each later declaration gives. -/
theorem JoinedFrom.not_contradicts {first t a b : Environment} {later : List Environment}
    (h : JoinedFrom first later t) (hab : [a, b].Sublist (first :: later)) {key v w : String} :
    ¬ b.Contradicts a key v w := by
  intro hcontradicts
  have hlater {e : Environment} (he : e ∈ later) {u : String} (hu : (key, u) ∈ e.bindings) :
      t.bindings.lookup key = some u :=
    h.binds.agrees (key, u) (List.mem_flatMap.2 ⟨e, he, hu⟩)
  have hb : b ∈ later := by
    rcases List.sublist_cons_iff.1 hab with hab | ⟨_, heq, hab⟩
    · exact hab.subset (by simp)
    · rw [← (List.cons.inj heq).2] at hab
      exact hab.subset (by simp)
  have hfirst : t.bindings.lookup key = some v := by
    rcases hcontradicts.earlier with hearlier | hearlier
    · rcases List.mem_cons.1 (hab.subset List.mem_cons_self) with rfl | ha
      · exact h.binds.lookup_of_first hearlier
      · exact hlater ha (mem_of_lookup hearlier)
    · exact hlater hb hearlier
  have hsecond : t.bindings.lookup key = some w := hlater hb hcontradicts.given
  exact hcontradicts.differ (Option.some.inj (hfirst.symm.trans hsecond))

theorem compatible_of_foldlM (hok : ds.foldlM Declaration.add {} = .ok m)
    (hcheck : m.checkReferences = .ok ()) :
    Compatible (ds.flatMap Declaration.definitions) (ds.flatMap Declaration.environments) := by
  have hholds := Merge.holds_of_foldlM hok
  constructor
  · have hnames : (((ds.flatMap Declaration.groups).flatMap Group.pipelines).map
        Pipeline.name).Pairwise fun m n => ¬ m.same n = true :=
      List.pairwise_map.2 hholds.defines.distinct
    rw [← definitions_map_fst] at hnames
    exact List.pairwise_map.1 hnames
  · intro a ha b hb n hna hnb
    exact hholds.assigns.same ha hb hna hnb
  · rw [List.pairwise_iff_forall_sublist]
    intro a b hab key v w hcontradicts
    obtain ⟨t, ht, htb, -⟩ := hholds.collects.kept b (hab.subset (by simp))
    obtain ⟨first, later, hdeclared, hjoined⟩ := Merge.joins_of_foldlM hok t ht
    refine hjoined.not_contradicts ?_ hcontradicts
    have hbt := Name.same_symm htb
    have hboth : declarationsOf [a, b] t.name = [a, b] :=
      List.filter_eq_self.2 (by simp [hbt, Name.same_trans hcontradicts.name hbt])
    rw [← hboth, ← hdeclared]
    exact hab.filter _
  · intro e he n hn
    obtain ⟨t, ht, -, hkept⟩ := hholds.collects.kept e he
    obtain ⟨k, hk, hnk⟩ := Name.isIn_iff.1 (hkept n hn)
    have hfind := Merge.checkReferences_eq_ok_iff.1 hcheck t ht k hk
    obtain ⟨source, hsource⟩ := Option.ne_none_iff_exists'.1 hfind
    obtain ⟨q, hq, hqk⟩ := Merge.mem_of_find? hsource
    rw [(Merge.notes_of_foldlM hok).definedIn, List.mem_reverse] at hq
    exact ⟨(q, source), hq, Name.same_trans hqk (Name.same_symm hnk)⟩

end

variable {localConfig : LocalConfiguration} {partials : KeyMap Fingerprint Partial}

theorem merge_compatible {c : Configuration} (h : merge localConfig partials = .ok c) :
    Compatible (declaredDefinitions localConfig partials)
      (declaredEnvironments localConfig partials) := by
  obtain ⟨m, hok, hcheck, -⟩ := merge_eq_ok_iff.1 h
  rw [← declarations_environments, declaredDefinitions]
  exact compatible_of_foldlM hok hcheck

theorem merge_isMetIn {c : Conflict} (h : merge localConfig partials = .error c) :
    c.IsMetIn (declaredDefinitions localConfig partials)
      (declaredEnvironments localConfig partials) := by
  rw [← declarations_environments, declaredDefinitions]
  rcases merge_eq_error h with ⟨before, d, after, m, hsplit, hok, hfail⟩ | ⟨m, hok, hfail⟩
  · have hsub : (before ++ [d]).Sublist (declarations localConfig partials) := by
      rw [hsplit]
      simp
    exact Declaration.isMetIn_of_add hok hfail (hsub.flatMap _) (hsub.flatMap _)
  · exact checkReferences_isMetIn hok hfail

/-- The sources that a merge accepts. -/
theorem merge_ok_iff :
    (∃ c, merge localConfig partials = .ok c) ↔
      Compatible (declaredDefinitions localConfig partials)
        (declaredEnvironments localConfig partials) := by
  constructor
  · rintro ⟨c, hc⟩
    exact merge_compatible hc
  · intro h
    cases hmerge : merge localConfig partials with
    | ok c => exact ⟨c, rfl⟩
    | error c => exact absurd (merge_isMetIn hmerge) h.not_isMetIn

/-- A merge that fails does so with a conflict, and what the conflict says is true of the sources:
two definitions of one pipeline, in the order of the sources and with what they are called, or two
environments of different names that list the pipeline, or two values of the variable under the name
of the environment, or a reference that no source defines. So sources without any conflict are
accepted. -/
theorem merge_refuses_only_conflicts (localConfig : LocalConfiguration)
    (partials : KeyMap Fingerprint Partial) :
    (∀ c, merge localConfig partials = .error c →
      c.toError = .mergeConflict c.subject c.detail ∧
      c.IsIn (declaredDefinitions localConfig partials)
        (declaredEnvironments localConfig partials)) ∧
    ((∀ c : Conflict, ¬ c.IsIn (declaredDefinitions localConfig partials)
        (declaredEnvironments localConfig partials)) →
      ∃ c, merge localConfig partials = .ok c) := by
  constructor
  · exact fun c hc => ⟨rfl, (merge_isMetIn hc).isIn⟩
  · intro hnone
    cases hmerge : merge localConfig partials with
    | ok c => exact ⟨c, rfl⟩
    | error c => exact absurd (merge_isMetIn hmerge).isIn (hnone c)

/-- A pipeline that the partials define again, in another case. -/
def clashLocal : LocalConfiguration where
  groups := [⟨"apps", [{ name := ⟨"Web"⟩ }]⟩]

theorem merge_refuses_clash :
    ∃ c, merge clashLocal samplePartials = .error c ∧
      c = .definedTwice ⟨"web"⟩ "the local configuration" "config repo https://example.com/b.git" ∧
      c.IsIn (declaredDefinitions clashLocal samplePartials)
        (declaredEnvironments clashLocal samplePartials) := by
  have hmerge : merge clashLocal samplePartials = .error (.definedTwice ⟨"web"⟩
      "the local configuration" "config repo https://example.com/b.git") := by decide +kernel
  exact ⟨_, hmerge, rfl, ((merge_refuses_only_conflicts clashLocal samplePartials).1 _ hmerge).2⟩

/-! ## Fewer repositories -/

theorem declaredDefinitions_eq (localConfig : LocalConfiguration)
    (partials : KeyMap Fingerprint Partial) :
    declaredDefinitions localConfig partials =
      (Declaration.ofSource Merge.localSource localConfig.groups
          localConfig.environments).flatMap Declaration.definitions ++
        partials.values.flatMap fun p =>
          (Declaration.ofSource (Merge.partialSource p) p.groups p.environments).flatMap
            Declaration.definitions := by
  rw [declaredDefinitions, declarations, List.flatMap_append, List.flatMap_assoc]

theorem declaredDefinitions_sublist (localConfig : LocalConfiguration)
    {part all : KeyMap Fingerprint Partial}
    (h : ∀ f p, part.get? f = some p → all.get? f = some p) :
    (declaredDefinitions localConfig part).Sublist (declaredDefinitions localConfig all) := by
  rw [declaredDefinitions_eq, declaredDefinitions_eq]
  exact (List.Sublist.refl _).append ((KeyMap.values_sublist h).flatMap _)

theorem declaredEnvironments_sublist (localConfig : LocalConfiguration)
    {part all : KeyMap Fingerprint Partial}
    (h : ∀ f p, part.get? f = some p → all.get? f = some p) :
    (declaredEnvironments localConfig part).Sublist (declaredEnvironments localConfig all) :=
  (List.Sublist.refl _).append ((KeyMap.values_sublist h).flatMap _)

/-- Partials that merge together still do so without some of them, if each that is left asks for
nothing but what it and the local configuration define. -/
theorem exists_merge_of_part {part all : KeyMap Fingerprint Partial}
    (hall : ∃ c, merge localConfig all = .ok c) (hlocal : ∃ c, merge localConfig ∅ = .ok c)
    (hpart : ∀ f p, part.get? f = some p → all.get? f = some p)
    (halone : ∀ f p, part.get? f = some p →
      ∃ c, merge localConfig ((∅ : KeyMap Fingerprint Partial).insert f p) = .ok c) :
    ∃ c, merge localConfig part = .ok c := by
  rw [merge_ok_iff] at hall ⊢
  have hdefinitions := declaredDefinitions_sublist localConfig hpart
  have henvironments := declaredEnvironments_sublist localConfig hpart
  constructor
  · exact hall.distinct.sublist hdefinitions
  · intro a ha b hb
    exact hall.separate a (henvironments.subset ha) b (henvironments.subset hb)
  · exact hall.agreeing.sublist henvironments
  · intro e he n hn
    -- the reference is met by the source itself or by the local configuration, which both stay
    have hsource : ∃ alone : KeyMap Fingerprint Partial,
        (∀ f p, alone.get? f = some p → part.get? f = some p) ∧
          e ∈ declaredEnvironments localConfig alone ∧
          ∃ c, merge localConfig alone = .ok c := by
      rcases List.mem_append.1 he with he | he
      · exact ⟨∅, nofun, List.mem_append_left _ he, hlocal⟩
      · obtain ⟨p, hp, he⟩ := List.mem_flatMap.1 he
        obtain ⟨f, hf⟩ := KeyMap.mem_values_iff.1 hp
        have hvalues : e ∈ ((∅ : KeyMap Fingerprint Partial).insert f p).values.flatMap
            Partial.environments := List.mem_flatMap.2 ⟨p, List.mem_cons_self, he⟩
        refine ⟨_, fun g q hq => ?_, List.mem_append_right _ hvalues, halone f p hf⟩
        rw [KeyMap.get?_insert] at hq
        split at hq
        · next hg => rw [hg, hf, hq]
        · cases hq
    obtain ⟨alone, hsub, he, hmerge⟩ := hsource
    obtain ⟨d, hd, hdn⟩ := (merge_ok_iff.1 hmerge).defined e he n hn
    exact ⟨d, (declaredDefinitions_sublist localConfig hsub).subset hd, hdn⟩

end PipelineSync
