import Mathlib.Data.List.Infix
import Mathlib.Data.List.Nodup
import Mathlib.Data.List.Pairwise
import PipelineSync.Material.Basic

/-!
# What a fingerprint identifies

A fingerprint is the digest of a text in which each attribute of a material stands behind its
marker. The text tells the attributes as long as no value looks like a further attribute:
`Fingerprint.encode_injective`. So, short of a collision of digests, two such materials have one
fingerprint just when they have one identity: `Material.fingerprint_eq_iff`. A value that holds a
marker can pass for two, and then different materials share a fingerprint.
-/

namespace PipelineSync

open List

namespace Fingerprint

/-! ## Markers -/

/-- What stands in front of the value of an attribute. -/
def marker (key : String) : List Char :=
  separator.toList ++ key.toList ++ ['=']

/-- A key that cannot be taken for a part of a marker. -/
def IsKey (key : String) : Prop := '<' ∉ key.toList ∧ '=' ∉ key.toList

instance (key : String) : Decidable (IsKey key) :=
  inferInstanceAs (Decidable (_ ∧ _))

section Markers

variable {key other : String} {rest rest' : List Char}

theorem marker_eq_cons (key : String) :
    marker key = '<' :: '|' :: '>' :: (key.toList ++ ['=']) := rfl

theorem not_mem_tail_marker (h : IsKey key) : '<' ∉ (marker key).tail := by
  simpa [marker_eq_cons] using h.1

theorem append_cons_inj {c : Char} {u v x y : List Char} (hu : c ∉ u) (hv : c ∉ v)
    (h : u ++ c :: x = v ++ c :: y) : u = v ∧ x = y := by
  induction u generalizing v with
  | nil =>
    cases v with
    | nil => exact ⟨rfl, (List.cons.inj h).2⟩
    | cons d v => exact absurd ((List.cons.inj h).1 ▸ List.mem_cons_self) hv
  | cons d u ih =>
    cases v with
    | nil => exact absurd ((List.cons.inj h).1 ▸ List.mem_cons_self) hu
    | cons e v =>
      obtain ⟨rfl, htail⟩ := List.cons.inj h
      obtain ⟨rfl, rfl⟩ := ih (fun hc => hu (List.mem_cons_of_mem _ hc))
        (fun hc => hv (List.mem_cons_of_mem _ hc)) htail
      exact ⟨rfl, rfl⟩

theorem marker_append_inj (hkey : IsKey key) (hother : IsKey other)
    (h : marker key ++ rest = marker other ++ rest') : key = other ∧ rest = rest' := by
  have hbehind : key.toList ++ '=' :: rest = other.toList ++ '=' :: rest' := by
    simpa [marker_eq_cons] using h
  obtain ⟨htext, hrest⟩ := append_cons_inj hkey.2 hother.2 hbehind
  exact ⟨String.toList_inj.1 htext, hrest⟩

/-- A value with its marker ends where the next marker begins, if it does not hold that marker. -/
theorem eq_nil_of_marker_append {t before text : List Char} (hkey : IsKey key)
    (hfree : ¬ marker key <:+: before ++ t) (htext : ∀ c, text.head? = some c → c = '<')
    (h : marker key ++ rest = t ++ text) : t = [] := by
  have hnot {u : List Char} (ht : t = marker key ++ u) : False :=
    hfree ⟨before, u, by rw [ht, List.append_assoc]⟩
  rcases List.append_eq_append_iff.1 h with ⟨u, ht, -⟩ | ⟨u, hmarker, htail⟩
  · exact (hnot ht).elim
  · cases t with
    | nil => rfl
    | cons c t =>
      cases u with
      | nil => exact (hnot (u := []) (by simpa using hmarker.symm)).elim
      | cons d u =>
        -- the part of the marker behind `t` would begin with `<`
        have hd : d = '<' := htext d (by rw [htail]; rfl)
        have hmem : d ∈ (marker key).tail := by simp [hmarker]
        exact absurd (hd ▸ hmem) (not_mem_tail_marker hkey)

end Markers

/-! ## Attributes in a text -/

/-- Attributes, each with its value if it has one, as they are digested behind the type. -/
def encode (attributes : List (String × Option String)) : List Char :=
  attributes.flatMap fun a => (a.2.map fun v => marker a.1 ++ v.toList).getD []

/-- Attributes of which no value looks like a further one: it does not hold the marker of an
attribute behind it. -/
def Plain (attributes : List (String × Option String)) : Prop :=
  attributes.Pairwise fun a b => ¬ marker b.1 <:+: (a.2.getD "").toList

instance (attributes : List (String × Option String)) : Decidable (Plain attributes) :=
  inferInstanceAs (Decidable (List.Pairwise _ _))

section Attributes

variable {as bs : List (String × Option String)}

theorem encode_cons_some (key value : String) (as : List (String × Option String)) :
    encode ((key, some value) :: as) = marker key ++ (value.toList ++ encode as) := by
  simp [encode]

theorem encode_cons_none (key : String) (as : List (String × Option String)) :
    encode ((key, none) :: as) = encode as := by
  simp [encode]

theorem encode_eq_nil_or (as : List (String × Option String)) :
    encode as = [] ∨ ∃ key ∈ as.map Prod.fst, ∃ rest, encode as = marker key ++ rest := by
  induction as with
  | nil => exact Or.inl rfl
  | cons a as ih =>
    obtain ⟨key, _ | value⟩ := a
    · rw [encode_cons_none]
      refine ih.imp_right ?_
      rintro ⟨key', hkey', hrest⟩
      exact ⟨key', List.mem_cons_of_mem _ hkey', hrest⟩
    · exact Or.inr ⟨key, List.mem_cons_self, _, encode_cons_some key value as⟩

theorem eq_of_head?_encode (as : List (String × Option String)) (c : Char)
    (h : (encode as).head? = some c) : c = '<' := by
  rcases encode_eq_nil_or as with heq | ⟨key, -, rest, heq⟩ <;> rw [heq] at h
  · cases h
  · exact (Option.some.inj h).symm

theorem eq_nil_of_encode_eq {before t : List Char} (hkeys : ∀ key ∈ as.map Prod.fst, IsKey key)
    (hfree : ∀ key ∈ as.map Prod.fst, ¬ marker key <:+: before ++ t)
    (h : encode as = t ++ encode bs) : t = [] := by
  rcases encode_eq_nil_or as with heq | ⟨key, hkey, rest, heq⟩
  · rw [heq] at h
    exact (List.append_eq_nil_iff.1 h.symm).1
  · exact eq_nil_of_marker_append (hkeys key hkey) (hfree key hkey) (eq_of_head?_encode bs)
      (heq.symm.trans h)

/-- A value ends where the attributes behind it begin. -/
theorem value_eq_of_append_eq {v w : List Char} (hsame : as.map Prod.fst = bs.map Prod.fst)
    (hkeys : ∀ key ∈ as.map Prod.fst, IsKey key)
    (hv : ∀ key ∈ as.map Prod.fst, ¬ marker key <:+: v)
    (hw : ∀ key ∈ bs.map Prod.fst, ¬ marker key <:+: w) (h : v ++ encode as = w ++ encode bs) :
    v = w ∧ encode as = encode bs := by
  rcases List.append_eq_append_iff.1 h with ⟨t, rfl, htext⟩ | ⟨t, rfl, htext⟩
  · obtain rfl := eq_nil_of_encode_eq hkeys (hsame ▸ hw) htext
    exact ⟨(List.append_nil v).symm, htext⟩
  · obtain rfl := eq_nil_of_encode_eq (hsame ▸ hkeys) (hsame ▸ hv) htext
    exact ⟨List.append_nil w, htext.symm⟩

theorem encode_cons_some_ne {key value : String} (hkey : IsKey key)
    (hkeys : ∀ key ∈ bs.map Prod.fst, IsKey key) (hnew : key ∉ bs.map Prod.fst) :
    encode ((key, some value) :: as) ≠ encode bs := by
  intro h
  rw [encode_cons_some] at h
  rcases encode_eq_nil_or bs with heq | ⟨key', hkey', rest, heq⟩ <;> rw [heq] at h
  · cases h
  · obtain ⟨rfl, -⟩ := marker_append_inj hkey (hkeys key' hkey') h
    exact hnew hkey'

/-- The text tells the values of plain attributes. -/
theorem encode_injective (hsame : as.map Prod.fst = bs.map Prod.fst)
    (hnodup : (as.map Prod.fst).Nodup) (hkeys : ∀ key ∈ as.map Prod.fst, IsKey key)
    (has : Plain as) (hbs : Plain bs) (h : encode as = encode bs) : as = bs := by
  induction as generalizing bs with
  | nil => exact (List.map_eq_nil_iff.1 hsame.symm).symm
  | cons a as ih =>
    cases bs with
    | nil => cases hsame
    | cons b bs =>
      obtain ⟨key, value⟩ := a
      obtain ⟨key', value'⟩ := b
      obtain ⟨hname, hnames⟩ := List.cons.inj hsame
      obtain rfl : key = key' := hname
      obtain ⟨hnew, hdistinct⟩ := List.nodup_cons.1 hnodup
      obtain ⟨hkey, hothers⟩ := List.forall_mem_cons.1 hkeys
      obtain ⟨hvalue, hplain⟩ := List.pairwise_cons.1 has
      obtain ⟨hvalue', hplain'⟩ := List.pairwise_cons.1 hbs
      have hrest (h : encode as = encode bs) : as = bs :=
        ih hnames hdistinct hothers hplain hplain' h
      match value, value' with
      | none, none => rw [hrest (by simpa only [encode_cons_none] using h)]
      | some v, none =>
        rw [encode_cons_none key bs] at h
        exact absurd h (encode_cons_some_ne hkey (hnames ▸ hothers) (hnames ▸ hnew))
      | none, some w =>
        rw [encode_cons_none key as] at h
        exact absurd h.symm (encode_cons_some_ne hkey hothers hnew)
      | some v, some w =>
        rw [encode_cons_some, encode_cons_some] at h
        obtain ⟨heq, htext⟩ := value_eq_of_append_eq hnames hothers
          (List.forall_mem_map.2 hvalue) (List.forall_mem_map.2 hvalue')
          (List.append_cancel_left h)
        obtain rfl : v = w := String.toList_inj.1 heq
        rw [hrest htext]

theorem encode_append (as bs : List (String × Option String)) :
    encode (as ++ bs) = encode as ++ encode bs :=
  List.flatMap_append

/-- The text that is digested, behind its first attribute. -/
theorem toList_projection_cons (key value : String) (criteria : List (String × String)) :
    (projection ((key, value) :: criteria)).toList =
      key.toList ++ '=' :: value.toList ++ encode (criteria.map fun c => (c.1, some c.2)) := by
  rw [projection, String.toList_intercalate]
  induction criteria generalizing key value with
  | nil => simp [encode]
  | cons c criteria ih =>
    obtain ⟨key', value'⟩ := c
    simp only [List.map_cons] at ih ⊢
    rw [List.intercalate_cons_cons, ih, encode_cons_some, marker]
    simp

/-- What stands in front of attributes ends where they begin. -/
theorem append_encode_inj {s t : List Char} (hs : '<' ∉ s) (ht : '<' ∉ t)
    (h : s ++ encode as = t ++ encode bs) : s = t ∧ encode as = encode bs := by
  have hnil {u v text : List Char} (hu : '<' ∉ v ++ u) (htext : encode as = u ++ text ∨
      encode bs = u ++ text) : u = [] := by
    cases u with
    | nil => rfl
    | cons c u =>
      have hc : c = '<' := by
        rcases htext with htext | htext
        · exact eq_of_head?_encode as c (by rw [htext]; rfl)
        · exact eq_of_head?_encode bs c (by rw [htext]; rfl)
      simp [hc] at hu
  rcases List.append_eq_append_iff.1 h with ⟨u, rfl, htext⟩ | ⟨u, rfl, htext⟩
  · obtain rfl := hnil ht (Or.inl htext)
    exact ⟨(List.append_nil s).symm, htext⟩
  · obtain rfl := hnil hs (Or.inr htext)
    exact ⟨List.append_nil t, htext.symm⟩

end Attributes

end Fingerprint

namespace Material

open Fingerprint

/-! ## The attributes of materials -/

/-- The keys of the attributes that identify a material, behind its type. -/
def Kind.keys : Kind → List String
  | svn => ["url", "username", "checkExternals"]
  | git | hg => ["url", "username", "branch"]
  | dependency => ["pipelineName", "stageName"]

/-- The attributes that identify a material of its kind. One of Git or Mercurial may have no user,
and one of Mercurial no branch; elsewhere what is absent counts as empty. -/
def identifying (m : Material) : List (String × Option String) :=
  match m.kind with
  | .svn => [("url", some m.url), ("username", some (m.username.getD "")),
      ("checkExternals", some (boolText m.checkExternals))]
  | .git | .hg => [("url", some m.url), ("username", m.username), ("branch", m.effectiveBranch)]
  | .dependency => [("pipelineName", some m.url), ("stageName", some (m.stage.getD ""))]

/-- The attributes that identify a material within a pipeline. -/
def placedAttributes (m : Material) : List (String × Option String) :=
  m.identifying ++ [("dest", some (m.destination.getD ""))]

/-- Two materials of one kind that agree in all that identifies a material of the kind. -/
def SameIdentity (a b : Material) : Prop :=
  a.kind = b.kind ∧ a.url = b.url ∧
    match a.kind with
    | .svn => a.username.getD "" = b.username.getD "" ∧ a.checkExternals = b.checkExternals
    | .git => a.username = b.username ∧ a.effectiveBranch = b.effectiveBranch
    | .hg => a.username = b.username ∧ a.branch = b.branch
    | .dependency => a.stage.getD "" = b.stage.getD ""

theorem map_fst_identifying (m : Material) : m.identifying.map Prod.fst = m.kind.keys := by
  rw [identifying]
  cases m.kind <;> rfl

theorem Kind.keys_proper (k : Kind) :
    (k.keys ++ ["dest"]).Nodup ∧ ∀ key ∈ k.keys ++ ["dest"], IsKey key := by
  cases k <;> decide

theorem Kind.typeName_proper (k : Kind) : '<' ∉ "type=".toList ++ k.typeName.toList := by
  cases k <;> decide

theorem Kind.typeName_injective {j k : Kind} (h : j.typeName = k.typeName) : j = k := by
  cases j <;> cases k <;> first | rfl | exact absurd h (by decide)

theorem boolText_injective {x y : Bool} (h : boolText x = boolText y) : x = y := by
  cases x <;> cases y <;> first | rfl | exact absurd h (by decide)

theorem sameIdentity_iff {a b : Material} :
    a.SameIdentity b ↔ a.kind = b.kind ∧ a.identifying = b.identifying := by
  rw [SameIdentity, identifying, identifying]
  refine and_congr_right fun hkind => ?_
  cases ha : a.kind <;> rw [← hkind, ha] <;>
    simp [effectiveBranch, ha, ← hkind]
  exact fun _ _ => ⟨fun h => h ▸ rfl, boolText_injective⟩

/-! ## What is digested of a material -/

/-- Attributes that have a value. -/
def present (criteria : List (String × String)) : List (String × Option String) :=
  criteria.map fun c => (c.1, some c.2)

theorem toList_projection_criteria (m : Material) (more : List (String × String)) :
    (projection (m.criteria ++ more)).toList =
      "type=".toList ++ m.kind.typeName.toList ++ encode (m.identifying ++ present more) := by
  rw [criteria, List.cons_append, toList_projection_cons, List.map_append, encode_append,
    encode_append, identifying, present]
  cases m.kind <;> cases m.username <;> cases m.effectiveBranch <;>
    simp [optionalPair, encode]

/-- The text tells the kind of a material, and its attributes if they are plain. -/
theorem eq_of_projection_eq {a b : Material} (more more' : List (String × String))
    (hsame : more.map Prod.fst = more'.map Prod.fst)
    (hnodup : (a.kind.keys ++ more.map Prod.fst).Nodup)
    (hkeys : ∀ key ∈ a.kind.keys ++ more.map Prod.fst, IsKey key)
    (ha : Plain (a.identifying ++ present more)) (hb : Plain (b.identifying ++ present more'))
    (h : projection (a.criteria ++ more) = projection (b.criteria ++ more')) :
    a.kind = b.kind ∧ a.identifying ++ present more = b.identifying ++ present more' := by
  have htext := congrArg String.toList h
  rw [toList_projection_criteria, toList_projection_criteria] at htext
  obtain ⟨htype, hencode⟩ :=
    append_encode_inj a.kind.typeName_proper b.kind.typeName_proper htext
  have hkind : a.kind = b.kind :=
    Kind.typeName_injective (String.toList_inj.1 (List.append_cancel_left htype))
  have hpresent (cs : List (String × String)) :
      (present cs).map Prod.fst = cs.map Prod.fst := by
    rw [present, List.map_map]
    rfl
  have hfst : (a.identifying ++ present more).map Prod.fst =
      a.kind.keys ++ more.map Prod.fst := by
    rw [List.map_append, map_fst_identifying, hpresent]
  have hfst' : (b.identifying ++ present more').map Prod.fst =
      a.kind.keys ++ more.map Prod.fst := by
    rw [List.map_append, map_fst_identifying, hpresent, ← hkind, ← hsame]
  refine ⟨hkind, encode_injective (hfst.trans hfst'.symm) ?_ ?_ ha hb hencode⟩
  · exact hfst ▸ hnodup
  · exact hfst ▸ hkeys

theorem projection_eq_of_sameIdentity {a b : Material} (h : a.SameIdentity b)
    (more : List (String × String)) :
    projection (a.criteria ++ more) = projection (b.criteria ++ more) := by
  obtain ⟨hkind, hattributes⟩ := sameIdentity_iff.1 h
  rw [← String.toList_inj, toList_projection_criteria, toList_projection_criteria, hkind,
    hattributes]

/-- Digests do not confuse two texts. -/
def DigestsDiffer (s t : String) : Prop :=
  Digest.sha256Hex s = Digest.sha256Hex t → s = t

theorem ofCriteria_congr {cs ds : List (String × String)} (h : projection cs = projection ds) :
    ofCriteria cs = ofCriteria ds := by
  rw [ofCriteria, ofCriteria, h]

theorem ofCriteria_eq_iff {cs ds : List (String × String)}
    (h : DigestsDiffer (projection cs) (projection ds)) :
    ofCriteria cs = ofCriteria ds ↔ projection cs = projection ds :=
  ⟨fun heq => h (congrArg hex heq), ofCriteria_congr⟩

/-- The attributes of a material with the directory that a pipeline puts it in. -/
def placedCriteria (m : Material) : List (String × String) :=
  m.criteria ++ [("dest", m.destination.getD "")]

/-- Materials of one identity have one fingerprint, whatever their passwords and their filters are;
and short of a collision of digests, no other two have, provided that their attributes are plain.
Within a pipeline the same holds with the directories of the materials. -/
theorem fingerprint_eq_iff (a b : Material) :
    let samePlace := a.destination.getD "" = b.destination.getD ""
    ((a.SameIdentity b → a.fingerprint = b.fingerprint) ∧
      (Plain a.identifying → Plain b.identifying →
        DigestsDiffer (projection a.criteria) (projection b.criteria) →
          (a.fingerprint = b.fingerprint ↔ a.SameIdentity b))) ∧
    (a.SameIdentity b ∧ samePlace → a.pipelineUniqueFingerprint = b.pipelineUniqueFingerprint) ∧
      (Plain a.placedAttributes → Plain b.placedAttributes →
        DigestsDiffer (projection a.placedCriteria) (projection b.placedCriteria) →
          (a.pipelineUniqueFingerprint = b.pipelineUniqueFingerprint ↔
            a.SameIdentity b ∧ samePlace)) := by
  intro samePlace
  have hsame (h : a.SameIdentity b) : projection a.criteria = projection b.criteria := by
    simpa using projection_eq_of_sameIdentity h []
  have hplaced : a.SameIdentity b ∧ samePlace →
      projection a.placedCriteria = projection b.placedCriteria := by
    rintro ⟨h, hplace⟩
    rw [placedCriteria, placedCriteria, ← hplace]
    exact projection_eq_of_sameIdentity h _
  refine ⟨⟨fun h => ?_, fun ha hb hdigests => ?_⟩, fun h => ?_, fun ha hb hdigests => ?_⟩
  · exact ofCriteria_congr (hsame h)
  · rw [fingerprint, fingerprint, ofCriteria_eq_iff hdigests]
    refine ⟨fun h => ?_, hsame⟩
    obtain ⟨hnodup, hkeys⟩ := a.kind.keys_proper
    obtain ⟨hkind, hattributes⟩ := eq_of_projection_eq [] [] rfl
      (by simpa using hnodup.of_append_left)
      (by simpa using fun key hkey => hkeys key (List.mem_append_left _ hkey))
      (by simpa [present] using ha) (by simpa [present] using hb) (by simpa using h)
    exact sameIdentity_iff.2 ⟨hkind, by simpa [present] using hattributes⟩
  · exact ofCriteria_congr (hplaced h)
  · change ofCriteria a.placedCriteria = ofCriteria b.placedCriteria ↔ _
    rw [ofCriteria_eq_iff hdigests]
    refine ⟨fun h => ?_, hplaced⟩
    obtain ⟨hnodup, hkeys⟩ := a.kind.keys_proper
    obtain ⟨hkind, hattributes⟩ := eq_of_projection_eq
      [("dest", a.destination.getD "")] [("dest", b.destination.getD "")] rfl hnodup hkeys ha hb h
    obtain ⟨hattributes, hdest⟩ := List.append_inj' hattributes rfl
    refine ⟨sameIdentity_iff.2 ⟨hkind, hattributes⟩, ?_⟩
    simpa [present] using hdest

/-- A repository, once with a password and once with its branch and a directory for it. -/
theorem fingerprint_eq_iff_site :
    let site : Material := { kind := .git, url := "https://example.com/site.git" }
    let secret := { site with password := some "secret" }
    let placed := { site with branch := some "master", destination := some "site" }
    secret.fingerprint = placed.fingerprint ∧
      secret.pipelineUniqueFingerprint ≠ placed.pipelineUniqueFingerprint := by
  intro site secret placed
  obtain ⟨⟨-, hiff⟩, -, hiff'⟩ := fingerprint_eq_iff secret placed
  have hdigests : DigestsDiffer (projection secret.criteria) (projection placed.criteria) :=
    fun _ => by decide
  have hdigests' : DigestsDiffer (projection secret.placedCriteria)
      (projection placed.placedCriteria) :=
    fun h => absurd h (by decide +kernel)
  refine ⟨(hiff (by decide) (by decide) hdigests).2 ?_, fun h => ?_⟩
  · exact ⟨rfl, rfl, rfl, rfl⟩
  · exact absurd ((hiff' (by decide) (by decide) hdigests').1 h).2 (by decide)

/-- Two repositories whose attributes differ, but not where the one ends and the next begins. -/
theorem fingerprint_may_be_shared :
    let a : Material := { kind := .svn, url := "/srv/repo", username := "x/repo<|>username=y" }
    let b : Material := { kind := .svn, url := "/srv/repo<|>username=x/repo", username := "y" }
    a.fingerprint = b.fingerprint ∧ a.pipelineUniqueFingerprint = b.pipelineUniqueFingerprint ∧
      a.folderName = b.folderName ∧ ¬ a.SameIdentity b := by
  intro a b
  have hfingerprint : a.fingerprint = b.fingerprint := ofCriteria_congr (by decide)
  refine ⟨hfingerprint, ofCriteria_congr (by decide), ?_, fun h => absurd h.2.1 (by decide)⟩
  have hname : a.displayName = b.displayName := by decide +kernel
  rw [folderName, folderName, hname, hfingerprint]

end Material

end PipelineSync
