import Mathlib
import PipelineSync.Proofs.Fragment.Sections

/-!
# The grammar of fragments

`Conforms` is the grammar of documents in its own words, one structure for each kind of element. It
is about all sections of a kind, where the checks of the schema look into the first. For documents
in which no such section stands twice the two are the same: `accepted_iff_conforms`.
-/

namespace PipelineSync

open Schema

namespace Schema

/-! ## Names and numerals -/

/-- A character with which names may start: a letter, a digit, `_` or `-`. -/
def IsNameStart (c : Char) : Prop :=
  'a' ≤ c ∧ c ≤ 'z' ∨ 'A' ≤ c ∧ c ≤ 'Z' ∨ '0' ≤ c ∧ c ≤ '9' ∨ c = '_' ∨ c = '-'

/-- A valid name: 255 characters at most, the first of them one with which names may start, and the
others such characters too or `.`. -/
def IsName (name : String) : Prop :=
  ∃ c cs, name.toList = c :: cs ∧ IsNameStart c ∧ (∀ d ∈ cs, IsNameStart d ∨ d = '.') ∧
    (c :: cs).length ≤ 255

/-- A decimal numeral, with a `+` in front or without. -/
def IsNumeral (text : String) (n : Nat) : Prop :=
  ∃ digits : List Char, digits ≠ [] ∧ (∀ c ∈ digits, '0' ≤ c ∧ c ≤ '9') ∧
    (text.toList = digits ∨ text.toList = '+' :: digits) ∧ n = Nat.ofDigitChars 10 digits 0

theorem isNameStart_iff {c : Char} :
    IsNameStart c ↔ (c.isAlphanum || c == '_' || c == '-') = true := by
  simp only [IsNameStart, Char.isAlphanum, Char.isAlpha, Char.isUpper, Char.isLower, Char.isDigit,
    Char.le_def, Bool.or_eq_true, Bool.and_eq_true, decide_eq_true_eq, beq_iff_eq]
  tauto

/-- Characters with which names may start have one byte each. -/
theorem utf8Size_of_isNameStart {c : Char} (h : IsNameStart c) : c.utf8Size = 1 := by
  have hle (d : Char) (hd : d.toNat ≤ 127) (hcd : c ≤ d) : c.utf8Size = 1 := by
    rw [Char.utf8Size_eq_one_iff, UInt32.le_iff_toNat_le]
    exact Nat.le_trans (UInt32.le_iff_toNat_le.1 hcd) hd
  rcases h with ⟨-, h⟩ | ⟨-, h⟩ | ⟨-, h⟩ | rfl | rfl
  · exact hle 'z' (by decide) h
  · exact hle 'Z' (by decide) h
  · exact hle '9' (by decide) h
  · rfl
  · rfl

theorem utf8ByteSize_of_forall {cs : List Char} (h : ∀ c ∈ cs, c.utf8Size = 1) :
    (String.ofList cs).utf8ByteSize = cs.length := by
  induction cs with
  | nil => rfl
  | cons c cs ih =>
    obtain ⟨hc, hcs⟩ := List.forall_mem_cons.1 h
    rw [String.ofList_cons, String.utf8ByteSize_append, String.utf8ByteSize_singleton, hc, ih hcs,
      List.length_cons, Nat.add_comm]

theorem isValid_iff {name : String} : Name.isValid name = true ↔ IsName name := by
  have hallowed (c : Char) : (c.isAlphanum || c == '_' || c == '-' || c == '.') = true ↔
      IsNameStart c ∨ c = '.' := by
    rw [isNameStart_iff, Bool.or_eq_true, beq_iff_eq]
  obtain ⟨cs, rfl⟩ : ∃ cs, name = String.ofList cs := ⟨name.toList, by simp⟩
  cases cs with
  | nil => simp [Name.isValid, IsName]
  | cons c cs =>
    have hsize (h : ∀ d ∈ c :: cs, IsNameStart d ∨ d = '.') :
        (String.ofList (c :: cs)).utf8ByteSize = (c :: cs).length := by
      refine utf8ByteSize_of_forall fun d hd => ?_
      rcases h d hd with hstart | rfl
      · exact utf8Size_of_isNameStart hstart
      · rfl
    have hempty : (String.ofList (c :: cs)).isEmpty = false := by simp
    have hdot : ¬ IsNameStart '.' := by
      rw [isNameStart_iff]
      decide
    unfold Name.isValid IsName
    simp only [hempty, String.toList_ofList, Bool.not_false, Bool.true_and, Bool.and_eq_true,
      decide_eq_true_eq, List.all_eq_true, hallowed, List.head?_cons, bne_iff_ne, ne_eq,
      Option.some.injEq, List.cons.injEq]
    constructor
    · rintro ⟨⟨hlength, hhead⟩, hall⟩
      rw [hsize hall] at hlength
      obtain ⟨hc, hcs⟩ := List.forall_mem_cons.1 hall
      exact ⟨c, cs, ⟨rfl, rfl⟩, hc.resolve_right hhead, hcs, hlength⟩
    · rintro ⟨_, _, ⟨rfl, rfl⟩, hc, hcs, hlength⟩
      have hall : ∀ d ∈ c :: cs, IsNameStart d ∨ d = '.' :=
        List.forall_mem_cons.2 ⟨Or.inl hc, hcs⟩
      refine ⟨⟨?_, fun hhead => hdot (hhead ▸ hc)⟩, hall⟩
      rwa [hsize hall]

/-- The digits of a numeral: all of it but a `+` in front. -/
def numeralDigits (text : String) : List Char :=
  match text.toList with
  | '+' :: cs => cs
  | cs => cs

theorem versionNumber?_eq (text : String) :
    versionNumber? text =
      if (numeralDigits text).isEmpty || !(numeralDigits text).all Char.isDigit then none
      else if Nat.ofDigitChars 10 (numeralDigits text) 0 < 0x100000000 then
        some (Nat.ofDigitChars 10 (numeralDigits text) 0)
      else none := rfl

theorem isNumeral_iff {text : String} {n : Nat} :
    IsNumeral text n ↔ numeralDigits text ≠ [] ∧ (∀ c ∈ numeralDigits text, c.isDigit = true) ∧
      n = Nat.ofDigitChars 10 (numeralDigits text) 0 := by
  have hdigit (c : Char) : '0' ≤ c ∧ c ≤ '9' ↔ c.isDigit = true := by
    simp [Char.isDigit, Char.le_def]
  unfold IsNumeral
  simp only [hdigit]
  constructor
  · rintro ⟨digits, hne, hall, htext, hn⟩
    have hdigits : numeralDigits text = digits := by
      rcases htext with htext | htext
      · unfold numeralDigits
        rw [htext]
        split
        · -- a digit is no `+`
          exact absurd (hall '+' List.mem_cons_self) (by decide)
        · rfl
      · unfold numeralDigits
        rw [htext]
        rfl
    rw [hdigits]
    exact ⟨hne, hall, hn⟩
  · rintro ⟨hne, hall, hn⟩
    refine ⟨numeralDigits text, hne, hall, ?_, hn⟩
    unfold numeralDigits
    split
    · next cs htext => exact Or.inr htext
    · exact Or.inl rfl

theorem versionNumber?_eq_some_iff {text : String} {n : Nat} :
    versionNumber? text = some n ↔ IsNumeral text n ∧ n < 2 ^ 32 := by
  rw [versionNumber?_eq, isNumeral_iff]
  by_cases hdigits : ((numeralDigits text).isEmpty || !(numeralDigits text).all Char.isDigit) = true
  · rw [if_pos hdigits]
    simp only [Bool.or_eq_true, List.isEmpty_iff, Bool.not_eq_true'] at hdigits
    refine ⟨nofun, ?_⟩
    rintro ⟨⟨hne, hall, -⟩, -⟩
    rcases hdigits with hnil | hbad
    · exact absurd hnil hne
    · rw [List.all_eq_true.2 hall] at hbad
      cases hbad
  · rw [if_neg hdigits]
    simp only [Bool.or_eq_true, List.isEmpty_iff, Bool.not_eq_true', not_or,
      Bool.not_eq_false, List.all_eq_true] at hdigits
    obtain ⟨hne, hall⟩ := hdigits
    split
    · next hlt =>
      constructor
      · intro h
        obtain rfl := Option.some.inj h
        exact ⟨⟨hne, hall, rfl⟩, hlt⟩
      · rintro ⟨⟨-, -, rfl⟩, -⟩
        rfl
    · next hge =>
      refine ⟨nofun, ?_⟩
      rintro ⟨⟨-, -, rfl⟩, hlt⟩
      exact absurd hlt hge

/-! ## Elements -/

/-- The attribute `key` holds a valid name. -/
def HasName (key : String) (e : Element) : Prop :=
  ∃ name, e.attribute? key = some name ∧ IsName name

/-- No two of the elements have names that are equal but for case. -/
def DistinctNames (l : List Element) : Prop :=
  l.Pairwise fun a b => ∀ m n, a.attribute? "name" = some m → b.attribute? "name" = some n →
    ¬ (Name.mk m).same ⟨n⟩ = true

/-- One or more jobs, with valid and different names. -/
structure IsJobs (e : Element) : Prop where
  jobs : ∀ c ∈ e.children, c.name = "job" ∧ HasName "name" c
  distinct : DistinctNames e.children
  nonempty : e.children ≠ []

/-- A stage, with a known approval if any, and with one section of jobs. -/
structure IsStage (e : Element) : Prop where
  named : HasName "name" e
  only : ∀ c ∈ e.children, c.name = "approval" ∨ c.name = "jobs"
  approval : ∀ c ∈ e.childrenNamed "approval", ∀ text, c.attribute? "type" = some text →
    text = "success" ∨ text = "manual"
  jobs : ∃ jobs, e.childrenNamed "jobs" = [jobs] ∧ IsJobs jobs

/-- A repository with its address, or a dependency with its pipeline and stage; what its filters hold
are patterns to ignore. -/
structure IsMaterial (e : Element) : Prop where
  kind : (e.name ∈ ["svn", "hg", "git"] ∧ (e.attribute? "url").isSome = true) ∨
    (e.name = "dependency" ∧ (e.attribute? "pipeline").isSome = true ∧
      (e.attribute? "stage").isSome = true)
  filters : ∀ f ∈ e.childrenNamed "filter", ∀ c ∈ f.children,
    c.name = "ignore" ∧ (c.attribute? "pattern").isSome = true

/-- One or more materials, which differ in what identifies them within a pipeline. -/
structure IsMaterials (e : Element) : Prop where
  materials : ∀ c ∈ e.children, IsMaterial c
  distinct : e.children.Pairwise fun a b => ∀ m n, Material.ofElement? a = some m →
    Material.ofElement? b = some n → m.pipelineUniqueFingerprint ≠ n.pipelineUniqueFingerprint
  nonempty : e.children ≠ []

/-- A pipeline, with a known lock behaviour if any, one section of materials, and one or more stages
under different names. -/
structure IsPipeline (e : Element) : Prop where
  named : HasName "name" e
  lock : ∀ text, e.attribute? "lockBehavior" = some text →
    text = "lockOnFailure" ∨ text = "unlockWhenFinished" ∨ text = "none"
  only : ∀ c ∈ e.children, c.name = "materials" ∨ c.name = "stage"
  materials : ∃ materials, e.childrenNamed "materials" = [materials] ∧ IsMaterials materials
  stages : ∀ c ∈ e.childrenNamed "stage", IsStage c
  distinct : DistinctNames (e.childrenNamed "stage")
  nonempty : e.childrenNamed "stage" ≠ []

/-- A group of pipelines. -/
structure IsGroup (e : Element) : Prop where
  named : HasName "group" e
  pipelines : ∀ c ∈ e.children, c.name = "pipeline" ∧ IsPipeline c

/-- An environment, with variables that have names and pipelines that have valid ones. -/
structure IsEnvironment (e : Element) : Prop where
  named : HasName "name" e
  only : ∀ c ∈ e.children, c.name = "environmentvariables" ∨ c.name = "pipelines"
  bindings : ∀ s ∈ e.childrenNamed "environmentvariables", ∀ c ∈ s.children,
    c.name = "variable" ∧ (c.attribute? "name").isSome = true
  pipelines : ∀ s ∈ e.childrenNamed "pipelines", ∀ c ∈ s.children,
    c.name = "pipeline" ∧ HasName "name" c

/-- A document: groups of pipelines and sections of environments, the latter under names that differ
from each other in the whole document. -/
structure Conforms (supported : Nat) (root : Element) : Prop where
  name : root.name = "cruise"
  version : ∀ text, root.attribute? "schemaVersion" = some text →
    ∃ n, IsNumeral text n ∧ 1 ≤ n ∧ n ≤ supported
  only : ∀ c ∈ root.children, c.name = "pipelines" ∨ c.name = "environments"
  groups : ∀ c ∈ root.childrenNamed "pipelines", IsGroup c
  environments : ∀ s ∈ root.childrenNamed "environments", ∀ c ∈ s.children,
    c.name = "environment" ∧ IsEnvironment c
  distinct : DistinctNames (root.inSections "environments")

/-- The sections of which the schema knows one stand once each: in no stage are there two approvals
or two sections of jobs, in no material two filters, and in no environment two sections of variables
or two of pipelines. -/
structure SectionsOnce (root : Element) : Prop where
  stages : ∀ e ∈ root.stages, (e.childrenNamed "approval").length ≤ 1 ∧
    (e.childrenNamed "jobs").length ≤ 1
  materials : ∀ e ∈ root.materials, (e.childrenNamed "filter").length ≤ 1
  environments : ∀ e ∈ root.inSections "environments",
    (e.childrenNamed "environmentvariables").length ≤ 1 ∧
      (e.childrenNamed "pipelines").length ≤ 1

/-! ## What the checks find of them -/

variable {e : Element} {kind : String}

theorem named_iff : Named kind e ↔ HasName kind e := by
  simp only [Named, HasName, isValid_iff]

/-- A section that stands once at most is the first of its kind. -/
theorem childrenNamed_eq_toList (h : (e.childrenNamed kind).length ≤ 1) :
    e.childrenNamed kind = (e.child? kind).toList := by
  rw [Element.child?_eq_head?]
  rcases hsections : e.childrenNamed kind with _ | ⟨s, _ | ⟨s', rest⟩⟩
  · rfl
  · rfl
  · rw [hsections] at h
    simp at h

theorem forall_child?_iff {P : Element → Prop} (h : (e.childrenNamed kind).length ≤ 1) :
    (∀ s, e.child? kind = some s → P s) ↔ ∀ s ∈ e.childrenNamed kind, P s := by
  rw [childrenNamed_eq_toList h]
  simp

theorem exists_child?_iff {P : Element → Prop} (h : (e.childrenNamed kind).length ≤ 1) :
    (∃ s, e.child? kind = some s ∧ P s) ↔ ∃ s, e.childrenNamed kind = [s] ∧ P s := by
  rw [childrenNamed_eq_toList h]
  cases e.child? kind <;> simp

/-- Keys that some elements of a list have differ if no two of these elements agree in them. -/
theorem nodup_flatMap_keys_iff {α β κ : Type} {f : α → Option β} {g : β → κ} {l : List α} :
    (l.flatMap fun a => (f a).toList.map g).Nodup ↔
      l.Pairwise fun a b => ∀ m n, f a = some m → f b = some n → g m ≠ g n := by
  have hkeys : (fun a => (f a).toList.map g) = fun a => ((f a).map g).toList := by
    funext a
    cases f a <;> rfl
  rw [hkeys, ← List.filterMap_eq_flatMap_toList, List.Nodup, List.pairwise_filterMap]
  refine List.Pairwise.iff fun a b => ?_
  constructor
  · exact fun h m n hm hn => h _ (by rw [hm]; rfl) _ (by rw [hn]; rfl)
  · intro h j hj k hk
    obtain ⟨m, hm, rfl⟩ := Option.map_eq_some_iff.1 hj
    obtain ⟨n, hn, rfl⟩ := Option.map_eq_some_iff.1 hk
    exact h m n hm hn

theorem nodup_flatMap_nameKeys_iff {l : List Element} :
    (l.flatMap nameKeys).Nodup ↔ DistinctNames l := by
  unfold DistinctNames
  simp only [Name.same_iff]
  exact nodup_flatMap_keys_iff

theorem properJobs_iff : ProperJobs e ↔ IsJobs e := by
  constructor
  · intro h
    refine ⟨fun c hc => ⟨List.mem_singleton.1 (h.only c hc), named_iff.1 (h.named c hc)⟩, ?_, ?_⟩
    · exact nodup_flatMap_nameKeys_iff.1 h.distinct
    · exact h.nonempty
  · intro h
    refine ⟨fun c hc => List.mem_singleton.2 (h.jobs c hc).1, ?_, ?_, h.nonempty⟩
    · exact fun c hc => named_iff.2 (h.jobs c hc).2
    · exact nodup_flatMap_nameKeys_iff.2 h.distinct

theorem approval_iff :
    (Approval.ofText? (approvalText e)).isSome = true ↔
      ∀ text, e.attribute? "type" = some text → text = "success" ∨ text = "manual" := by
  have hknown (text : String) : (Approval.ofText? text).isSome = true ↔
      text = "success" ∨ text = "manual" := by
    unfold Approval.ofText?
    split <;> simp_all
  unfold approvalText
  cases e.attribute? "type" with
  | none => simp [hknown]
  | some text => simp [hknown]

theorem properStage_iff (happroval : (e.childrenNamed "approval").length ≤ 1)
    (hjobs : (e.childrenNamed "jobs").length ≤ 1) : ProperStage e ↔ IsStage e := by
  have honly : (∀ c ∈ e.children, c.name ∈ ["approval", "jobs"]) ↔
      ∀ c ∈ e.children, c.name = "approval" ∨ c.name = "jobs" := by simp
  have hknown : (∀ a, e.child? "approval" = some a →
        (Approval.ofText? (approvalText a)).isSome = true) ↔
      ∀ a ∈ e.childrenNamed "approval", ∀ text, a.attribute? "type" = some text →
        text = "success" ∨ text = "manual" :=
    (forall_child?_iff happroval).trans (by simp only [approval_iff])
  have hsole : (∃ jobs, e.child? "jobs" = some jobs ∧ ProperJobs jobs) ↔
      ∃ jobs, e.childrenNamed "jobs" = [jobs] ∧ IsJobs jobs :=
    (exists_child?_iff hjobs).trans (by simp only [properJobs_iff])
  constructor
  · exact fun h =>
      ⟨named_iff.1 h.named, honly.1 h.only, hknown.1 h.approval, hsole.1 h.jobs⟩
  · exact fun h =>
      ⟨named_iff.2 h.named, honly.2 h.only, hknown.2 h.approval, hsole.2 h.jobs⟩

theorem needed_iff :
    (e.name ∈ materialElements ∧
      ∀ key ∈ neededAttributes e, (e.attribute? key).isSome = true) ↔
    (e.name ∈ ["svn", "hg", "git"] ∧ (e.attribute? "url").isSome = true) ∨
      (e.name = "dependency" ∧ (e.attribute? "pipeline").isSome = true ∧
        (e.attribute? "stage").isSome = true) := by
  unfold neededAttributes materialElements
  by_cases h : e.name = "dependency" <;> simp [h]

/-- What holds of all that stands in sections of a kind, if there is one at most. -/
theorem forall_childrenInFirst_iff {P : Element → Prop}
    (h : (e.childrenNamed kind).length ≤ 1) :
    (∀ c ∈ childrenInFirst e kind, P c) ↔ ∀ s ∈ e.childrenNamed kind, ∀ c ∈ s.children, P c := by
  rw [childrenNamed_eq_toList h, childrenInFirst]
  cases e.child? kind <;> simp

theorem properMaterial_iff_isMaterial (h : (e.childrenNamed "filter").length ≤ 1) :
    (e.name ∈ materialElements ∧ ProperMaterial e) ↔ IsMaterial e := by
  constructor
  · rintro ⟨hname, hproper⟩
    exact ⟨needed_iff.1 ⟨hname, hproper.needed⟩,
      (forall_childrenInFirst_iff h).1 hproper.entries⟩
  · intro hmaterial
    obtain ⟨hname, hneeded⟩ := needed_iff.2 hmaterial.kind
    exact ⟨hname, hneeded, (forall_childrenInFirst_iff h).2 hmaterial.filters⟩

theorem properMaterials_iff (h : ∀ c ∈ e.children, (c.childrenNamed "filter").length ≤ 1) :
    ProperMaterials e ↔ IsMaterials e := by
  have hdistinct : (e.children.flatMap materialKeys).Nodup ↔ _ := nodup_flatMap_keys_iff
  constructor
  · intro hproper
    refine ⟨fun c hc => ?_, hdistinct.1 hproper.distinct, hproper.nonempty⟩
    exact (properMaterial_iff_isMaterial (h c hc)).1 ⟨hproper.only c hc, hproper.proper c hc⟩
  · intro hmaterials
    have hboth (c : Element) (hc : c ∈ e.children) :=
      (properMaterial_iff_isMaterial (h c hc)).2 (hmaterials.materials c hc)
    exact ⟨fun c hc => (hboth c hc).1, fun c hc => (hboth c hc).2,
      hdistinct.2 hmaterials.distinct, hmaterials.nonempty⟩

theorem lock_iff {text : String} :
    (LockBehavior.ofText? text).isSome = true ↔
      text = "lockOnFailure" ∨ text = "unlockWhenFinished" ∨ text = "none" := by
  unfold LockBehavior.ofText?
  split <;> simp_all

/-- The sections of a pipeline's stages and materials stand once each. -/
structure PipelineSectionsOnce (e : Element) : Prop where
  stages : ∀ s ∈ e.childrenNamed "stage", (s.childrenNamed "approval").length ≤ 1 ∧
    (s.childrenNamed "jobs").length ≤ 1
  materials : ∀ m ∈ e.inSections "materials", (m.childrenNamed "filter").length ≤ 1

theorem properPipeline_iff (h : PipelineSectionsOnce e) : ProperPipeline e ↔ IsPipeline e := by
  have honly : (∀ c ∈ e.children, c.name ∈ ["materials", "stage"]) ↔
      ∀ c ∈ e.children, c.name = "materials" ∨ c.name = "stage" := by simp
  have hmaterials {s : Element} (hs : e.childrenNamed "materials" = [s]) :
      ProperMaterials s ↔ IsMaterials s := by
    refine properMaterials_iff fun c hc => h.materials c ?_
    rwa [Element.inSections, hs, List.flatMap_singleton]
  have hstage (s : Element) (hs : s ∈ e.childrenNamed "stage") : ProperStage s ↔ IsStage s :=
    properStage_iff (h.stages s hs).1 (h.stages s hs).2
  constructor
  · intro hproper
    obtain ⟨s, hs, hsection⟩ := hproper.materials
    exact {
      named := named_iff.1 hproper.named
      lock := fun text htext => lock_iff.1 (hproper.lock text htext)
      only := honly.1 hproper.only
      materials := ⟨s, hs, (hmaterials hs).1 hsection⟩
      stages := fun c hc => (hstage c hc).1 (hproper.stages c hc)
      distinct := nodup_flatMap_nameKeys_iff.1 hproper.distinct
      nonempty := hproper.nonempty }
  · intro hpipeline
    obtain ⟨s, hs, hsection⟩ := hpipeline.materials
    exact {
      named := named_iff.2 hpipeline.named
      lock := fun text htext => lock_iff.2 (hpipeline.lock text htext)
      only := honly.2 hpipeline.only
      materials := ⟨s, hs, (hmaterials hs).2 hsection⟩
      stages := fun c hc => (hstage c hc).2 (hpipeline.stages c hc)
      distinct := nodup_flatMap_nameKeys_iff.2 hpipeline.distinct
      nonempty := hpipeline.nonempty }

theorem properGroup_iff (h : ∀ c ∈ e.childrenNamed "pipeline", PipelineSectionsOnce c) :
    ProperGroup e ↔ IsGroup e := by
  have hpipeline (hname : ∀ c ∈ e.children, c.name = "pipeline") (c : Element)
      (hc : c ∈ e.children) : ProperPipeline c ↔ IsPipeline c := by
    refine properPipeline_iff (h c ?_)
    exact List.mem_filter.2 ⟨hc, beq_iff_eq.2 (hname c hc)⟩
  constructor
  · intro hproper
    have hname (c : Element) (hc : c ∈ e.children) := List.mem_singleton.1 (hproper.only c hc)
    refine ⟨named_iff.1 hproper.named, fun c hc => ⟨hname c hc, ?_⟩⟩
    exact (hpipeline hname c hc).1 (hproper.pipelines c hc)
  · intro hgroup
    have hname (c : Element) (hc : c ∈ e.children) := (hgroup.pipelines c hc).1
    refine ⟨named_iff.2 hgroup.named, fun c hc => List.mem_singleton.2 (hname c hc), ?_⟩
    exact fun c hc => (hpipeline hname c hc).2 (hgroup.pipelines c hc).2

theorem properVariables_iff :
    ProperVariables e ↔
      ∀ c ∈ e.children, c.name = "variable" ∧ (c.attribute? "name").isSome = true := by
  constructor
  · exact fun h c hc => ⟨List.mem_singleton.1 (h.only c hc), h.named c hc⟩
  · exact fun h => ⟨fun c hc => List.mem_singleton.2 (h c hc).1, fun c hc => (h c hc).2⟩

theorem properMembers_iff :
    ProperMembers e ↔ ∀ c ∈ e.children, c.name = "pipeline" ∧ HasName "name" c := by
  constructor
  · exact fun h c hc => ⟨List.mem_singleton.1 (h.only c hc), named_iff.1 (h.named c hc)⟩
  · exact fun h =>
      ⟨fun c hc => List.mem_singleton.2 (h c hc).1, fun c hc => named_iff.2 (h c hc).2⟩

theorem properEnvironment_iff
    (hvariables : (e.childrenNamed "environmentvariables").length ≤ 1)
    (hpipelines : (e.childrenNamed "pipelines").length ≤ 1) :
    ProperEnvironment e ↔ IsEnvironment e := by
  have honly : (∀ c ∈ e.children, c.name ∈ ["environmentvariables", "pipelines"]) ↔
      ∀ c ∈ e.children, c.name = "environmentvariables" ∨ c.name = "pipelines" := by simp
  have hbindings : (∀ s, e.child? "environmentvariables" = some s → ProperVariables s) ↔
      ∀ s ∈ e.childrenNamed "environmentvariables", ∀ c ∈ s.children,
        c.name = "variable" ∧ (c.attribute? "name").isSome = true :=
    (forall_child?_iff hvariables).trans (by simp only [properVariables_iff])
  have hmembers : (∀ s, e.child? "pipelines" = some s → ProperMembers s) ↔
      ∀ s ∈ e.childrenNamed "pipelines", ∀ c ∈ s.children,
        c.name = "pipeline" ∧ HasName "name" c :=
    (forall_child?_iff hpipelines).trans (by simp only [properMembers_iff])
  constructor
  · exact fun h =>
      ⟨named_iff.1 h.named, honly.1 h.only, hbindings.1 h.bindings, hmembers.1 h.members⟩
  · exact fun h =>
      ⟨named_iff.2 h.named, honly.2 h.only, hbindings.2 h.bindings, hmembers.2 h.pipelines⟩

theorem properEnvironments_iff
    (h : ∀ c ∈ e.children, (c.childrenNamed "environmentvariables").length ≤ 1 ∧
      (c.childrenNamed "pipelines").length ≤ 1) :
    ProperEnvironments e ↔ ∀ c ∈ e.children, c.name = "environment" ∧ IsEnvironment c := by
  have henvironment (c : Element) (hc : c ∈ e.children) :
      ProperEnvironment c ↔ IsEnvironment c := properEnvironment_iff (h c hc).1 (h c hc).2
  constructor
  · intro hproper c hc
    exact ⟨List.mem_singleton.1 (hproper.only c hc),
      (henvironment c hc).1 (hproper.environments c hc)⟩
  · intro hall
    exact ⟨fun c hc => List.mem_singleton.2 (hall c hc).1,
      fun c hc => (henvironment c hc).2 (hall c hc).2⟩

theorem properVersion_iff {supported : Nat} (h : supported < 2 ^ 32) {root : Element} :
    ProperVersion supported root ↔ ∀ text, root.attribute? "schemaVersion" = some text →
      ∃ n, IsNumeral text n ∧ 1 ≤ n ∧ n ≤ supported := by
  unfold ProperVersion
  refine forall₂_congr fun text _ => exists_congr fun n => ?_
  rw [versionNumber?_eq_some_iff]
  constructor
  · rintro ⟨⟨hnumeral, -⟩, hpositive, hle⟩
    exact ⟨hnumeral, hpositive, hle⟩
  · rintro ⟨hnumeral, hpositive, hle⟩
    exact ⟨⟨hnumeral, by omega⟩, hpositive, hle⟩

variable {supported : Nat} {root : Element}

theorem SectionsOnce.pipeline (h : SectionsOnce root) {g : Element}
    (hg : g ∈ root.childrenNamed "pipelines") {c : Element}
    (hc : c ∈ g.childrenNamed "pipeline") : PipelineSectionsOnce c := by
  have hpipeline : c ∈ root.pipelines := List.mem_flatMap.2 ⟨g, hg, hc⟩
  constructor
  · exact fun s hs => h.stages s (List.mem_flatMap.2 ⟨c, hpipeline, hs⟩)
  · exact fun m hm => h.materials m (List.mem_flatMap.2 ⟨c, hpipeline, hm⟩)

theorem proper_iff_conforms (hsupported : supported < 2 ^ 32) (h : SectionsOnce root) :
    Proper supported root ↔ Conforms supported root := by
  have honly : (∀ c ∈ root.children, c.name ∈ ["pipelines", "environments"]) ↔
      ∀ c ∈ root.children, c.name = "pipelines" ∨ c.name = "environments" := by simp
  have hgroup (g : Element) (hg : g ∈ root.childrenNamed "pipelines") :
      ProperGroup g ↔ IsGroup g := properGroup_iff fun c hc => h.pipeline hg hc
  have hsection (s : Element) (hs : s ∈ root.childrenNamed "environments") :
      ProperEnvironments s ↔ ∀ c ∈ s.children, c.name = "environment" ∧ IsEnvironment c :=
    properEnvironments_iff fun c hc => h.environments c (List.mem_flatMap.2 ⟨s, hs, hc⟩)
  have hdistinct : ((root.childrenNamed "environments").flatMap fun s =>
      s.children.flatMap nameKeys).Nodup ↔ DistinctNames (root.inSections "environments") := by
    rw [← nodup_flatMap_nameKeys_iff, Element.inSections, List.flatMap_assoc]
  constructor
  · intro hproper
    exact {
      name := hproper.name
      version := (properVersion_iff hsupported).1 hproper.version
      only := honly.1 hproper.only
      groups := fun g hg => (hgroup g hg).1 (hproper.groups g hg)
      environments := fun s hs => (hsection s hs).1 (hproper.environments s hs)
      distinct := hdistinct.1 hproper.distinct }
  · intro hconforms
    exact {
      name := hconforms.name
      version := (properVersion_iff hsupported).2 hconforms.version
      only := honly.2 hconforms.only
      groups := fun g hg => (hgroup g hg).2 (hconforms.groups g hg)
      environments := fun s hs => (hsection s hs).2 (hconforms.environments s hs)
      distinct := hdistinct.2 hconforms.distinct }

end Schema

/-- The schema, up to a version that a 32-bit number can state, accepts a document if, and only if,
it conforms to the grammar, provided that none of its sections of which there should be one stands
twice. -/
theorem accepted_iff_conforms (supported : UInt32) (file : String) {root : Element}
    (h : SectionsOnce root) :
    Validator.schema supported.toNat file root = .ok () ↔ Conforms supported.toNat root := by
  rw [accepted_iff_proper]
  exact proper_iff_conforms supported.toNat_lt h

/-- A document that states its version with a sign and a leading zero. -/
def versionedDocument : Element :=
  { documentOf [jobsSection [[("name", "unit")], [("name", "v1.lint")]]] with
    attributes := [("schemaVersion", "+0139")] }

theorem versionedDocument_conforms :
    SectionsOnce versionedDocument ∧ Conforms 139 versionedDocument ∧
      ¬ Conforms 138 versionedDocument := by
  have honce : SectionsOnce versionedDocument :=
    ⟨by decide +kernel, by decide +kernel, by decide +kernel⟩
  have haccepts (supported : UInt32) :=
    accepted_iff_conforms supported "ci.gocd.xml" honce
  refine ⟨honce, (haccepts 139).1 (by decide +kernel), fun hconforms => ?_⟩
  exact absurd ((haccepts 138).2 hconforms) (by decide +kernel)

end PipelineSync
