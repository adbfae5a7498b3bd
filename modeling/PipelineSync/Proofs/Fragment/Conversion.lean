import PipelineSync.Fragment.Collection
import PipelineSync.Proofs.Fragment.Schema
import Mathlib.Data.List.Forall2

/-!
# What is read off a document that the schema accepts

Of a document that the schema accepts nothing is left out for want of an attribute: what is read off
it corresponds to its elements one to one and in order, by the `DeclaredBy` relations, and it is
well-formed. `ofElement_of_accepted` says so of a whole document.
-/

namespace PipelineSync

open Schema

/-! ## Lists that correspond -/

section Correspondence

variable {α β κ : Type} {R : α → β → Prop} {l : List α} {l' : List β}

theorem forall₂_filterMap {f : α → Option β} (h : ∀ a ∈ l, ∃ b, f a = some b ∧ R a b) :
    List.Forall₂ R l (l.filterMap f) := by
  induction l with
  | nil => exact .nil
  | cons a l ih =>
    obtain ⟨⟨b, hb, hab⟩, hl⟩ := List.forall_mem_cons.1 h
    rw [List.filterMap_cons_some hb]
    exact .cons hab (ih hl)

theorem forall_mem_of_forall₂ {P : β → Prop} (h : List.Forall₂ R l l')
    (hP : ∀ a ∈ l, ∀ b, R a b → P b) : ∀ b ∈ l', P b := by
  induction h with
  | nil => exact List.forall_mem_nil _
  | @cons a b l l' hab _ ih =>
    have ⟨ha, hl⟩ := List.forall_mem_cons.1 hP
    exact List.forall_mem_cons.2 ⟨ha b hab, ih hl⟩

theorem flatMap_eq_map_of_forall₂ {keys : α → List κ} (key : β → κ) (h : List.Forall₂ R l l')
    (hkey : ∀ a b, R a b → keys a = [key b]) : l.flatMap keys = l'.map key := by
  induction h with
  | nil => rfl
  | @cons a b l l' hab _ ih => rw [List.flatMap_cons, List.map_cons, hkey a b hab, ih]; rfl

theorem ne_nil_of_forall₂ (h : List.Forall₂ R l l') (hne : l ≠ []) : l' ≠ [] := by
  intro hnil
  rw [hnil, List.forall₂_nil_right_iff] at h
  exact hne h

end Correspondence

/-! ## What elements declare -/

/-- The attributes of an element say what a material is a version of. -/
def Material.HasSource (e : Element) (m : Material) : Prop :=
  match m.kind with
  | .dependency => e.attribute? "pipeline" = some m.url ∧
    ∃ stage, e.attribute? "stage" = some stage ∧ m.stage = some stage
  | _ => e.attribute? "url" = some m.url ∧ m.stage = none

/-- An element declares a material, by the attributes that its kind needs and those it may have, and
with the patterns in its first filter. -/
structure Material.DeclaredBy (e : Element) (m : Material) : Prop where
  kind : e.name = m.kind.text
  source : m.HasSource e
  username : m.username = e.attribute? "username"
  password : m.password = e.attribute? "password"
  branch : m.branch = e.attribute? "branch"
  destination : m.destination = e.attribute? "dest"
  checkExternals : m.checkExternals = (e.attribute? "checkexternals" == some "true")
  filter : List.Forall₂ (fun c pattern => c.attribute? "pattern" = some pattern)
    (childrenInFirst e "filter") m.filter

/-- An element declares a job, with the tasks of its first section of them. -/
structure Job.DeclaredBy (e : Element) (j : Job) : Prop where
  name : e.attribute? "name" = some j.name.text
  tasks : List.Forall₂ (fun c t => Task.ofElement c = t) (childrenInFirst e "tasks") j.tasks

/-- An element declares a stage, with the approval and the jobs of its first sections. -/
structure Stage.DeclaredBy (e : Element) (s : Stage) : Prop where
  name : e.attribute? "name" = some s.name.text
  approval : match e.child? "approval" with
    | some a => Approval.ofText? (approvalText a) = some s.approval
    | none => s.approval = .success
  jobs : ∃ jobs, e.child? "jobs" = some jobs ∧
    List.Forall₂ Job.DeclaredBy jobs.children s.jobs

/-- An element declares a pipeline, with the materials of its only section of them. -/
structure Pipeline.DeclaredBy (e : Element) (p : Pipeline) : Prop where
  name : e.attribute? "name" = some p.name.text
  labelTemplate : p.labelTemplate = e.attribute? "labeltemplate"
  lockBehavior : match e.attribute? "lockBehavior" with
    | some text => LockBehavior.ofText? text = some p.lockBehavior
    | none => p.lockBehavior = .none
  materials : ∃ materials, e.childrenNamed "materials" = [materials] ∧
    List.Forall₂ Material.DeclaredBy materials.children p.materials
  stages : List.Forall₂ Stage.DeclaredBy (e.childrenNamed "stage") p.stages

/-- An element declares a group. -/
structure Group.DeclaredBy (e : Element) (g : Group) : Prop where
  name : e.attribute? "group" = some g.name
  pipelines : List.Forall₂ Pipeline.DeclaredBy e.children g.pipelines

/-- An element declares an environment, with the variables and pipelines of its first sections. -/
structure Environment.DeclaredBy (e : Element) (v : Environment) : Prop where
  name : e.attribute? "name" = some v.name.text
  pipelines : List.Forall₂ (fun c n => c.attribute? "name" = some n.text)
    (childrenInFirst e "pipelines") v.pipelines
  bindings : List.Forall₂ (fun c b => Environment.variableOfElement? c = some b)
    (childrenInFirst e "environmentvariables") v.bindings

/-- A document declares a fragment, with the environments of all its sections of them. -/
structure Fragment.DeclaredBy (root : Element) (f : Fragment) : Prop where
  groups : List.Forall₂ Group.DeclaredBy (root.childrenNamed "pipelines") f.groups
  environments : List.Forall₂ Environment.DeclaredBy
    ((root.childrenNamed "environments").flatMap Element.children) f.environments

/-! ## What is well-formed -/

/-- A stage with jobs, under valid names that differ in more than case. -/
structure Stage.WellFormed (s : Stage) : Prop where
  name : Name.isValid s.name.text = true
  jobs_ne_nil : s.jobs ≠ []
  jobs_named : ∀ j ∈ s.jobs, Name.isValid j.name.text = true
  jobs_distinct : (s.jobs.map fun j => j.name.key).Nodup

/-- A pipeline of an origin, with different materials and with stages. -/
structure Pipeline.WellFormed (origin : RepositoryOrigin) (p : Pipeline) : Prop where
  name : Name.isValid p.name.text = true
  origin_eq : p.origin = .repository origin
  materials_ne_nil : p.materials ≠ []
  materials_distinct : (p.materials.map Material.pipelineUniqueFingerprint).Nodup
  stages_ne_nil : p.stages ≠ []
  stages : ∀ s ∈ p.stages, s.WellFormed
  stages_distinct : (p.stages.map fun s => s.name.key).Nodup

/-- A fragment of an origin. -/
structure Fragment.WellFormed (origin : RepositoryOrigin) (f : Fragment) : Prop where
  groups_named : ∀ g ∈ f.groups, Name.isValid g.name = true
  pipelines : ∀ g ∈ f.groups, ∀ p ∈ g.pipelines, p.WellFormed origin
  environments_named : ∀ v ∈ f.environments, Name.isValid v.name.text = true
  environments_distinct : (f.environments.map fun v => v.name.key).Nodup

/-! ## Names -/

section Elements

variable {e : Element}

theorem Schema.Named.isValid {key name : String} (h : Named key e)
    (hname : e.attribute? key = some name) : Name.isValid name = true := by
  obtain ⟨name', hname', hvalid⟩ := h
  rwa [Option.some.inj (hname.symm.trans hname')]

theorem childrenNamed_eq_children {name : String} (h : ∀ c ∈ e.children, c.name ∈ [name]) :
    e.childrenNamed name = e.children := by
  refine List.filter_eq_self.2 fun c hc => ?_
  rw [List.mem_singleton.1 (h c hc)]
  exact beq_self_eq_true name

/-! ## Materials -/

theorem exists_kind {name : String} (h : name ∈ materialElements) :
    ∃ kind, Material.Kind.ofText? name = some kind ∧ name = kind.text := by
  simp only [materialElements, List.mem_cons, List.not_mem_nil, or_false] at h
  rcases h with rfl | rfl | rfl | rfl
  · exact ⟨.svn, rfl, rfl⟩
  · exact ⟨.hg, rfl, rfl⟩
  · exact ⟨.git, rfl, rfl⟩
  · exact ⟨.dependency, rfl, rfl⟩

theorem exists_sourceOfElement (hname : e.name ∈ materialElements)
    (h : ∀ key ∈ neededAttributes e, (e.attribute? key).isSome = true) :
    ∃ m, Material.sourceOfElement? e = some m ∧ e.name = m.kind.text ∧ m.HasSource e := by
  obtain ⟨kind, hkind, htext⟩ := exists_kind hname
  by_cases hdependency : kind = .dependency
  · subst hdependency
    have hneeded : neededAttributes e = ["pipeline", "stage"] := if_pos htext
    rw [hneeded] at h
    obtain ⟨url, hurl⟩ := Option.isSome_iff_exists.1 (h "pipeline" (by simp))
    obtain ⟨stage, hstage⟩ := Option.isSome_iff_exists.1 (h "stage" (by simp))
    refine ⟨{ kind := .dependency, url, stage := some stage }, ?_, htext, hurl, stage, hstage, rfl⟩
    simp [Material.sourceOfElement?, hkind, hurl, hstage]
  · have hother : e.name ≠ "dependency" := by
      rw [htext]
      cases kind with
      | dependency => exact absurd rfl hdependency
      | svn | hg | git => decide
    have hneeded : neededAttributes e = ["url"] := if_neg hother
    rw [hneeded] at h
    obtain ⟨url, hurl⟩ := Option.isSome_iff_exists.1 (h "url" (by simp))
    refine ⟨{ kind, url }, ?_, htext, ?_⟩
    · simp [Material.sourceOfElement?, hkind, hdependency, hurl]
    · cases kind with
      | dependency => exact absurd rfl hdependency
      | svn | hg | git => exact ⟨hurl, rfl⟩

theorem filterOfElement_eq
    (h : ∀ c ∈ childrenInFirst e "filter", c.name = "ignore" ∧
      (c.attribute? "pattern").isSome = true) :
    Material.filterOfElement e =
      (childrenInFirst e "filter").filterMap fun c => c.attribute? "pattern" := by
  rw [Material.filterOfElement]
  rw [childrenInFirst] at h ⊢
  cases hs : e.child? "filter" with
  | none => rfl
  | some s =>
    rw [hs] at h
    have honly : ∀ c ∈ s.children, c.name ∈ ["ignore"] :=
      fun c hc => List.mem_singleton.2 (h c hc).1
    simp only [childrenNamed_eq_children honly, Option.map_some, Option.getD_some]

theorem exists_material (hname : e.name ∈ materialElements) (h : ProperMaterial e) :
    ∃ m, Material.ofElement? e = some m ∧ m.DeclaredBy e := by
  obtain ⟨m, hm, hkind, hsource⟩ := exists_sourceOfElement hname h.needed
  have hfilter : List.Forall₂ (fun c pattern => c.attribute? "pattern" = some pattern)
      (childrenInFirst e "filter") (Material.filterOfElement e) := by
    rw [filterOfElement_eq h.entries]
    refine forall₂_filterMap fun c hc => ?_
    obtain ⟨pattern, hpattern⟩ := Option.isSome_iff_exists.1 (h.entries c hc).2
    exact ⟨pattern, hpattern, hpattern⟩
  exact ⟨_, congrArg _ hm, hkind, hsource, rfl, rfl, rfl, rfl, rfl, hfilter⟩

/-! ## Stages -/

theorem exists_job (h : Named "name" e) : ∃ j, Job.ofElement? e = some j ∧ j.DeclaredBy e := by
  obtain ⟨name, hname, -⟩ := h
  refine ⟨_, congrArg _ hname, hname, ?_⟩
  rw [childrenInFirst]
  cases e.child? "tasks" with
  | none => exact .nil
  | some tasks => exact List.forall₂_map_right_iff.2 (List.forall₂_same.2 fun _ _ => rfl)

theorem approvalOfElement_eq
    (h : ∀ a, e.child? "approval" = some a →
      (Approval.ofText? (approvalText a)).isSome = true) :
    match e.child? "approval" with
    | some a => Approval.ofText? (approvalText a) = some (Approval.ofElement e)
    | none => Approval.ofElement e = .success := by
  rw [Approval.ofElement]
  cases ha : e.child? "approval" with
  | none => rfl
  | some a =>
    have hknown := h a ha
    simp only [approvalText, Option.bind_some] at hknown ⊢
    cases htype : a.attribute? "type" with
    | none => rfl
    | some text =>
      rw [htype] at hknown
      obtain ⟨approval, happroval⟩ := Option.isSome_iff_exists.1 hknown
      rw [Option.getD_some] at happroval ⊢
      rw [Option.bind_some, happroval, Option.getD_some]

theorem exists_stage (h : ProperStage e) : ∃ s, Stage.ofElement? e = some s ∧ s.DeclaredBy e := by
  obtain ⟨name, hname, -⟩ := h.named
  obtain ⟨jobs, hjobs, hproper⟩ := h.jobs
  refine ⟨_, congrArg _ hname, hname, approvalOfElement_eq h.approval, jobs, hjobs, ?_⟩
  simp only [hjobs, childrenNamed_eq_children hproper.only]
  exact forall₂_filterMap fun c hc => exists_job (hproper.named c hc)

theorem Stage.DeclaredBy.wellFormed {s : Stage} (hs : s.DeclaredBy e) (h : ProperStage e) :
    s.WellFormed := by
  obtain ⟨jobs, hjobs, hdeclared⟩ := hs.jobs
  obtain ⟨jobs', hjobs', hproper⟩ := h.jobs
  obtain rfl : jobs = jobs' := Option.some.inj (hjobs.symm.trans hjobs')
  have hkeys := flatMap_eq_map_of_forall₂ (fun j : Job => j.name.key) hdeclared
    fun c j hj => nameKeys_eq hj.name
  refine ⟨h.named.isValid hs.name, ne_nil_of_forall₂ hdeclared hproper.nonempty, ?_, ?_⟩
  · exact forall_mem_of_forall₂ hdeclared fun c hc j hj => (hproper.named c hc).isValid hj.name
  · exact hkeys ▸ hproper.distinct

/-! ## Pipelines and groups -/

variable {origin : RepositoryOrigin}

theorem lockBehaviorOfElement_eq
    (h : ∀ text, e.attribute? "lockBehavior" = some text →
      (LockBehavior.ofText? text).isSome = true) :
    match e.attribute? "lockBehavior" with
    | some text => LockBehavior.ofText? text =
      some (((e.attribute? "lockBehavior").bind LockBehavior.ofText?).getD .none)
    | none => ((e.attribute? "lockBehavior").bind LockBehavior.ofText?).getD .none = .none := by
  cases htext : e.attribute? "lockBehavior" with
  | none => rfl
  | some text =>
    obtain ⟨lock, hlock⟩ := Option.isSome_iff_exists.1 (h text htext)
    rw [Option.bind_some, hlock]
    exact hlock

/-- The materials that are read off a section are told apart by the keys of their elements. -/
theorem materials_of_proper {materials : Element} (h : ProperMaterials materials) :
    let ms := materials.children.filterMap Material.ofElement?
    List.Forall₂ Material.DeclaredBy materials.children ms ∧ ms ≠ [] ∧
      (ms.map Material.pipelineUniqueFingerprint).Nodup := by
  intro ms
  have hread : List.Forall₂ (fun c m => Material.ofElement? c = some m ∧ m.DeclaredBy c)
      materials.children ms := by
    refine forall₂_filterMap fun c hc => ?_
    obtain ⟨m, hm, hdeclared⟩ := exists_material (h.only c hc) (h.proper c hc)
    exact ⟨m, hm, hm, hdeclared⟩
  have hkeys : materials.children.flatMap materialKeys =
      ms.map Material.pipelineUniqueFingerprint := by
    refine flatMap_eq_map_of_forall₂ _ hread fun c m hm => ?_
    rw [materialKeys, hm.1]
    rfl
  exact ⟨hread.imp fun _ _ hm => hm.2, ne_nil_of_forall₂ hread h.nonempty, hkeys ▸ h.distinct⟩

theorem exists_pipeline (origin : RepositoryOrigin) (h : ProperPipeline e) :
    ∃ p, Pipeline.ofElement? origin e = some p ∧ p.DeclaredBy e ∧ p.WellFormed origin := by
  obtain ⟨name, hname, hvalid⟩ := h.named
  obtain ⟨materials, hmaterials, hproper⟩ := h.materials
  obtain ⟨hdeclared, hnonempty, hdistinct⟩ := materials_of_proper hproper
  have hstages := forall₂_filterMap fun c hc => exists_stage (h.stages c hc)
  have hfirst : e.child? "materials" = some materials := by
    rw [Element.child?, ← List.head?_filter]
    exact congrArg List.head? hmaterials
  have hkeys := flatMap_eq_map_of_forall₂ (fun s : Stage => s.name.key) hstages
    fun c s hs => nameKeys_eq hs.name
  refine ⟨_, congrArg _ hname, ⟨hname, rfl, lockBehaviorOfElement_eq h.lock, ?_, hstages⟩, ?_⟩
  · refine ⟨materials, hmaterials, ?_⟩
    rw [hfirst]
    exact hdeclared
  · constructor
    · exact hvalid
    · rfl
    · rwa [hfirst]
    · rwa [hfirst]
    · exact ne_nil_of_forall₂ hstages h.nonempty
    · exact forall_mem_of_forall₂ hstages fun c hc s hs => hs.wellFormed (h.stages c hc)
    · exact hkeys ▸ h.distinct

theorem exists_group (origin : RepositoryOrigin) (h : ProperGroup e) :
    ∃ g, Group.ofElement? origin e = some g ∧ g.DeclaredBy e ∧ Name.isValid g.name = true ∧
      ∀ p ∈ g.pipelines, p.WellFormed origin := by
  obtain ⟨name, hname, hvalid⟩ := h.named
  have hpipelines := forall₂_filterMap fun c hc => exists_pipeline origin (h.pipelines c hc)
  rw [← childrenNamed_eq_children h.only] at hpipelines
  refine ⟨_, congrArg _ hname, ⟨hname, ?_⟩, hvalid, ?_⟩
  · rw [← childrenNamed_eq_children h.only]
    exact hpipelines.imp fun _ _ hp => hp.1
  · exact forall_mem_of_forall₂ hpipelines fun _ _ _ hp => hp.2

/-! ## Environments -/

theorem exists_variable (h : (e.attribute? "name").isSome = true) :
    ∃ b, Environment.variableOfElement? e = some b ∧
      Environment.variableOfElement? e = some b := by
  obtain ⟨name, hname⟩ := Option.isSome_iff_exists.1 h
  exact ⟨_, congrArg _ hname, congrArg _ hname⟩

theorem forall₂_members {members : Element} (h : ProperMembers members) :
    List.Forall₂ (fun c n => c.attribute? "name" = some n.text) members.children
      ((members.childrenNamed "pipeline").filterMap fun p =>
        (p.attribute? "name").map Name.mk) := by
  rw [childrenNamed_eq_children h.only]
  refine forall₂_filterMap fun c hc => ?_
  obtain ⟨name, hname, -⟩ := h.named c hc
  exact ⟨⟨name⟩, congrArg _ hname, hname⟩

theorem exists_environment (h : ProperEnvironment e) :
    ∃ v, Environment.ofElement? e = some v ∧ v.DeclaredBy e := by
  obtain ⟨name, hname, -⟩ := h.named
  refine ⟨_, congrArg _ hname, hname, ?_, ?_⟩
  · rw [childrenInFirst]
    cases hs : e.child? "pipelines" with
    | none => exact .nil
    | some members => exact forall₂_members (h.members members hs)
  · rw [childrenInFirst]
    cases hs : e.child? "environmentvariables" with
    | none => exact .nil
    | some section_ =>
      have hproper := h.bindings section_ hs
      simp only [childrenNamed_eq_children hproper.only]
      exact forall₂_filterMap fun c hc => exists_variable (hproper.named c hc)

theorem forall₂_environments {sections : List Element} (h : ∀ s ∈ sections, ProperEnvironments s) :
    List.Forall₂ Environment.DeclaredBy (sections.flatMap Element.children)
      (sections.flatMap fun s =>
        (s.childrenNamed "environment").filterMap Environment.ofElement?) := by
  induction sections with
  | nil => exact .nil
  | cons s sections ih =>
    obtain ⟨hproper, hrest⟩ := List.forall_mem_cons.1 h
    rw [List.flatMap_cons, List.flatMap_cons, childrenNamed_eq_children hproper.only]
    refine List.rel_append ?_ (ih hrest)
    exact forall₂_filterMap fun c hc => exists_environment (hproper.environments c hc)

end Elements

/-! ## Documents -/

variable {supported : Nat} {file : String} {root : Element}

theorem accepted_iff_proper : Validator.schema supported file root = .ok () ↔
    Proper supported root := by
  rw [← check_eq_ok_iff, Validator.schema]
  cases check supported root with
  | error _ => exact ⟨nofun, nofun⟩
  | ok _ => exact ⟨fun _ => rfl, fun _ => rfl⟩

theorem proper_of_accepted (h : Validator.schema supported file root = .ok ()) :
    Proper supported root :=
  accepted_iff_proper.1 h

/-- What is read off a document that the schema accepts is all that its elements declare, and
well-formed. -/
theorem ofElement_of_accepted (h : Validator.schema supported file root = .ok ())
    (origin : RepositoryOrigin) :
    (Fragment.ofElement origin root).DeclaredBy root ∧
      (Fragment.ofElement origin root).WellFormed origin := by
  have hproper := proper_of_accepted h
  have hgroups := forall₂_filterMap fun c hc => exists_group origin (hproper.groups c hc)
  have henvironments := forall₂_environments hproper.environments
  have hkeys := flatMap_eq_map_of_forall₂ (fun v : Environment => v.name.key) henvironments
    fun c v hv => nameKeys_eq hv.name
  refine ⟨⟨hgroups.imp fun _ _ hg => hg.1, henvironments⟩, ?_⟩
  constructor
  · exact forall_mem_of_forall₂ hgroups fun _ _ _ hg => hg.2.1
  · exact forall_mem_of_forall₂ hgroups fun _ _ _ hg => hg.2.2
  · refine forall_mem_of_forall₂ henvironments fun c hc v hv => ?_
    obtain ⟨s, hs, hc⟩ := List.mem_flatMap.1 hc
    exact (((hproper.environments s hs).environments c hc).named).isValid hv.name
  · rw [List.flatMap_assoc] at hkeys
    exact hkeys ▸ hproper.distinct

/-- A document with two groups, and with environments in two sections. -/
def sampleDocument : Element :=
  let element (name : String) (attributes : List (String × String)) (children : List Element) :=
    ({ name, attributes, children } : Element)
  let jobs := element "jobs" []
    [element "job" [("name", "compile")] [], element "job" [("name", "lint")] []]
  let git := element "git" [("url", "https://apps.example")] []
  let upstream := element "dependency" [("pipeline", "build"), ("stage", "release")] []
  let approval := element "approval" [("type", "manual")] []
  let build := element "pipeline" [("name", "build"), ("lockBehavior", "lockOnFailure")]
    [element "materials" [] [git], element "stage" [("name", "release")] [jobs]]
  let deploy := element "pipeline" [("name", "deploy")]
    [element "materials" [] [git, upstream],
      element "stage" [("name", "roll-out")] [approval, jobs],
      element "stage" [("name", "verify")] [jobs]]
  let environment (name : String) := element "environment" [("name", name)]
    [element "pipelines" [] [element "pipeline" [("name", "deploy")] []]]
  element "cruise" []
    [element "pipelines" [("group", "first")] [build],
      element "environments" [] [environment "staging"],
      element "pipelines" [("group", "second")] [deploy],
      element "environments" [] [environment "live", environment "backup"]]

def sampleOrigin : RepositoryOrigin := ⟨⟨"site"⟩, "https://config.example", "site-1"⟩

theorem sampleDocument_declared :
    Validator.schema 1 "a.gocd.xml" sampleDocument = .ok () ∧
      (Fragment.ofElement sampleOrigin sampleDocument).DeclaredBy sampleDocument ∧
      (Fragment.ofElement sampleOrigin sampleDocument).WellFormed sampleOrigin := by
  have haccepted : Validator.schema 1 "a.gocd.xml" sampleDocument = .ok () := by decide +kernel
  exact ⟨haccepted, ofElement_of_accepted haccepted sampleOrigin⟩

end PipelineSync
