import PipelineSync.Proofs.Fragment.Conversion

/-!
# Sections that stand more than once

Jobs, tasks, filters, variables and the pipelines of environments stand in sections, of which a
document should have one each. The schema looks into the first section of a kind and so does the
conversion. A document with another one is accepted, and nothing that stands there is checked or
read. So what is read is all that is declared just where the later sections are empty:
`complete_iff_of_accepted`.
-/

namespace PipelineSync

open Schema

/-! ## Sections -/

namespace Element

variable (e : Element) (kind : String)

theorem child?_eq_head? : e.child? kind = (e.childrenNamed kind).head? :=
  (List.head?_filter ..).symm

/-- What stands in the sections of a kind. -/
def inSections : List Element := (e.childrenNamed kind).flatMap children

/-- What stands in the sections of a kind but for the first. -/
def inLaterSections : List Element := (e.childrenNamed kind).tail.flatMap children

theorem inSections_eq : e.inSections kind = childrenInFirst e kind ++ e.inLaterSections kind := by
  rw [inSections, inLaterSections, childrenInFirst, child?_eq_head?]
  cases e.childrenNamed kind with
  | nil => rfl
  | cons s sections => rfl

/-- The elements of a list with a name. -/
def named (name : String) (l : List Element) : List Element := l.filter fun c => c.name == name

theorem named_eq_self {name : String} {l : List Element} (h : ∀ c ∈ l, c.name = name) :
    named name l = l := by
  refine List.filter_eq_self.2 fun c hc => ?_
  exact beq_iff_eq.2 (h c hc)

theorem named_inSections {name : String} (h : ∀ c ∈ childrenInFirst e kind, c.name = name) :
    named name (e.inSections kind) =
      childrenInFirst e kind ++ named name (e.inLaterSections kind) := by
  have hfirst : named name (childrenInFirst e kind) = childrenInFirst e kind := named_eq_self h
  rw [inSections_eq, named, List.filter_append]
  exact congrArg (· ++ _) hfirst

variable {e : Element} {kind : String}

theorem childrenInFirst_of_child? {s : Element} (h : e.child? kind = some s) :
    childrenInFirst e kind = s.children := by
  rw [childrenInFirst, h]
  rfl

/-- What holds of the children of every first section holds if there is none. -/
theorem forall_mem_childrenInFirst {P : Element → Prop}
    (h : ∀ s, e.child? kind = some s → ∀ c ∈ s.children, P c) :
    ∀ c ∈ childrenInFirst e kind, P c := by
  cases hs : e.child? kind with
  | none => simp [childrenInFirst, hs]
  | some s =>
    rw [childrenInFirst_of_child? hs]
    exact h s hs

/-- The elements of a document that declare pipelines. -/
def pipelines (root : Element) : List Element :=
  (root.childrenNamed "pipelines").flatMap fun g => g.childrenNamed "pipeline"

/-- Those that declare materials. -/
def materials (root : Element) : List Element :=
  root.pipelines.flatMap fun p => p.inSections "materials"

/-- Those that declare stages. -/
def stages (root : Element) : List Element :=
  root.pipelines.flatMap fun p => p.childrenNamed "stage"

/-- Those that declare jobs, in the first section of their stage. -/
def jobs (root : Element) : List Element :=
  root.stages.flatMap fun s => childrenInFirst s "jobs"

end Element

theorem forall₂_append_left_iff {α β : Type} {R : α → β → Prop} {first later : List α}
    {l : List β} (h : List.Forall₂ R first l) :
    List.Forall₂ R (first ++ later) l ↔ later = [] := by
  constructor
  · intro hall
    have hlength := hall.length_eq
    rw [List.length_append, h.length_eq] at hlength
    exact List.length_eq_zero_iff.1 (by omega)
  · rintro rfl
    rwa [List.append_nil]

theorem filterMap_eq_of_forall₂ {α β : Type} {f : α → Option β} {l : List α} {l' : List β}
    (h : List.Forall₂ (fun a b => f a = some b) l l') : l.filterMap f = l' := by
  induction h with
  | nil => rfl
  | cons hab _ ih => rw [List.filterMap_cons_some hab, ih]

/-! ## What is read of one element -/

section Elements

variable {e : Element}

/-- All jobs of a stage have valid and different names, and are read in order. -/
structure Stage.HasAllJobs (e : Element) (s : Stage) : Prop where
  named : ∀ c ∈ Element.named "job" (e.inSections "jobs"), Named "name" c
  distinct : ((Element.named "job" (e.inSections "jobs")).flatMap nameKeys).Nodup
  read : List.Forall₂ Job.DeclaredBy (Element.named "job" (e.inSections "jobs")) s.jobs

def Job.HasAllTasks (e : Element) (j : Job) : Prop :=
  List.Forall₂ (fun c t => Task.ofElement c = t) (e.inSections "tasks") j.tasks

/-- The patterns that entries of a filter give. -/
def Material.patterns (entries : List Element) : List String :=
  (Element.named "ignore" entries).filterMap fun c => c.attribute? "pattern"

def Material.HasAllPatterns (e : Element) (m : Material) : Prop :=
  m.filter = patterns (e.inSections "filter")

def Environment.HasAllVariables (e : Element) (v : Environment) : Prop :=
  List.Forall₂ (fun c b => variableOfElement? c = some b)
    (Element.named "variable" (e.inSections "environmentvariables")) v.bindings

def Environment.HasAllPipelines (e : Element) (v : Environment) : Prop :=
  List.Forall₂ (fun c n => c.attribute? "name" = some n.text)
    (Element.named "pipeline" (e.inSections "pipelines")) v.pipelines

theorem Stage.hasAllJobs_iff {s : Stage} (h : ProperStage e) (hs : s.DeclaredBy e) :
    s.HasAllJobs e ↔ Element.named "job" (e.inLaterSections "jobs") = [] := by
  obtain ⟨jobs, hjobs, hdeclared⟩ := hs.jobs
  obtain ⟨jobs', hjobs', hproper⟩ := h.jobs
  obtain rfl : jobs = jobs' := Option.some.inj (hjobs.symm.trans hjobs')
  have hall : Element.named "job" (e.inSections "jobs") =
      jobs.children ++ Element.named "job" (e.inLaterSections "jobs") := by
    have hfirst := Element.childrenInFirst_of_child? hjobs
    rw [← hfirst]
    refine e.named_inSections "jobs" fun c hc => ?_
    rw [hfirst] at hc
    exact List.mem_singleton.1 (hproper.only c hc)
  constructor
  · intro hcomplete
    have hread := hcomplete.read
    rw [hall] at hread
    exact (forall₂_append_left_iff hdeclared).1 hread
  · intro hlater
    rw [hlater, List.append_nil] at hall
    constructor
    · rw [hall]
      exact hproper.named
    · rw [hall]
      exact hproper.distinct
    · rw [hall]
      exact hdeclared

theorem Job.hasAllTasks_iff {j : Job} (hj : j.DeclaredBy e) :
    j.HasAllTasks e ↔ e.inLaterSections "tasks" = [] := by
  rw [HasAllTasks, Element.inSections_eq]
  exact forall₂_append_left_iff hj.tasks

theorem Material.filter_eq_patterns {m : Material} (h : ProperMaterial e) (hm : m.DeclaredBy e) :
    m.filter = patterns (childrenInFirst e "filter") := by
  have hignore : Element.named "ignore" (childrenInFirst e "filter") =
      childrenInFirst e "filter" := Element.named_eq_self fun c hc => (h.entries c hc).1
  rw [patterns, hignore]
  exact (filterMap_eq_of_forall₂ hm.filter).symm

theorem Material.hasAllPatterns_iff {m : Material} (h : ProperMaterial e) (hm : m.DeclaredBy e) :
    m.HasAllPatterns e ↔ patterns (e.inLaterSections "filter") = [] := by
  have hall : patterns (e.inSections "filter") =
      m.filter ++ patterns (e.inLaterSections "filter") := by
    rw [filter_eq_patterns h hm, Element.inSections_eq, patterns, Element.named,
      List.filter_append, List.filterMap_append]
    rfl
  rw [HasAllPatterns, hall]
  exact List.self_eq_append_right

theorem Environment.hasAllVariables_iff {v : Environment} (h : ProperEnvironment e)
    (hv : v.DeclaredBy e) :
    v.HasAllVariables e ↔
      Element.named "variable" (e.inLaterSections "environmentvariables") = [] := by
  have honly : ∀ c ∈ childrenInFirst e "environmentvariables", c.name = "variable" :=
    Element.forall_mem_childrenInFirst fun s hs c hc =>
      List.mem_singleton.1 ((h.bindings s hs).only c hc)
  rw [HasAllVariables, Element.named_inSections e _ honly]
  exact forall₂_append_left_iff hv.bindings

theorem Environment.hasAllPipelines_iff {v : Environment} (h : ProperEnvironment e)
    (hv : v.DeclaredBy e) :
    v.HasAllPipelines e ↔ Element.named "pipeline" (e.inLaterSections "pipelines") = [] := by
  have honly : ∀ c ∈ childrenInFirst e "pipelines", c.name = "pipeline" :=
    Element.forall_mem_childrenInFirst fun s hs c hc =>
      List.mem_singleton.1 ((h.members s hs).only c hc)
  rw [HasAllPipelines, Element.named_inSections e _ honly]
  exact forall₂_append_left_iff hv.pipelines

end Elements

/-! ## Documents -/

section Documents

variable {supported : Nat} {root : Element}

theorem forall₂_pipelines (h : Proper supported root) (origin : RepositoryOrigin) :
    List.Forall₂ (fun e p => ProperPipeline e ∧ p.DeclaredBy e) root.pipelines
      ((Fragment.ofElement origin root).groups.flatMap Group.pipelines) := by
  have hgroups : List.Forall₂ (fun e g => ProperGroup e ∧ g.DeclaredBy e)
      (root.childrenNamed "pipelines") (Fragment.ofElement origin root).groups := by
    refine forall₂_filterMap fun e he => ?_
    obtain ⟨g, hg, hdeclared, -⟩ := exists_group origin (h.groups e he)
    exact ⟨g, hg, h.groups e he, hdeclared⟩
  refine List.rel_flatMap hgroups ?_
  rintro e g ⟨hproper, hdeclared⟩
  have hread := (List.forall₂_and_left ..).2 ⟨hproper.pipelines, hdeclared.pipelines⟩
  rwa [← childrenNamed_eq_children hproper.only] at hread

variable {ps : List Pipeline}

theorem forall₂_stages
    (h : List.Forall₂ (fun e p => ProperPipeline e ∧ p.DeclaredBy e) root.pipelines ps) :
    List.Forall₂ (fun e s => ProperStage e ∧ s.DeclaredBy e) root.stages
      (ps.flatMap Pipeline.stages) := by
  refine List.rel_flatMap h ?_
  rintro e p ⟨hproper, hdeclared⟩
  exact (List.forall₂_and_left ..).2 ⟨hproper.stages, hdeclared.stages⟩

theorem forall₂_materials
    (h : List.Forall₂ (fun e p => ProperPipeline e ∧ p.DeclaredBy e) root.pipelines ps) :
    List.Forall₂ (fun e m => ProperMaterial e ∧ m.DeclaredBy e) root.materials
      (ps.flatMap Pipeline.materials) := by
  refine List.rel_flatMap h ?_
  rintro e p ⟨hproper, hdeclared⟩
  obtain ⟨materials, hsection, hread⟩ := hdeclared.materials
  obtain ⟨materials', hsection', hmaterials⟩ := hproper.materials
  obtain rfl : materials = materials' := (List.cons.inj (hsection.symm.trans hsection')).1
  have hsole : e.inSections "materials" = materials.children := by
    rw [Element.inSections, hsection, List.flatMap_singleton]
  have hboth := (List.forall₂_and_left ..).2 ⟨hmaterials.proper, hread⟩
  rwa [← hsole] at hboth

theorem forall₂_jobs {ss : List Stage}
    (h : List.Forall₂ (fun e s => ProperStage e ∧ s.DeclaredBy e) root.stages ss) :
    List.Forall₂ Job.DeclaredBy root.jobs (ss.flatMap Stage.jobs) := by
  refine List.rel_flatMap h ?_
  rintro e s ⟨-, hdeclared⟩
  obtain ⟨jobs, hjobs, hread⟩ := hdeclared.jobs
  rwa [← Element.childrenInFirst_of_child? hjobs] at hread

theorem forall₂_environments_of_proper (h : Proper supported root) (origin : RepositoryOrigin) :
    List.Forall₂ (fun e v => ProperEnvironment e ∧ v.DeclaredBy e)
      (root.inSections "environments") (Fragment.ofElement origin root).environments := by
  refine (List.forall₂_and_left ..).2 ⟨fun e he => ?_, forall₂_environments h.environments⟩
  obtain ⟨s, hs, he⟩ := List.mem_flatMap.1 he
  exact (h.environments s hs).environments e he

end Documents

/-- Whether all that is declared in sections is checked and read off a document that the schema
accepts, element by element: the jobs of a stage, the tasks of a job, the patterns of a material, and
the variables and the pipelines of an environment. It is just where there are none in a section after
the first of its kind. -/
theorem complete_iff_of_accepted {supported : Nat} {file : String} {root : Element}
    (h : Validator.schema supported file root = .ok ()) (origin : RepositoryOrigin) :
    let f := Fragment.ofElement origin root
    let ps := f.groups.flatMap Group.pipelines
    let ss := ps.flatMap Pipeline.stages
    List.Forall₂ (fun e s =>
      s.HasAllJobs e ↔ Element.named "job" (e.inLaterSections "jobs") = []) root.stages ss ∧
    List.Forall₂ (fun e j =>
      j.HasAllTasks e ↔ e.inLaterSections "tasks" = []) root.jobs (ss.flatMap Stage.jobs) ∧
    List.Forall₂ (fun e m =>
      m.HasAllPatterns e ↔ Material.patterns (e.inLaterSections "filter") = [])
      root.materials (ps.flatMap Pipeline.materials) ∧
    List.Forall₂ (fun e v =>
      (v.HasAllVariables e ↔
        Element.named "variable" (e.inLaterSections "environmentvariables") = []) ∧
      (v.HasAllPipelines e ↔ Element.named "pipeline" (e.inLaterSections "pipelines") = []))
      (root.inSections "environments") f.environments := by
  intro f ps ss
  have hproper := proper_of_accepted h
  have hpipelines := forall₂_pipelines hproper origin
  have hstages := forall₂_stages hpipelines
  refine ⟨?_, ?_, ?_, ?_⟩
  · exact hstages.imp fun e s hs => Stage.hasAllJobs_iff hs.1 hs.2
  · exact (forall₂_jobs hstages).imp fun e j hj => Job.hasAllTasks_iff hj
  · exact (forall₂_materials hpipelines).imp fun e m hm => Material.hasAllPatterns_iff hm.1 hm.2
  · refine (forall₂_environments_of_proper hproper origin).imp fun e v hv => ?_
    exact ⟨Environment.hasAllVariables_iff hv.1 hv.2, Environment.hasAllPipelines_iff hv.1 hv.2⟩

/-- A section of jobs with the given attributes. -/
def jobsSection (jobs : List (List (String × String))) : Element where
  name := "jobs"
  children := jobs.map fun attributes => { name := "job", attributes }

/-- A document with one stage, in which sections of jobs stand. -/
def documentOf (sections : List Element) : Element :=
  let element (name : String) (attributes : List (String × String)) (children : List Element) :=
    ({ name, attributes, children } : Element)
  let materials := element "materials" [] [element "git" [("url", "https://apps.example")] []]
  let stage := element "stage" [("name", "test")] sections
  let pipeline := element "pipeline" [("name", "build")] [materials, stage]
  element "cruise" [] [element "pipelines" [("group", "apps")] [pipeline]]

/-- The stages that are read off a document. -/
def readStages (root : Element) : List Stage :=
  ((Fragment.ofElement sampleOrigin root).groups.flatMap Group.pipelines).flatMap Pipeline.stages

/-- With one section of jobs, all of them are read. -/
theorem jobs_of_only_section_are_read :
    let root := documentOf [jobsSection [[("name", "unit")], [("name", "lint")]]]
    Validator.schema 139 "ci.gocd.xml" root = .ok () ∧
      List.Forall₂ (fun e s => Stage.HasAllJobs e s) root.stages (readStages root) := by
  intro root
  have haccepted : Validator.schema 139 "ci.gocd.xml" root = .ok () := by decide +kernel
  have hlater : ∀ e ∈ root.stages, Element.named "job" (e.inLaterSections "jobs") = [] := by
    decide +kernel
  obtain ⟨hstages, -⟩ := complete_iff_of_accepted haccepted sampleOrigin
  have hboth := (List.forall₂_and_left ..).2 ⟨hlater, hstages⟩
  exact ⟨haccepted, hboth.imp fun e s hs => hs.2.2 hs.1⟩

/-- The second section holds a job whose name is not valid and one that has no name. The document is
accepted, and those jobs are lost. -/
theorem jobs_of_later_section_are_lost :
    let root := documentOf
      [jobsSection [[("name", "unit")]], jobsSection [[("name", "../lint")], []]]
    Validator.schema 139 "ci.gocd.xml" root = .ok () ∧
      (readStages root).map (fun s => s.jobs.map Job.name) = [[⟨"unit"⟩]] ∧
      ¬ List.Forall₂ (fun e s => Stage.HasAllJobs e s) root.stages (readStages root) := by
  refine ⟨by decide +kernel, by decide +kernel, fun hall => ?_⟩
  -- were all of them read, there would be as many jobs as elements
  have hjobs := List.rel_flatMap hall fun e s hs => hs.read
  exact absurd hjobs.length_eq (by decide +kernel)

end PipelineSync
