import PipelineSync.Dashboard.Filter
import PipelineSync.Proofs.Dashboard.Board

/-!
# Histories as entries show them

An entry shows every run with all configured stages: those that the run does not know are put behind
its own, as stages that have not run. `Instance.missing` says which stages these are and
`foldl_addPending_eq` that completing adds just them. So completing hides nothing of what has run:
the latest stage stays what it is, and a filter judges an entry by the history alone
(`Services.entry_completes`).
-/

namespace PipelineSync

namespace Instance

/-! ## Stages that are missing -/

/-- Whether one of the stages of a run has the name of a configured stage, in whatever case. -/
def knows (runs : List StageRun) (s : Stage) : Bool := runs.any fun r => s.name.same ⟨r.name⟩

/-- The configured stages that a run does not know, each name once and as it is first spelled. -/
def missing (runs : List StageRun) (ss : List Stage) : List Stage :=
  (ss.filter fun s => !knows runs s).eraseDupsBy fun a b => a.name.same b.name

variable {runs : List StageRun} {ss : List Stage} {s : Stage}

theorem knows_iff : knows runs s = true ↔ ∃ r ∈ runs, s.name.same ⟨r.name⟩ = true :=
  List.any_eq_true

theorem knows_append_pending (runs : List StageRun) (ss : List Stage) (s : Stage) :
    knows (runs ++ ss.map fun c => .pending c.name) s =
      (knows runs s || ss.any fun c => c.name.key == s.name.key) := by
  unfold knows
  rw [List.any_append, List.any_map]
  congr 2
  funext c
  exact BEq.comm

theorem any_missing (runs : List StageRun) (ss : List Stage) (s : Stage) :
    ((missing runs ss).any fun c => c.name.key == s.name.key) =
      (ss.filter fun c => !knows runs c).any fun c => c.name.key == s.name.key :=
  any_eraseDupsBy (fun c : Stage => c.name.key) _ _

theorem missing_append_singleton (runs : List StageRun) (ss : List Stage) (s : Stage) :
    missing runs (ss ++ [s]) =
      if knows (runs ++ (missing runs ss).map fun c => .pending c.name) s then missing runs ss
      else missing runs ss ++ [s] := by
  rw [knows_append_pending, any_missing]
  unfold missing
  rw [List.filter_append]
  by_cases hs : knows runs s = true
  · simp [hs]
  · have hself : [s].filter (fun c => !knows runs c) = [s] := by simp [hs]
    rw [hself, eq_false_of_ne_true hs, Bool.false_or]
    exact eraseDupsBy_append_singleton (fun c : Stage => c.name.key) _ s

/-- Completing adds what is missing, and nothing else. -/
theorem foldl_addPending_eq (runs : List StageRun) (ss : List Stage) :
    ss.foldl addPending runs = runs ++ (missing runs ss).map fun c => .pending c.name := by
  induction ss using List.reverseRecOn with
  | nil => simp [missing]
  | append_singleton ss s ih =>
    rw [List.foldl_append, List.foldl_cons, List.foldl_nil, ih, missing_append_singleton]
    change (if knows _ s then _ else _) = _
    split
    · rfl
    · simp

theorem missing_sublist (runs : List StageRun) (ss : List Stage) :
    (missing runs ss).Sublist ss :=
  (eraseDupsBy_sublist _).trans List.filter_sublist

theorem missing_distinct (runs : List StageRun) (ss : List Stage) :
    (missing runs ss).Pairwise fun a b => ¬ a.name.same b.name = true := by
  simp only [Name.same_iff]
  exact pairwise_eraseDupsBy (fun c : Stage => c.name.key) _

theorem knows_congr {a b : Stage} (h : a.name.same b.name = true) : knows runs a = knows runs b := by
  unfold knows Name.same
  rw [Name.same_iff.1 h]

/-- A configured name is added if, and only if, no stage of the run has it. -/
theorem exists_missing_iff (hs : s ∈ ss) :
    (∃ c ∈ missing runs ss, c.name.same s.name = true) ↔ ¬ knows runs s = true := by
  have hany : (∃ c ∈ missing runs ss, c.name.same s.name = true) ↔
      ∃ c ∈ ss.filter (fun c => !knows runs c), c.name.same s.name = true := by
    have h := any_missing runs ss s
    rwa [Bool.eq_iff_iff, List.any_eq_true, List.any_eq_true] at h
  rw [hany]
  constructor
  · rintro ⟨c, hc, hsame⟩
    rw [← knows_congr hsame]
    simpa using (List.mem_filter.1 hc).2
  · intro hnew
    refine ⟨s, List.mem_filter.2 ⟨hs, ?_⟩, Name.same_self _⟩
    simpa using hnew

/-! ## Completed runs -/

variable {p : Pipeline} {i : Instance}

theorem stages_complete (p : Pipeline) (i : Instance) :
    (complete p i).stages =
      i.stages ++ (missing i.stages p.stages).map fun c => .pending c.name :=
  foldl_addPending_eq i.stages p.stages

theorem knows_complete (hs : s ∈ p.stages) : knows (complete p i).stages s = true := by
  rw [stages_complete, knows_append_pending, Bool.or_eq_true, List.any_eq_true]
  by_cases hknown : knows i.stages s = true
  · exact Or.inl hknown
  · obtain ⟨c, hc, hsame⟩ := (exists_missing_iff hs).2 hknown
    exact Or.inr ⟨c, hc, hsame⟩

/-- A run that knows all configured stages is complete. -/
theorem complete_eq_self (h : ∀ s ∈ p.stages, knows i.stages s = true) : complete p i = i := by
  have hnone : missing i.stages p.stages = [] := by
    have hfilter : p.stages.filter (fun s => !knows i.stages s) = [] := by
      simpa [List.filter_eq_nil_iff] using h
    unfold missing
    rw [hfilter, List.eraseDupsBy_nil]
  unfold complete
  rw [foldl_addPending_eq, hnone, List.map_nil, List.append_nil]

theorem complete_complete (p : Pipeline) (i : Instance) :
    complete p (complete p i) = complete p i :=
  complete_eq_self fun _ hs => knows_complete hs

/-- Nothing that is added has run. -/
theorem latestStage?_complete (p : Pipeline) (i : Instance) :
    (complete p i).latestStage? = i.latestStage? := by
  unfold latestStage?
  rw [stages_complete, List.reverse_append, List.find?_append]
  have hnone : ((missing i.stages p.stages).map fun c => StageRun.pending c.name).reverse.find?
      (fun r => r.status ≠ .notRun) = none := by
    simp [List.find?_eq_none, StageRun.pending]
  rw [hnone, Option.none_or]

theorem latestStage?_placeholder (kind : Kind) (p : Pipeline) :
    (placeholder kind p).latestStage? = none := by
  simp [latestStage?, placeholder, List.find?_eq_none, StageRun.pending]

end Instance

/-! ## Filters -/

namespace DashboardFilter

/-- What a filter selects, by whether a pipeline is paused and by the latest stage that has run. -/
def Selects (f : DashboardFilter) (isPaused : Bool) (latest : Option StageRun) : Prop :=
  f.states = [] ∨ (isPaused = true ∧ .paused ∈ f.states) ∨
    ∃ r state, latest = some r ∧ StateFilter.ofStatus? r.status = some state ∧ state ∈ f.states

theorem accepts_iff {f : DashboardFilter} {e : DashboardEntry} :
    f.accepts e = true ↔ f.Selects e.pauseInfo.isPaused e.latestStage? := by
  unfold accepts Selects
  cases e.latestStage? with
  | none => simp
  | some r => cases hstate : StateFilter.ofStatus? r.status <;> simp [hstate, or_assoc]

theorem selects_append {a b : List StateFilter} (ha : a ≠ []) (hb : b ≠ []) {isPaused : Bool}
    {latest : Option StageRun} :
    (⟨a ++ b⟩ : DashboardFilter).Selects isPaused latest ↔
      (⟨a⟩ : DashboardFilter).Selects isPaused latest ∨
        (⟨b⟩ : DashboardFilter).Selects isPaused latest := by
  unfold Selects
  simp only [List.append_eq_nil_iff, List.mem_append, ha, hb, false_and, false_or]
  constructor
  · rintro (⟨hpaused, h | h⟩ | ⟨r, state, hr, hstate, h | h⟩)
    · exact Or.inl (Or.inl ⟨hpaused, h⟩)
    · exact Or.inr (Or.inl ⟨hpaused, h⟩)
    · exact Or.inl (Or.inr ⟨r, state, hr, hstate, h⟩)
    · exact Or.inr (Or.inr ⟨r, state, hr, hstate, h⟩)
  · rintro ((⟨hpaused, h⟩ | ⟨r, state, hr, hstate, h⟩) | ⟨hpaused, h⟩ | ⟨r, state, hr, hstate, h⟩)
    · exact Or.inl ⟨hpaused, Or.inl h⟩
    · exact Or.inr ⟨r, state, hr, hstate, Or.inl h⟩
    · exact Or.inl ⟨hpaused, Or.inr h⟩
    · exact Or.inr ⟨r, state, hr, hstate, Or.inr h⟩

end DashboardFilter

/-! ## Entries -/

namespace Services

variable {m : Type → Type} (s : Services m) (group : String) (p : Pipeline)
  (permissions : Option Permissions) {history : List Instance}

/-- The lock of a pipeline, as all its runs show it. -/
def lock : LockStatus :=
  { isLockable := p.isLockable
    isLocked := s.isLocked p.name.text
    canUnlock := s.canUnlock p.name.text }

theorem instances_entry (h : history ≠ []) :
    (s.entry group p permissions history).instances =
      history.map fun i => Instance.complete p { i with lock := s.lock p } := by
  have hempty : history.isEmpty = false := by simpa using h
  simp only [entry, hempty]
  rfl

theorem exists_instances_entry_nil : ∃ kind, (s.entry group p permissions []).instances =
    [Instance.complete p { Instance.placeholder kind p with lock := s.lock p }] :=
  ⟨_, rfl⟩

/-- Every run that is shown is complete and shows the lock. -/
theorem exists_of_mem_instances {i : Instance}
    (h : i ∈ (s.entry group p permissions history).instances) :
    ∃ j : Instance, i = Instance.complete p { j with lock := s.lock p } := by
  by_cases hnil : history = []
  · subst hnil
    obtain ⟨kind, hshown⟩ := s.exists_instances_entry_nil group p permissions
    rw [hshown] at h
    exact ⟨_, List.mem_singleton.1 h⟩
  · rw [instances_entry s group p permissions hnil] at h
    obtain ⟨j, -, hj⟩ := List.mem_map.1 h
    exact ⟨j, hj.symm⟩

/-- An entry is made of its history only by way of the runs it shows. -/
theorem entry_congr {others : List Instance}
    (h : (s.entry group p permissions history).instances =
      (s.entry group p permissions others).instances) :
    s.entry group p permissions history = s.entry group p permissions others := by
  unfold entry at h ⊢
  dsimp only at h ⊢
  rw [h]

theorem entry_instances (history : List Instance) :
    s.entry group p permissions (s.entry group p permissions history).instances =
      s.entry group p permissions history := by
  apply entry_congr
  rw [instances_entry s group p permissions (s.entry_instances_ne_nil group p permissions history)]
  conv_rhs => rw [← List.map_id (s.entry group p permissions history).instances]
  apply List.map_congr_left
  intro i hi
  obtain ⟨j, rfl⟩ := s.exists_of_mem_instances group p permissions hi
  exact Instance.complete_complete p { j with lock := s.lock p }

theorem latestStage?_entry (history : List Instance) :
    (s.entry group p permissions history).latestStage? =
      history.head?.bind Instance.latestStage? := by
  unfold DashboardEntry.latestStage? DashboardEntry.latestInstance?
  by_cases hnil : history = []
  · subst hnil
    obtain ⟨kind, hshown⟩ := s.exists_instances_entry_nil group p permissions
    rw [hshown, List.head?_cons, Option.bind_some, Instance.latestStage?_complete]
    exact Instance.latestStage?_placeholder kind p
  · rw [instances_entry s group p permissions hnil, List.head?_map, Option.bind_map]
    congr 1
    funext i
    exact Instance.latestStage?_complete p { i with lock := s.lock p }

/-- An entry shows the runs of a history as they are and in their order, each with the lock of the
pipeline, and with the configured stages that it does not know behind its own: as stages that have
not run, in the order of the configuration and each name once. All configured stages are shown then,
the latest stage of every run is what it was, and completing the runs again changes nothing. So a
filter judges an entry by whether the pipeline is paused and by the latest stage of the first run of
the history; and for two choices of states it shows what it shows for one of them or the other. -/
theorem entry_completes (history : List Instance) :
    let e := s.entry group p permissions history
    (history ≠ [] →
      e.instances = history.map (fun i =>
        { i with
          lock := s.lock p
          stages := i.stages ++
            (Instance.missing i.stages p.stages).map fun c => .pending c.name }) ∧
      e.instances.map Instance.latestStage? = history.map Instance.latestStage?) ∧
    (∀ i ∈ history,
      let added := Instance.missing i.stages p.stages
      added.Sublist p.stages ∧
      (added.Pairwise fun a b => ¬ a.name.same b.name = true) ∧
      ∀ c ∈ p.stages, (∃ a ∈ added, a.name.same c.name = true) ↔
        ¬ ∃ r ∈ i.stages, c.name.same ⟨r.name⟩ = true) ∧
    (∀ i ∈ e.instances, ∀ c ∈ p.stages, ∃ r ∈ i.stages, c.name.same ⟨r.name⟩ = true) ∧
    s.entry group p permissions e.instances = e ∧
    (∀ f : DashboardFilter, f.accepts e = true ↔
      f.Selects (s.pauseInfo p.name.text).isPaused
        (history.head?.bind Instance.latestStage?)) ∧
    ∀ a b : List StateFilter, a ≠ [] → b ≠ [] →
      ((⟨a ++ b⟩ : DashboardFilter).accepts e = true ↔
        (⟨a⟩ : DashboardFilter).accepts e = true ∨
          (⟨b⟩ : DashboardFilter).accepts e = true) := by
  intro e
  refine ⟨fun hne => ⟨?_, ?_⟩, fun i _ => ⟨?_, ?_, ?_⟩, ?_, ?_, ?_, ?_⟩
  · rw [instances_entry s group p permissions hne]
    apply List.map_congr_left
    intro i _
    unfold Instance.complete
    rw [Instance.foldl_addPending_eq]
  · rw [instances_entry s group p permissions hne, List.map_map]
    apply List.map_congr_left
    intro i _
    exact Instance.latestStage?_complete p { i with lock := s.lock p }
  · exact Instance.missing_sublist _ _
  · exact Instance.missing_distinct _ _
  · intro c hc
    rw [← Instance.knows_iff]
    exact Instance.exists_missing_iff hc
  · intro i hi c hc
    obtain ⟨j, rfl⟩ := s.exists_of_mem_instances group p permissions hi
    exact Instance.knows_iff.1 (Instance.knows_complete hc)
  · exact s.entry_instances group p permissions history
  · intro f
    rw [DashboardFilter.accepts_iff, s.latestStage?_entry]
    rfl
  · intro a b ha hb
    simp only [DashboardFilter.accepts_iff]
    exact DashboardFilter.selects_append ha hb

/-- A pipeline that configures a stage under two spellings. -/
def deployPipeline : Pipeline where
  name := ⟨"Deploy"⟩
  stages := [⟨⟨"build"⟩, .success, []⟩, ⟨⟨"Test"⟩, .success, []⟩, ⟨⟨"TEST"⟩, .manual, []⟩]

/-- A run that knows one of the configured stages, and one that is not configured any more. -/
def deployRun : Instance :=
  .ofRun "Deploy" 3 "3" [⟨"lint", 1, .passed⟩, ⟨"BUILD", 1, .failed⟩]

theorem entry_completes_deployRun :
    let e := loggingServices.entry "infra" deployPipeline none [deployRun]
    e.instances.map (fun i => i.stages.map StageRun.name) = [["lint", "BUILD", "Test"]] ∧
      e.instances.map Instance.latestStage? = [some ⟨"BUILD", 1, .failed⟩] ∧
      loggingServices.entry "infra" deployPipeline none e.instances = e ∧
      (⟨[.paused, .failing]⟩ : DashboardFilter).accepts e = true := by
  intro e
  obtain ⟨hshown, hadded, -, hagain, haccepts, happend⟩ :=
    loggingServices.entry_completes "infra" deployPipeline none [deployRun]
  obtain ⟨hinstances, hlatest⟩ := hshown (by decide)
  refine ⟨?_, hlatest, hagain, ?_⟩
  · rw [hinstances]
    decide +kernel
  · refine (happend [.paused] [.failing] (by decide) (by decide)).2 (Or.inr ?_)
    refine (haccepts ⟨[.failing]⟩).2 (Or.inr (Or.inr ?_))
    exact ⟨⟨"BUILD", 1, .failed⟩, .failing, rfl, rfl, List.mem_singleton_self _⟩

end Services

end PipelineSync
