import Mathlib.Data.List.Basic
import PipelineSync.Dashboard.Board
import PipelineSync.Proofs.Merge.Content

/-!
# The board and its entries

The board asks for the history of all pipelines at once and takes each history out of the answer as
it comes to the pipeline; an entry that is asked for alone is looked up under the name as it is
spelled. Both come to the same: `board_eq_entries`.

The services may do more than answer (they keep a log, say), so equality of the two is about what
they answer: `Answers x a` says that `x` has no other answer than `a`.
-/

namespace PipelineSync

/-- Whatever else a look-up does, its answer is `a`. -/
def Answers {m : Type → Type} [Functor m] {α : Type} (x : m α) (a : α) : Prop :=
  (fun _ => a) <$> x = x

namespace Answers

variable {m : Type → Type} [Monad m] [LawfulMonad m] {α β : Type}

theorem pure (a : α) : Answers (Pure.pure a : m α) a :=
  map_pure _ _

theorem bind {x : m α} {f : α → m β} {a : α} {b : β} (hx : Answers x a)
    (hf : Answers (f a) b) : Answers (x >>= f) b := by
  have hfa : x >>= f = x >>= fun _ => f a := by
    conv_lhs => rw [← hx, map_eq_pure_bind]
    simp
  unfold Answers at hf ⊢
  rw [hfa, map_bind, hf]

theorem mapM {f : α → m β} {g : α → β} (l : List α) (h : ∀ a, Answers (f a) (g a)) :
    Answers (l.mapM f) (l.map g) := by
  induction l with
  | nil => exact pure []
  | cons a l ih =>
    rw [List.mapM_cons, List.map_cons]
    apply (h a).bind
    apply ih.bind
    exact pure _

end Answers

/-! ## Tables -/

namespace NameTable

variable {α : Type} {t : NameTable α} {a b : Name}

/-- Taking a name away leaves the values of the other names. -/
theorem get?_erase_of_ne (h : ¬ a.same b = true) : (t.erase a).get? b = t.get? b := by
  have hother : (fun e : Name × α => decide ((!e.1.same a) = true ∧ e.1.same b = true)) =
      fun e => e.1.same b := by
    funext e
    by_cases heb : e.1.same b = true
    · have hea : ¬ e.1.same a = true := fun hea => h (Name.same_trans (Name.same_symm hea) heb)
      simp [hea, heb]
    · simp [heb]
  unfold get? erase
  rw [← List.filter_reverse, List.find?_filter, hother]

/-- A table of different names has the value of each of them. -/
theorem get?_map_of_distinct {names : List Name} {value : Name → α}
    (hnames : names.Pairwise fun a b => ¬ a.same b = true) (h : a ∈ names) :
    get? (names.map fun n => (n, value n)) a = some (value a) := by
  have hunique : ∀ e ∈ (names.map fun n => (n, value n)).reverse, e.1.same a = true →
      e = (a, value a) := by
    intro e he hea
    obtain ⟨b, hb, rfl⟩ := List.mem_map.1 (List.mem_reverse.1 he)
    have hsymm : Std.Symm fun a b : Name => ¬ a.same b = true :=
      ⟨fun a b hab hba => hab (Name.same_symm hba)⟩
    have hba : b = a := by
      by_contra hne
      exact hnames.forall hb h hne hea
    rw [hba]
  have hmem : (a, value a) ∈ (names.map fun n => (n, value n)).reverse := by simpa using h
  unfold get?
  rw [find?_eq_some_of_unique hmem (Name.same_self a) hunique, Option.map_some]

end NameTable

namespace Services

variable {m : Type → Type} (s : Services m)

/-! ## Entries -/

theorem entry_instances_ne_nil (group : String) (p : Pipeline) (permissions : Option Permissions)
    (history : List Instance) : (s.entry group p permissions history).instances ≠ [] := by
  unfold entry
  by_cases h : history.isEmpty = true
  · simp [h]
  · have hne : history ≠ [] := by simpa using h
    simp [h, hne]

/-- With a history for each of the pipelines, and no two of one name, all histories are found, each
by its own pipeline. -/
theorem entries_eq_map (permissions : NameTable Permissions) {look : String → List Instance}
    {histories : NameTable (List Instance)} {ps : List (Group × Pipeline)}
    (hfound : ∀ e ∈ ps, histories.get? e.2.name = some (look e.2.name.text))
    (hnames : ps.Pairwise fun a b => ¬ a.2.name.same b.2.name = true) :
    s.entries permissions histories ps =
      ps.map fun e =>
        s.entry e.1.name e.2 (permissions.get? e.2.name) (look e.2.name.text) := by
  induction ps generalizing histories with
  | nil => rfl
  | cons e ps ih =>
    obtain ⟨g, p⟩ := e
    obtain ⟨hp, hps⟩ := List.pairwise_cons.1 hnames
    have hrest : ∀ e ∈ ps, (histories.erase p.name).get? e.2.name =
        some (look e.2.name.text) := by
      intro e he
      rw [NameTable.get?_erase_of_ne (hp e he)]
      exact hfound e (List.mem_cons_of_mem _ he)
    rw [entries, hfound (g, p) List.mem_cons_self, Option.getD_some, ih hrest hps, List.map_cons]

variable [Monad m] [LawfulMonad m]

/-- What services answer that look up the history of many pipelines one after the other, and the
permissions on a pipeline in the table of all permissions. -/
structure Consistent (history : String → List Instance) (permissions : NameTable Permissions) :
    Prop where
  batch : s.batchHistory = historyOneByOne s.history
  history : ∀ name, Answers (s.history name) (history name)
  all : Answers s.allPermissions permissions
  one : ∀ name, Answers (s.permissions name) (permissions.get? ⟨name⟩)

variable {s} {history : String → List Instance} {permissions : NameTable Permissions}

theorem Consistent.boardEntry (h : s.Consistent history permissions) (p : Pipeline)
    (group : String) :
    Answers (s.boardEntry p group)
      (s.entry group p (permissions.get? p.name) (history p.name.text)) := by
  unfold Services.boardEntry
  apply (h.one p.name.text).bind
  apply (h.history p.name.text).bind
  exact Answers.pure _

theorem Consistent.batchHistory (h : s.Consistent history permissions) (names : List Name) :
    Answers (s.batchHistory names) (names.map fun n => (n, history n.text)) := by
  rw [h.batch]
  apply Answers.mapM
  intro n
  apply (h.history n.text).bind
  exact Answers.pure _

theorem Consistent.board (h : s.Consistent history permissions) {c : Configuration}
    (hnames : c.pipelines.Pairwise fun p q => ¬ p.name.same q.name = true) :
    Answers (s.board c) (c.groups.flatMap fun g => g.pipelines.map fun p =>
      s.entry g.name p (permissions.get? p.name) (history p.name.text)) := by
  have hpairs : (c.groups.flatMap fun g => g.pipelines.map fun p => (g, p)).map Prod.snd =
      c.pipelines := by
    simp [Configuration.pipelines, List.map_flatMap, Function.comp_def]
  have hfound : ∀ e ∈ c.groups.flatMap fun g => g.pipelines.map fun p => (g, p),
      NameTable.get? ((c.pipelines.map Pipeline.name).map fun n => (n, history n.text))
        e.2.name = some (history e.2.name.text) := by
    intro e he
    have hmem : e.2 ∈ c.pipelines := hpairs ▸ List.mem_map_of_mem he
    exact NameTable.get?_map_of_distinct (List.pairwise_map.2 hnames)
      (List.mem_map_of_mem hmem)
  unfold Services.board
  apply h.all.bind
  apply (h.batchHistory _).bind
  rw [← hpairs] at hnames
  rw [s.entries_eq_map permissions hfound (List.pairwise_map.1 hnames), List.map_flatMap]
  simp only [List.map_map, Function.comp_def]
  exact Answers.pure _

/-- The board is, in the order of the configuration, what the pipelines are shown as one by one: each
pipeline has its entry and no entry is without instances, and a pipeline of which the permission
service knows nothing is nobody's, on the board and alone. -/
theorem board_eq_entries (h : s.Consistent history permissions) {c : Configuration}
    (hnames : c.pipelines.Pairwise fun p q => ¬ p.name.same q.name = true) :
    ∃ shown : Pipeline → String → DashboardEntry,
      (∀ p group, Answers (s.boardEntry p group) (shown p group)) ∧
      Answers (s.board c) (c.groups.flatMap fun g => g.pipelines.map fun p => shown p g.name) ∧
      (c.groups.flatMap fun g => g.pipelines.map fun p => (shown p g.name).name) =
        c.pipelines.map (·.name.text) ∧
      (∀ p group, (shown p group).group = group ∧ (shown p group).instances ≠ []) ∧
      ∀ p group, permissions.get? p.name = none → (shown p group).permissions = .noOne := by
  refine ⟨fun p group => s.entry group p (permissions.get? p.name) (history p.name.text),
    h.boardEntry, h.board hnames, ?_, ?_, ?_⟩
  · rw [Configuration.pipelines, List.map_flatMap]
    rfl
  · intro p group
    exact ⟨rfl, s.entry_instances_ne_nil group p _ _⟩
  · intro p group hp
    simp only [entry, hp, Option.getD_none]

end Services

/-- Merging makes sure that no two pipelines have names that differ only in case. -/
theorem merge_names_distinct {localConfig : LocalConfiguration}
    {partials : KeyMap Fingerprint Partial} {c : Configuration}
    (h : merge localConfig partials = .ok c) :
    c.pipelines.Pairwise fun p q => ¬ p.name.same q.name = true := by
  obtain ⟨m, hm, -, rfl⟩ := merge_holds h
  exact hm.pipelines_distinct

/-- Services that keep a log of the questions. Of `dns` there is no history and no permissions. -/
def loggingServices : Services (StateM (List String)) :=
  let history (name : String) : StateM (List String) (List Instance) := do
    modify (· ++ ["history " ++ name])
    return if name = "Deploy" then [.ofRun name 3 "3" []] else []
  { history
    batchHistory := Services.historyOneByOne history
    allPermissions := do
      modify (· ++ ["all permissions"])
      return [(⟨"DEPLOY"⟩, .everyone)]
    permissions name := do
      modify (· ++ ["permissions " ++ name])
      return NameTable.get? [(⟨"DEPLOY"⟩, .everyone)] ⟨name⟩
    isTriggered name := name = "dns"
    isLocked _ := false
    canUnlock _ := true
    pauseInfo _ := {}
    canTrigger _ := true }

/-- A local configuration of two pipelines. -/
def boardLocal : LocalConfiguration where
  groups := [⟨"infra", [{ name := ⟨"Deploy"⟩ }, { name := ⟨"dns"⟩ }]⟩]

theorem board_eq_entries_logging :
    ∃ c, merge boardLocal ∅ = .ok c ∧
      ∃ shown : Pipeline → String → DashboardEntry,
        (∀ log, ((loggingServices.boardEntry { name := ⟨"dns"⟩ } "infra").run log).1 =
          shown { name := ⟨"dns"⟩ } "infra") ∧
        (∀ log, ((loggingServices.board c).run log).1 =
          [shown { name := ⟨"Deploy"⟩ } "infra", shown { name := ⟨"dns"⟩ } "infra"]) ∧
        (shown { name := ⟨"dns"⟩ } "infra").instances ≠ [] ∧
        (shown { name := ⟨"dns"⟩ } "infra").permissions = .noOne := by
  have hservices : loggingServices.Consistent
      (fun name => if name = "Deploy" then [.ofRun name 3 "3" []] else [])
      [(⟨"DEPLOY"⟩, .everyone)] :=
    ⟨rfl, fun _ => rfl, rfl, fun _ => rfl⟩
  have hmerge : merge boardLocal ∅ = .ok ⟨boardLocal.groups, [], ∅⟩ := rfl
  refine ⟨_, hmerge, ?_⟩
  obtain ⟨shown, hentry, hboard, -, hinstances, hnobody⟩ :=
    Services.board_eq_entries hservices (merge_names_distinct hmerge)
  refine ⟨shown, fun log => ?_, fun log => ?_, (hinstances _ _).2, hnobody _ _ (by decide)⟩
  · exact congrArg Prod.fst (congrFun (hentry _ _) log).symm
  · exact congrArg Prod.fst (congrFun hboard log).symm

end PipelineSync
