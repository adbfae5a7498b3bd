import PipelineSync.Fragment.Schema
import PipelineSync.Proofs.Lists
import Mathlib.Data.List.Nodup

/-!
# What the schema accepts

For each check of the schema a predicate on elements says when it passes, whatever path it would
report. `check_eq_ok_iff` puts them together for a whole document. Checks that tell the names and
materials of siblings apart have one rule in common, `Distinguishes.foldlM`.
-/

namespace PipelineSync.Schema

/-! ## Checks that tell siblings apart -/

section Distinguishes

variable {α κ ε : Type} {check : List κ → α → Except ε (List κ)} {good : α → Prop}
  {keys : α → List κ}

/-- A check passes what is good, if its keys differ from each other and from those seen before. -/
def Distinguishes (check : List κ → α → Except ε (List κ)) (good : α → Prop)
    (keys : α → List κ) : Prop :=
  ∀ seen a seen', check seen a = .ok seen' ↔
    good a ∧ (keys a).Nodup ∧ (keys a).Disjoint seen ∧ seen' = (keys a).reverse ++ seen

theorem Distinguishes.foldlM (h : Distinguishes check good keys) :
    Distinguishes (fun seen (l : List α) => l.foldlM check seen) (fun l => ∀ a ∈ l, good a)
      (fun l => l.flatMap keys) := by
  intro seen l seen'
  dsimp only
  induction l generalizing seen with
  | nil =>
    constructor
    · intro hok
      obtain rfl : seen = seen' := Except.ok.inj hok
      simp
    · rintro ⟨-, -, -, rfl⟩
      rfl
  | cons a l ih =>
    rw [List.foldlM_cons, bind_eq_ok_iff, List.forall_mem_cons, List.flatMap_cons,
      List.nodup_append', List.disjoint_append_left, List.reverse_append, List.append_assoc]
    constructor
    · rintro ⟨seen₁, hcheck, hfold⟩
      obtain ⟨hgood, hnodup, hseen, rfl⟩ := (h seen a seen₁).1 hcheck
      obtain ⟨hall, hnodup', hseen', rfl⟩ := (ih _).1 hfold
      have hdisjoint := List.disjoint_append_right.1 hseen'
      have hapart : (keys a).Disjoint (l.flatMap keys) := by
        intro k hk hk'
        exact hdisjoint.1 hk' (List.mem_reverse.2 hk)
      exact ⟨⟨hgood, hall⟩, ⟨hnodup, hnodup', hapart⟩, ⟨hseen, hdisjoint.2⟩, rfl⟩
    · rintro ⟨⟨hgood, hall⟩, ⟨hnodup, hnodup', hapart⟩, ⟨hseen, hseen'⟩, rfl⟩
      refine ⟨_, (h seen a _).2 ⟨hgood, hnodup, hseen, rfl⟩, (ih _).2 ⟨hall, hnodup', ?_, rfl⟩⟩
      refine List.disjoint_append_right.2 ⟨?_, hseen'⟩
      intro k hk hk'
      exact hapart (List.mem_reverse.1 hk') hk

end Distinguishes

/-! ## Names and children -/

section Names

variable {path kind key name : String} {e : Element} {rule : Rule}

theorem require_eq_ok_iff {condition : Bool} {u : Unit} :
    require condition path rule = .ok u ↔ condition = true := by
  cases condition with
  | false => exact ⟨nofun, nofun⟩
  | true => exact ⟨fun _ => rfl, fun _ => rfl⟩

theorem onlyChildren_eq_ok_iff {allowed : List String} {u : Unit} :
    onlyChildren path e allowed = .ok u ↔ ∀ c ∈ e.children, c.name ∈ allowed := by
  have hnone : (e.children.find? fun c => !allowed.contains c.name) = none ↔
      ∀ c ∈ e.children, c.name ∈ allowed := by
    simp [List.find?_eq_none]
  rw [onlyChildren, ← hnone]
  cases e.children.find? fun c => !allowed.contains c.name with
  | none => exact ⟨fun _ => rfl, fun _ => rfl⟩
  | some c => exact ⟨nofun, nofun⟩

/-- The attribute `key` holds a valid name. -/
def Named (key : String) (e : Element) : Prop :=
  ∃ name, e.attribute? key = some name ∧ Name.isValid name = true

theorem requiredName_eq_ok_iff :
    requiredName path e key = .ok name ↔
      e.attribute? key = some name ∧ Name.isValid name = true := by
  rw [requiredName]
  cases e.attribute? key with
  | none => exact ⟨nofun, fun h => nomatch h.1⟩
  | some value =>
    simp only [bind_eq_ok_iff, require_eq_ok_iff, Option.some.injEq]
    constructor
    · rintro ⟨-, hvalid, hname⟩
      obtain rfl : value = name := Except.ok.inj hname
      exact ⟨rfl, hvalid⟩
    · rintro ⟨rfl, hvalid⟩
      exact ⟨(), hvalid, rfl⟩

/-- What tells siblings apart that have names. -/
def nameKeys (e : Element) : List String := (e.attribute? "name").toList.map Text.fold

theorem nameKeys_eq (h : e.attribute? "name" = some name) : nameKeys e = [Text.fold name] := by
  rw [nameKeys, h]
  rfl

theorem distinctName_eq_ok_iff {seen seen' : List String} :
    distinctName path kind seen name = .ok seen' ↔
      Text.fold name ∉ seen ∧ seen' = Text.fold name :: seen := by
  rw [distinctName, bind_eq_ok_iff]
  simp only [require_eq_ok_iff, Bool.not_eq_true', List.contains_eq_mem, decide_eq_false_iff_not]
  constructor
  · rintro ⟨-, hnew, hseen⟩
    exact ⟨hnew, (Except.ok.inj hseen).symm⟩
  · rintro ⟨hnew, rfl⟩
    exact ⟨(), hnew, rfl⟩

/-- The check of a name that is not among those seen, as the first of several checks. -/
theorem distinguishes_name {check : List String → Element → Check (List String)}
    {good : Element → Prop}
    (h : ∀ seen e seen', check seen e = .ok seen' ↔ good e ∧ ∃ name,
      e.attribute? "name" = some name ∧ Text.fold name ∉ seen ∧ seen' = Text.fold name :: seen)
    (hnamed : ∀ e, good e → Named "name" e) : Distinguishes check good nameKeys := by
  intro seen e seen'
  rw [h]
  constructor
  · rintro ⟨hgood, name, hname, hnew, rfl⟩
    rw [nameKeys_eq hname]
    exact ⟨hgood, List.nodup_singleton _, by simpa using hnew, rfl⟩
  · rintro ⟨hgood, -, hnew, rfl⟩
    obtain ⟨name, hname, -⟩ := hnamed e hgood
    rw [nameKeys_eq hname] at hnew ⊢
    exact ⟨hgood, name, hname, by simpa using hnew, rfl⟩

end Names

/-! ## Stages -/

section Stages

variable {parent path : String} {e : Element}

theorem checkJob_distinguishes (parent : String) :
    Distinguishes (checkJob parent) (Named "name") nameKeys := by
  refine distinguishes_name (fun seen e seen' => ?_) fun e h => h
  simp only [checkJob, bind_eq_ok_iff, requiredName_eq_ok_iff, distinctName_eq_ok_iff]
  constructor
  · rintro ⟨name, ⟨hname, hvalid⟩, hnew⟩
    exact ⟨⟨name, hname, hvalid⟩, name, hname, hnew⟩
  · rintro ⟨⟨name, hname, hvalid⟩, name', hname', hnew⟩
    obtain rfl : name = name' := Option.some.inj (hname.symm.trans hname')
    exact ⟨name, ⟨hname, hvalid⟩, hnew⟩

/-- The value of an approval. -/
def approvalText (e : Element) : String := (e.attribute? "type").getD "success"

theorem checkApproval_eq_ok_iff {u : Unit} :
    checkApproval path e = .ok u ↔
      ∀ a, e.child? "approval" = some a → (Approval.ofText? (approvalText a)).isSome = true := by
  rw [checkApproval]
  cases e.child? "approval" with
  | none => exact ⟨fun _ => nofun, fun _ => rfl⟩
  | some a =>
    refine require_eq_ok_iff.trans ⟨fun h a' ha' => ?_, fun h => h a rfl⟩
    obtain rfl : a = a' := Option.some.inj ha'
    exact h

/-- A section of jobs, with one or more of them, under different names. -/
structure ProperJobs (e : Element) : Prop where
  only : ∀ c ∈ e.children, c.name ∈ ["job"]
  named : ∀ c ∈ e.children, Named "name" c
  distinct : (e.children.flatMap nameKeys).Nodup
  nonempty : e.children ≠ []

/-- A stage. The jobs are those of its first section of jobs. -/
structure ProperStage (e : Element) : Prop where
  named : Named "name" e
  only : ∀ c ∈ e.children, c.name ∈ ["approval", "jobs"]
  approval : ∀ a, e.child? "approval" = some a → (Approval.ofText? (approvalText a)).isSome = true
  jobs : ∃ jobs, e.child? "jobs" = some jobs ∧ ProperJobs jobs

theorem flatMap_nameKeys_eq_nil_iff {l : List Element} (h : ∀ c ∈ l, Named "name" c) :
    l.flatMap nameKeys = [] ↔ l = [] := by
  refine ⟨fun hnil => ?_, fun hnil => by rw [hnil]; rfl⟩
  refine List.eq_nil_iff_forall_not_mem.2 fun c hc => ?_
  obtain ⟨name, hname, -⟩ := h c hc
  have hkeys := List.flatMap_eq_nil_iff.1 hnil c hc
  rw [nameKeys_eq hname] at hkeys
  cases hkeys

/-- Siblings with names have different ones, and there are some. -/
theorem foldlM_names_iff {check : List String → Element → Check (List String)}
    {good : Element → Prop} (h : Distinguishes check good nameKeys)
    (hnamed : ∀ e, good e → Named "name" e) {l : List Element} :
    (∃ names, l.foldlM check [] = .ok names ∧ (!names.isEmpty) = true) ↔
      (∀ c ∈ l, good c) ∧ (l.flatMap nameKeys).Nodup ∧ l ≠ [] := by
  constructor
  · rintro ⟨names, hfold, hsome⟩
    obtain ⟨hgood, hnodup, -, rfl⟩ := (h.foldlM [] l names).1 hfold
    refine ⟨hgood, hnodup, fun hnil => ?_⟩
    rw [hnil] at hsome
    cases hsome
  · rintro ⟨hgood, hnodup, hne⟩
    refine ⟨_, (h.foldlM [] l _).2 ⟨hgood, hnodup, List.disjoint_nil_right _, rfl⟩, ?_⟩
    have hkeys := mt (flatMap_nameKeys_eq_nil_iff fun c hc => hnamed c (hgood c hc)).1 hne
    simpa using hkeys

theorem checkStage_distinguishes (parent : String) :
    Distinguishes (checkStage parent) ProperStage nameKeys := by
  refine distinguishes_name (fun seen e seen' => ?_) fun e h => h.named
  simp only [checkStage, bind_eq_ok_iff, requiredName_eq_ok_iff, distinctName_eq_ok_iff,
    onlyChildren_eq_ok_iff, checkApproval_eq_ok_iff]
  constructor
  · rintro ⟨name, ⟨hname, hvalid⟩, _, ⟨hnew, rfl⟩, -, honly, -, happroval, hrest⟩
    cases hjobs : e.child? "jobs" with
    | none =>
      rw [hjobs] at hrest
      cases hrest
    | some jobs =>
      simp only [hjobs, bind_eq_ok_iff, onlyChildren_eq_ok_iff, require_eq_ok_iff] at hrest
      obtain ⟨-, honlyJobs, names, hfold, -, hsome, hseen⟩ := hrest
      obtain ⟨hnamed, hdistinct, hnonempty⟩ :=
        (foldlM_names_iff (checkJob_distinguishes _) fun _ h => h).1 ⟨names, hfold, hsome⟩
      refine ⟨⟨⟨name, hname, hvalid⟩, honly, happroval, jobs, hjobs, ?_⟩, ?_⟩
      · exact ⟨honlyJobs, hnamed, hdistinct, hnonempty⟩
      · exact ⟨name, hname, hnew, (Except.ok.inj hseen).symm⟩
  · rintro ⟨⟨⟨name, hname, hvalid⟩, honly, happroval, hjobs⟩, name', hname', hnew, rfl⟩
    obtain ⟨jobs, hjobs, hproper⟩ := hjobs
    obtain rfl : name = name' := Option.some.inj (hname.symm.trans hname')
    refine ⟨name, ⟨hname, hvalid⟩, _, ⟨hnew, rfl⟩, (), honly, (), happroval, ?_⟩
    obtain ⟨names, hfold, hsome⟩ := (foldlM_names_iff (checkJob_distinguishes _) fun _ h => h).2
      ⟨hproper.named, hproper.distinct, hproper.nonempty⟩
    simp only [hjobs, bind_eq_ok_iff, onlyChildren_eq_ok_iff, require_eq_ok_iff]
    exact ⟨(), hproper.only, names, hfold, (), hsome, rfl⟩

end Stages

/-! ## Materials -/

section Materials

variable {parent : String} {e : Element}

/-- The attributes that a material needs. -/
def neededAttributes (e : Element) : List String :=
  if e.name = "dependency" then ["pipeline", "stage"] else ["url"]

/-- The children of the first child with a name. -/
def childrenInFirst (e : Element) (name : String) : List Element :=
  ((e.child? name).map Element.children).getD []

/-- A material with the attributes it needs, and with patterns in its first filter. -/
structure ProperMaterial (e : Element) : Prop where
  needed : ∀ key ∈ neededAttributes e, (e.attribute? key).isSome = true
  entries : ∀ c ∈ childrenInFirst e "filter",
    c.name = "ignore" ∧ (c.attribute? "pattern").isSome = true

/-- What tells the materials of a pipeline apart. -/
def materialKeys (e : Element) : List Fingerprint :=
  (Material.ofElement? e).toList.map Material.pipelineUniqueFingerprint

theorem properMaterial_iff :
    ProperMaterial e ↔
      (∀ key ∈ neededAttributes e, ¬(e.attribute? key).isNone = true) ∧
      ∀ c ∈ childrenInFirst e "filter",
        ¬(c.name != "ignore" || (c.attribute? "pattern").isNone) = true := by
  have hentry (c : Element) :
      ¬(c.name != "ignore" || (c.attribute? "pattern").isNone) = true ↔
        c.name = "ignore" ∧ (c.attribute? "pattern").isSome = true := by
    cases c.attribute? "pattern" <;> simp
  simp only [hentry, Bool.not_eq_true, Option.isNone_eq_false_iff]
  exact ⟨fun h => ⟨h.needed, h.entries⟩, fun h => ⟨h.1, h.2⟩⟩

theorem checkMaterial_distinguishes (parent : String) :
    Distinguishes (checkMaterial parent) ProperMaterial materialKeys := by
  intro seen e seen'
  rw [properMaterial_iff, checkMaterial]
  -- in the order of the check: attributes that are missing, bad entries, and the material itself
  split
  · next key hfound =>
    refine ⟨nofun, fun h => ?_⟩
    exact absurd (List.find?_some hfound) (h.1.1 key (List.mem_of_find?_eq_some hfound))
  next hneeded =>
  dsimp only
  split
  · next entry hfound =>
    refine ⟨nofun, fun h => ?_⟩
    exact absurd (List.find?_some hfound) (h.1.2 entry (List.mem_of_find?_eq_some hfound))
  next hentries =>
  have hproper := And.intro (List.find?_eq_none.1 hneeded) (List.find?_eq_none.1 hentries)
  split
  · next hnone =>
    have hkeys : materialKeys e = [] := by simp [materialKeys, hnone]
    rw [hkeys]
    constructor
    · intro hok
      exact ⟨hproper, List.nodup_nil, List.disjoint_nil_left _, (Except.ok.inj hok).symm⟩
    · rintro ⟨-, -, -, rfl⟩
      rfl
  · next m hm =>
    have hkeys : materialKeys e = [m.pipelineUniqueFingerprint] := by simp [materialKeys, hm]
    rw [hkeys, bind_eq_ok_iff]
    simp only [require_eq_ok_iff, Bool.not_eq_true', List.contains_eq_mem, decide_eq_false_iff_not,
      List.singleton_disjoint]
    constructor
    · rintro ⟨-, hnew, hok⟩
      exact ⟨hproper, List.nodup_singleton _, hnew, (Except.ok.inj hok).symm⟩
    · rintro ⟨-, -, hnew, rfl⟩
      exact ⟨(), hnew, rfl⟩

/-- A section of materials, with one or more of them, all different. -/
structure ProperMaterials (e : Element) : Prop where
  only : ∀ c ∈ e.children, c.name ∈ materialElements
  proper : ∀ c ∈ e.children, ProperMaterial c
  distinct : (e.children.flatMap materialKeys).Nodup
  nonempty : e.children ≠ []

theorem checkMaterials_eq_ok_iff {u : Unit} :
    checkMaterials parent e = .ok u ↔ ProperMaterials e := by
  simp only [checkMaterials, bind_eq_ok_iff, onlyChildren_eq_ok_iff, require_eq_ok_iff,
    (checkMaterial_distinguishes _).foldlM [] e.children _]
  constructor
  · rintro ⟨-, honly, -, hsome, -, ⟨hproper, hdistinct, -, -⟩, -⟩
    exact ⟨honly, hproper, hdistinct, by simpa using hsome⟩
  · intro h
    refine ⟨(), h.only, (), by simpa using h.nonempty, _, ⟨h.proper, h.distinct, ?_, rfl⟩, rfl⟩
    exact List.disjoint_nil_right _

end Materials

/-! ## Pipelines -/

section Pipelines

variable {parent : String} {e : Element}

/-- A pipeline, with one section of materials, and one or more stages under different names. -/
structure ProperPipeline (e : Element) : Prop where
  named : Named "name" e
  lock : ∀ text, e.attribute? "lockBehavior" = some text →
    (LockBehavior.ofText? text).isSome = true
  only : ∀ c ∈ e.children, c.name ∈ ["materials", "stage"]
  materials : ∃ section_, e.childrenNamed "materials" = [section_] ∧ ProperMaterials section_
  stages : ∀ c ∈ e.childrenNamed "stage", ProperStage c
  distinct : ((e.childrenNamed "stage").flatMap nameKeys).Nodup
  nonempty : e.childrenNamed "stage" ≠ []

/-- The check of what there may be. -/
def ifPresent {α : Type} (x : Option α) (check : α → Check Unit) : Check Unit :=
  match x with
  | some a => check a
  | none => .ok ()

theorem ifPresent_eq_ok_iff {α : Type} {x : Option α} {check : α → Check Unit} {u : Unit} :
    ifPresent x check = .ok u ↔ ∀ a, x = some a → check a = .ok () := by
  cases x with
  | none => exact ⟨fun _ => nofun, fun _ => rfl⟩
  | some a =>
    constructor
    · intro h b hb
      rw [← Option.some.inj hb]
      exact h
    · exact fun h => h a rfl

/-- The check of the section of materials, of which there is one. -/
def checkSoleMaterials (path : String) (e : Element) : Check Unit :=
  match e.childrenNamed "materials" with
  | [] => .error ⟨path, .noMaterials⟩
  | [materials] => checkMaterials path materials
  | _ => .error ⟨path, .repeatedMaterials⟩

theorem checkSoleMaterials_eq_ok_iff {path : String} {u : Unit} :
    checkSoleMaterials path e = .ok u ↔
      ∃ section_, e.childrenNamed "materials" = [section_] ∧ ProperMaterials section_ := by
  rw [checkSoleMaterials]
  split
  · next h => simp [h]
  · next section_ h =>
    rw [checkMaterials_eq_ok_iff, h]
    constructor
    · exact fun hproper => ⟨section_, rfl, hproper⟩
    · rintro ⟨section', heq, hproper⟩
      rwa [(List.cons.inj heq).1]
  · next hnot =>
    refine ⟨nofun, ?_⟩
    rintro ⟨section_, h, -⟩
    exact absurd h (hnot section_)

/-- The parts of the check of a pipeline. -/
theorem checkPipeline_eq (parent : String) (e : Element) :
    checkPipeline parent e = (do
      let path := parent ++ "/" ++ e.segment
      let _ ← requiredName path e "name"
      ifPresent (e.attribute? "lockBehavior") fun lock =>
        require (LockBehavior.ofText? lock).isSome path (.unknownLockBehavior lock)
      onlyChildren path e ["materials", "stage"]
      checkSoleMaterials path e
      let names ← (e.childrenNamed "stage").foldlM (checkStage path) []
      require (!names.isEmpty) path .noStage) := by
  rw [checkPipeline]
  simp only [checkSoleMaterials]
  cases e.attribute? "lockBehavior" <;> rcases e.childrenNamed "materials" with _ | ⟨m, _ | _⟩ <;>
    rfl

theorem checkPipeline_eq_ok_iff {u : Unit} :
    checkPipeline parent e = .ok u ↔ ProperPipeline e := by
  simp only [checkPipeline_eq, bind_eq_ok_iff, requiredName_eq_ok_iff, ifPresent_eq_ok_iff,
    onlyChildren_eq_ok_iff, checkSoleMaterials_eq_ok_iff, require_eq_ok_iff,
    foldlM_names_iff (checkStage_distinguishes _) fun _ h => h.named]
  constructor
  · rintro ⟨name, hname, -, hlock, -, honly, -, hmaterials, hstages, hdistinct, hnonempty⟩
    exact ⟨⟨name, hname⟩, hlock, honly, hmaterials, hstages, hdistinct, hnonempty⟩
  · rintro ⟨⟨name, hname⟩, hlock, honly, hmaterials, hstages, hdistinct, hnonempty⟩
    exact ⟨name, hname, (), hlock, (), honly, (), hmaterials, hstages, hdistinct, hnonempty⟩

/-- A group, of which all children are pipelines. -/
structure ProperGroup (e : Element) : Prop where
  named : Named "group" e
  only : ∀ c ∈ e.children, c.name ∈ ["pipeline"]
  pipelines : ∀ c ∈ e.children, ProperPipeline c

theorem checkGroup_eq_ok_iff {u : Unit} : checkGroup parent e = .ok u ↔ ProperGroup e := by
  simp only [checkGroup, bind_eq_ok_iff, requiredName_eq_ok_iff, onlyChildren_eq_ok_iff,
    forM_eq_ok_iff, checkPipeline_eq_ok_iff]
  constructor
  · rintro ⟨name, hname, -, honly, hpipelines⟩
    exact ⟨⟨name, hname⟩, honly, hpipelines⟩
  · rintro ⟨⟨name, hname⟩, honly, hpipelines⟩
    exact ⟨name, hname, (), honly, hpipelines⟩

end Pipelines

/-! ## Environments -/

section Environments

variable {parent : String} {e : Element}

/-- A section of variables, all of which have names. -/
structure ProperVariables (e : Element) : Prop where
  only : ∀ c ∈ e.children, c.name ∈ ["variable"]
  named : ∀ c ∈ e.children, (c.attribute? "name").isSome = true

/-- A section of the pipelines of an environment, all of which have valid names. -/
structure ProperMembers (e : Element) : Prop where
  only : ∀ c ∈ e.children, c.name ∈ ["pipeline"]
  named : ∀ c ∈ e.children, Named "name" c

/-- An environment. Its variables and pipelines are those of the first section of each kind. -/
structure ProperEnvironment (e : Element) : Prop where
  named : Named "name" e
  only : ∀ c ∈ e.children, c.name ∈ ["environmentvariables", "pipelines"]
  bindings : ∀ s, e.child? "environmentvariables" = some s → ProperVariables s
  members : ∀ s, e.child? "pipelines" = some s → ProperMembers s

theorem checkVariables_eq_ok_iff {u : Unit} :
    checkVariables parent e = .ok u ↔ ProperVariables e := by
  simp only [checkVariables, bind_eq_ok_iff, onlyChildren_eq_ok_iff, forM_eq_ok_iff,
    require_eq_ok_iff]
  exact ⟨fun ⟨_, honly, hnamed⟩ => ⟨honly, hnamed⟩, fun ⟨honly, hnamed⟩ => ⟨(), honly, hnamed⟩⟩

theorem checkMembers_eq_ok_iff {u : Unit} :
    checkMembers parent e = .ok u ↔ ProperMembers e := by
  simp only [checkMembers, bind_eq_ok_iff, onlyChildren_eq_ok_iff, forM_eq_ok_iff,
    requiredName_eq_ok_iff]
  constructor
  · rintro ⟨-, honly, hnamed⟩
    refine ⟨honly, fun c hc => ?_⟩
    obtain ⟨name, hname, -⟩ := hnamed c hc
    exact ⟨name, hname⟩
  · rintro ⟨honly, hnamed⟩
    refine ⟨(), honly, fun c hc => ?_⟩
    obtain ⟨name, hname⟩ := hnamed c hc
    exact ⟨name, hname, rfl⟩

/-- The parts of the check of an environment. -/
theorem checkEnvironment_eq (parent : String) (seen : List String) (e : Element) :
    checkEnvironment parent seen e = (do
      let path := parent ++ "/" ++ e.segment
      let name ← requiredName path e "name"
      let seen ← distinctName path "environment" seen name
      onlyChildren path e ["environmentvariables", "pipelines"]
      ifPresent (e.child? "environmentvariables") (checkVariables path)
      ifPresent (e.child? "pipelines") (checkMembers path)
      return seen) := by
  rw [checkEnvironment]
  cases e.child? "environmentvariables" <;> cases e.child? "pipelines" <;> rfl

theorem checkEnvironment_distinguishes (parent : String) :
    Distinguishes (checkEnvironment parent) ProperEnvironment nameKeys := by
  refine distinguishes_name (fun seen e seen' => ?_) fun e h => h.named
  simp only [checkEnvironment_eq, bind_eq_ok_iff, requiredName_eq_ok_iff, distinctName_eq_ok_iff,
    onlyChildren_eq_ok_iff, ifPresent_eq_ok_iff, checkVariables_eq_ok_iff, checkMembers_eq_ok_iff]
  constructor
  · rintro ⟨name, ⟨hname, hvalid⟩, _, ⟨hnew, rfl⟩, -, honly, -, hvariables, -, hmembers, hseen⟩
    refine ⟨⟨⟨name, hname, hvalid⟩, honly, hvariables, hmembers⟩, ?_⟩
    exact ⟨name, hname, hnew, (Except.ok.inj hseen).symm⟩
  · rintro ⟨⟨⟨name, hname, hvalid⟩, honly, hvariables, hmembers⟩, name', hname', hnew, rfl⟩
    obtain rfl : name = name' := Option.some.inj (hname.symm.trans hname')
    refine ⟨name, ⟨hname, hvalid⟩, _, ⟨hnew, rfl⟩, (), honly, ?_⟩
    exact ⟨(), hvariables, (), hmembers, rfl⟩

/-- A section of environments. -/
structure ProperEnvironments (e : Element) : Prop where
  only : ∀ c ∈ e.children, c.name ∈ ["environment"]
  environments : ∀ c ∈ e.children, ProperEnvironment c

/-- Sections of environments share their names. -/
theorem checkEnvironments_distinguishes (parent : String) :
    Distinguishes (checkEnvironments parent) ProperEnvironments
      (fun e => e.children.flatMap nameKeys) := by
  intro seen e seen'
  simp only [checkEnvironments, bind_eq_ok_iff, onlyChildren_eq_ok_iff,
    (checkEnvironment_distinguishes _).foldlM seen e.children seen']
  constructor
  · rintro ⟨-, honly, hproper, hkeys⟩
    exact ⟨⟨honly, hproper⟩, hkeys⟩
  · rintro ⟨⟨honly, hproper⟩, hkeys⟩
    exact ⟨(), honly, hproper, hkeys⟩

end Environments

/-! ## Documents -/

/-- The schema version is left out, or a positive number up to the supported one. -/
def ProperVersion (supported : Nat) (root : Element) : Prop :=
  ∀ text, root.attribute? "schemaVersion" = some text →
    ∃ n, versionNumber? text = some n ∧ 0 < n ∧ n ≤ supported

theorem checkVersion_eq_ok_iff {supported : Nat} {path : String} {root : Element} {u : Unit} :
    checkVersion supported path root = .ok u ↔ ProperVersion supported root := by
  rw [checkVersion, ProperVersion]
  cases root.attribute? "schemaVersion" with
  | none => exact ⟨fun _ => nofun, fun _ => rfl⟩
  | some text =>
    cases hn : versionNumber? text with
    | none => simp [hn]
    | some n => simp [hn, bind_eq_ok_iff, require_eq_ok_iff, and_comm]

/-- A document that the schema accepts. -/
structure Proper (supported : Nat) (root : Element) : Prop where
  name : root.name = "cruise"
  version : ProperVersion supported root
  only : ∀ c ∈ root.children, c.name ∈ ["pipelines", "environments"]
  groups : ∀ c ∈ root.childrenNamed "pipelines", ProperGroup c
  environments : ∀ c ∈ root.childrenNamed "environments", ProperEnvironments c
  distinct :
    ((root.childrenNamed "environments").flatMap fun s => s.children.flatMap nameKeys).Nodup

theorem check_eq_ok_iff {supported : Nat} {root : Element} :
    check supported root = .ok () ↔ Proper supported root := by
  simp only [check, bind_eq_ok_iff, require_eq_ok_iff, checkVersion_eq_ok_iff,
    onlyChildren_eq_ok_iff, forM_eq_ok_iff, checkGroup_eq_ok_iff,
    (checkEnvironments_distinguishes _).foldlM [] (root.childrenNamed "environments") _]
  constructor
  · rintro ⟨-, hname, -, hversion, -, honly, -, hgroups, _, ⟨hproper, hdistinct, -⟩, -⟩
    exact ⟨by simpa using hname, hversion, honly, hgroups, hproper, hdistinct⟩
  · intro h
    have hname : (root.name == "cruise") = true := by simpa using h.name
    exact ⟨(), hname, (), h.version, (), h.only, (), h.groups, _,
      ⟨h.environments, h.distinct, List.disjoint_nil_right _, rfl⟩, rfl⟩

end PipelineSync.Schema
