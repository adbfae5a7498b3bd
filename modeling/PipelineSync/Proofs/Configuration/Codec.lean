import PipelineSync.Configuration.Codec
import PipelineSync.Proofs.Data.Fields
import PipelineSync.Proofs.Merge.Passwords

/-!
# Configurations are read as they are written

Each part of a configuration is read back from its written form, without the passwords of the
materials in it (`ofData?_toData`), and no written form has a field for a password (`written_toData`).
The `slots` of a part are its fields as they are declared.
-/

namespace PipelineSync

theorem LockBehavior.ofData?_toData (b : LockBehavior) :
    LockBehavior.ofData? b.toData = some b := by
  cases b <;> rfl

theorem Approval.ofData?_toData (a : Approval) : Approval.ofData? a.toData = some a := by
  cases a <;> rfl

namespace RepositoryOrigin

def slots (o : RepositoryOrigin) : List (String × Option Data) :=
  [("fingerprint", some o.fingerprint.toData), ("url", some (.text o.url)),
    ("revision", some (.text o.revision))]

theorem ofData?_toData (o : RepositoryOrigin) : ofData? o.toData = some o := by
  have h : Data.Declares [["fingerprint"], ["url"], ["revision"]] o.slots :=
    ⟨rfl, by decide, by decide⟩
  have hfields : o.toData.asFields? [["fingerprint"], ["url"], ["revision"]] =
      some (Data.present o.slots) := h.asFields?
  unfold ofData?
  rw [hfields]
  rfl

theorem written_toData (o : RepositoryOrigin) : o.toData.Written (· ≠ "password") := by
  have h : (Data.record (Data.present o.slots)).Written (· ≠ "password") := by
    apply Data.written_record
    simp [slots, Fingerprint.toData, Data.Written.text]
  exact h

end RepositoryOrigin

namespace Origin

theorem ofData?_toData (o : Origin) : ofData? o.toData = some o := by
  cases o with
  | «local» => rfl
  | repository o =>
    have hsplit : splitKind? (Origin.repository o).toData = some ("repo", o.toData) := rfl
    have horigin := o.ofData?_toData
    unfold ofData?
    rw [hsplit]
    change (do return Origin.repository (← RepositoryOrigin.ofData? o.toData)) = _
    rw [horigin]
    rfl

theorem written_toData (o : Origin) : o.toData.Written (· ≠ "password") := by
  cases o with
  | «local» =>
    apply Data.Written.record
    · simp
    · simp [Data.Written.text]
  | repository o =>
    have h : (Data.record (Data.present (("kind", some (.text "repo")) :: o.slots))).Written
        (· ≠ "password") := by
      apply Data.written_record
      simp [RepositoryOrigin.slots, Fingerprint.toData, Data.Written.text]
    exact h

end Origin

namespace Material

/-- The fields of a material as they are declared, with no value for the password. -/
def slots (m : Material) : List (String × Option Data) :=
  [("type", some (.text m.kind.text)), ("url", some (.text m.url)),
    ("username", m.username.map .text), ("password", none), ("branch", m.branch.map .text),
    ("stage", m.stage.map .text),
    ("check_externals", if m.checkExternals then some (.bool true) else none),
    ("destination", m.destination.map .text),
    ("filter", if m.filter.isEmpty then none else some (.ofList .text m.filter))]

theorem toData_eq (m : Material) : m.toData = .record (Data.present m.slots) := by
  have hexternals : (if m.checkExternals then [("check_externals", Data.bool true)] else []) =
      Data.optionalField "check_externals"
        (if m.checkExternals then some (.bool true) else none) := by
    split <;> rfl
  have hfilter : (if m.filter.isEmpty then [] else [("filter", Data.ofList .text m.filter)]) =
      Data.optionalField "filter"
        (if m.filter.isEmpty then none else some (.ofList .text m.filter)) := by
    split <;> rfl
  unfold toData slots
  rw [hexternals, hfilter]
  simp [Data.present, Data.optionalField]

theorem ofData?_toData (m : Material) : ofData? m.toData = some m.withoutPassword := by
  have h : Data.Declares [["type"], ["url", "pipeline"], ["username"], ["password"], ["branch"],
      ["stage"], ["check_externals"], ["destination"], ["filter"]] m.slots :=
    ⟨rfl, by decide, by decide⟩
  have hkind : Kind.ofData? (.text m.kind.text) = some m.kind := by
    cases m.kind <;> rfl
  have htype : (Data.present m.slots).required? "type" Kind.ofData? = some m.kind :=
    h.required? rfl hkind
  have hurl : (Data.present m.slots).required? "url" Data.asText? = some m.url :=
    h.required? rfl rfl
  have htext (name : String) (value : Option String)
      (hslot : m.slots.lookup name = some (value.map .text)) :
      (Data.present m.slots).optional? name Data.asText? = some value :=
    h.optional?_self _ hslot fun _ _ => rfl
  have husername := htext "username" m.username rfl
  have hpassword := htext "password" none rfl
  have hbranch := htext "branch" m.branch rfl
  have hstage := htext "stage" m.stage rfl
  have hdestination := htext "destination" m.destination rfl
  have hexternals : (Data.present m.slots).getD? "check_externals" false Data.asBool? =
      some m.checkExternals := h.flag? rfl
  have hfilter : (Data.present m.slots).getD? "filter" [] (Data.asList? Data.asText?) =
      some m.filter := h.items? .text rfl fun _ => rfl
  unfold ofData?
  rw [toData_eq, h.asFields?, Option.bind_eq_bind, Option.bind_some, htype, hurl, husername,
    hpassword, hbranch, hstage, hexternals, hdestination, hfilter]
  rfl

theorem written_toData (m : Material) : m.toData.Written (· ≠ "password") := by
  rw [toData_eq]
  apply Data.written_record
  simp [slots, Data.Written.text, Data.Written.bool, Data.written_ofList]

end Material

namespace Task

def slots (t : Task) : List (String × Option Data) :=
  [("kind", some (.text t.kind)), ("command", t.command.map .text),
    ("args", if t.args.isEmpty then none else some (.ofList .text t.args))]

theorem toData_eq (t : Task) : t.toData = .record (Data.present t.slots) := by
  have hargs : (if t.args.isEmpty then [] else [("args", Data.ofList .text t.args)]) =
      Data.optionalField "args" (if t.args.isEmpty then none else some (.ofList .text t.args)) := by
    split <;> rfl
  unfold toData slots
  rw [hargs]
  simp [Data.present, Data.optionalField]

theorem ofData?_toData (t : Task) : ofData? t.toData = some t := by
  have h : Data.Declares [["kind"], ["command"], ["args"]] t.slots := ⟨rfl, by decide, by decide⟩
  have hkind : (Data.present t.slots).required? "kind" Data.asText? = some t.kind :=
    h.required? rfl rfl
  have hcommand : (Data.present t.slots).optional? "command" Data.asText? = some t.command :=
    h.optional?_self .text rfl fun _ _ => rfl
  have hargs : (Data.present t.slots).getD? "args" [] (Data.asList? Data.asText?) =
      some t.args := h.items? .text rfl fun _ => rfl
  unfold ofData?
  rw [toData_eq, h.asFields?, Option.bind_eq_bind, Option.bind_some, hkind, hcommand, hargs]
  rfl

theorem written_toData (t : Task) : t.toData.Written (· ≠ "password") := by
  rw [toData_eq]
  apply Data.written_record
  simp [slots, Data.Written.text, Data.written_ofList]

end Task

namespace Job

def slots (j : Job) : List (String × Option Data) :=
  [("name", some j.name.toData), ("tasks", some (.ofList Task.toData j.tasks))]

theorem ofData?_toData (j : Job) : ofData? j.toData = some j := by
  have h : Data.Declares [["name"], ["tasks"]] j.slots := ⟨rfl, by decide, by decide⟩
  have hfields : j.toData.asFields? [["name"], ["tasks"]] = some (Data.present j.slots) :=
    h.asFields?
  have hname : (Data.present j.slots).required? "name" Name.ofData? = some j.name :=
    h.required? rfl rfl
  have htasks : (Data.present j.slots).getD? "tasks" [] (Data.asList? Task.ofData?) =
      some j.tasks := h.getD? [] rfl (Data.asList?_ofList_self Task.ofData?_toData)
  unfold ofData?
  rw [hfields, Option.bind_eq_bind, Option.bind_some, hname, htasks]
  rfl

theorem written_toData (j : Job) : j.toData.Written (· ≠ "password") := by
  have h : (Data.record (Data.present j.slots)).Written (· ≠ "password") := by
    apply Data.written_record
    simp [slots, Name.toData, Data.Written.text, Data.written_ofList, Task.written_toData]
  exact h

end Job

namespace Stage

def slots (s : Stage) : List (String × Option Data) :=
  [("name", some s.name.toData), ("approval", some s.approval.toData),
    ("jobs", some (.ofList Job.toData s.jobs))]

theorem ofData?_toData (s : Stage) : ofData? s.toData = some s := by
  have h : Data.Declares [["name"], ["approval"], ["jobs"]] s.slots :=
    ⟨rfl, by decide, by decide⟩
  have hfields : s.toData.asFields? [["name"], ["approval"], ["jobs"]] =
      some (Data.present s.slots) := h.asFields?
  have hname : (Data.present s.slots).required? "name" Name.ofData? = some s.name :=
    h.required? rfl rfl
  have happroval : (Data.present s.slots).getD? "approval" .success Approval.ofData? =
      some s.approval := h.getD? _ rfl s.approval.ofData?_toData
  have hjobs : (Data.present s.slots).required? "jobs" (Data.asList? Job.ofData?) =
      some s.jobs := h.required? rfl (Data.asList?_ofList_self Job.ofData?_toData)
  unfold ofData?
  rw [hfields, Option.bind_eq_bind, Option.bind_some, hname, happroval, hjobs]
  rfl

theorem written_toData (s : Stage) : s.toData.Written (· ≠ "password") := by
  have h : (Data.record (Data.present s.slots)).Written (· ≠ "password") := by
    apply Data.written_record
    simp [slots, Name.toData, Approval.toData, Data.Written.text, Data.written_ofList,
      Job.written_toData]
  exact h

end Stage

namespace Pipeline

def slots (p : Pipeline) : List (String × Option Data) :=
  [("name", some p.name.toData), ("label_template", p.labelTemplate.map .text),
    ("lock_behavior", some p.lockBehavior.toData),
    ("materials", some (.ofList Material.toData p.materials)),
    ("stages", some (.ofList Stage.toData p.stages)), ("origin", some p.origin.toData)]

theorem toData_eq (p : Pipeline) : p.toData = .record (Data.present p.slots) := by
  simp [toData, slots, Data.present, Data.optionalField]

theorem ofData?_toData (p : Pipeline) : ofData? p.toData = some p.withoutPasswords := by
  have h : Data.Declares [["name"], ["label_template"], ["lock_behavior"], ["materials"],
      ["stages"], ["origin"]] p.slots := ⟨rfl, by decide, by decide⟩
  have hname : (Data.present p.slots).required? "name" Name.ofData? = some p.name :=
    h.required? rfl rfl
  have hlabel : (Data.present p.slots).optional? "label_template" Data.asText? =
      some p.labelTemplate := h.optional?_self .text rfl fun _ _ => rfl
  have hlock : (Data.present p.slots).getD? "lock_behavior" .none LockBehavior.ofData? =
      some p.lockBehavior := h.getD? _ rfl p.lockBehavior.ofData?_toData
  have hmaterials : (Data.present p.slots).getD? "materials" [] (Data.asList? Material.ofData?) =
      some (p.materials.map Material.withoutPassword) :=
    h.getD? [] rfl (Data.asList?_ofList fun m _ => m.ofData?_toData)
  have hstages : (Data.present p.slots).getD? "stages" [] (Data.asList? Stage.ofData?) =
      some p.stages := h.getD? [] rfl (Data.asList?_ofList_self Stage.ofData?_toData)
  have horigin : (Data.present p.slots).getD? "origin" .local Origin.ofData? = some p.origin :=
    h.getD? _ rfl p.origin.ofData?_toData
  unfold ofData?
  rw [toData_eq, h.asFields?, Option.bind_eq_bind, Option.bind_some, hname, hlabel, hlock,
    hmaterials, hstages, horigin]
  rfl

theorem written_toData (p : Pipeline) : p.toData.Written (· ≠ "password") := by
  rw [toData_eq]
  apply Data.written_record
  simp [slots, Name.toData, LockBehavior.toData, Data.Written.text, Data.written_ofList,
    Material.written_toData, Stage.written_toData, Origin.written_toData]

end Pipeline

namespace Group

def slots (g : Group) : List (String × Option Data) :=
  [("name", some (.text g.name)), ("pipelines", some (.ofList Pipeline.toData g.pipelines))]

theorem ofData?_toData (g : Group) : ofData? g.toData = some g.withoutPasswords := by
  have h : Data.Declares [["name"], ["pipelines"]] g.slots := ⟨rfl, by decide, by decide⟩
  have hfields : g.toData.asFields? [["name"], ["pipelines"]] = some (Data.present g.slots) :=
    h.asFields?
  have hname : (Data.present g.slots).required? "name" Data.asText? = some g.name :=
    h.required? rfl rfl
  have hpipelines : (Data.present g.slots).getD? "pipelines" [] (Data.asList? Pipeline.ofData?) =
      some (g.pipelines.map Pipeline.withoutPasswords) :=
    h.getD? [] rfl (Data.asList?_ofList fun p _ => p.ofData?_toData)
  unfold ofData?
  rw [hfields, Option.bind_eq_bind, Option.bind_some, hname, hpipelines]
  rfl

theorem written_toData (g : Group) : g.toData.Written (· ≠ "password") := by
  have h : (Data.record (Data.present g.slots)).Written (· ≠ "password") := by
    apply Data.written_record
    simp [slots, Data.Written.text, Data.written_ofList, Pipeline.written_toData]
  exact h

end Group

namespace Environment

def slots (e : Environment) : List (String × Option Data) :=
  [("name", some e.name.toData), ("pipelines", some (.ofList Name.toData e.pipelines)),
    ("variables", some (.ofList variableToData e.bindings))]

theorem ofData?_toData (e : Environment) : ofData? e.toData = some e := by
  have h : Data.Declares [["name"], ["pipelines"], ["variables"]] e.slots :=
    ⟨rfl, by decide, by decide⟩
  have hfields : e.toData.asFields? [["name"], ["pipelines"], ["variables"]] =
      some (Data.present e.slots) := h.asFields?
  have hname : (Data.present e.slots).required? "name" Name.ofData? = some e.name :=
    h.required? rfl rfl
  have hpipelines : (Data.present e.slots).getD? "pipelines" [] (Data.asList? Name.ofData?) =
      some e.pipelines := h.getD? [] rfl (Data.asList?_ofList_self fun _ => rfl)
  have hbindings : (Data.present e.slots).getD? "variables" [] (Data.asList? variableOfData?) =
      some e.bindings := h.getD? [] rfl (Data.asList?_ofList_self fun _ => rfl)
  unfold ofData?
  rw [hfields, Option.bind_eq_bind, Option.bind_some, hname, hpipelines, hbindings]
  rfl

theorem written_toData (e : Environment) : e.toData.Written (· ≠ "password") := by
  have hvariable (v : String × String) : (variableToData v).Written (· ≠ "password") := by
    apply Data.Written.tuple
    simp [Data.Written.text]
  have hname (n : Name) : n.toData.Written (· ≠ "password") := Data.Written.text n.text
  have h : (Data.record (Data.present e.slots)).Written (· ≠ "password") := by
    apply Data.written_record
    simp [slots, Data.written_ofList, hname, hvariable]
  exact h

end Environment

namespace Partial

def slots (p : Partial) : List (String × Option Data) :=
  [("origin", some p.origin.toData), ("groups", some (.ofList Group.toData p.groups)),
    ("environments", some (.ofList Environment.toData p.environments))]

theorem ofData?_toData (p : Partial) : ofData? p.toData = some p.withoutPasswords := by
  have h : Data.Declares [["origin"], ["groups"], ["environments"]] p.slots :=
    ⟨rfl, by decide, by decide⟩
  have hfields : p.toData.asFields? [["origin"], ["groups"], ["environments"]] =
      some (Data.present p.slots) := h.asFields?
  have horigin : (Data.present p.slots).required? "origin" RepositoryOrigin.ofData? =
      some p.origin := h.required? rfl p.origin.ofData?_toData
  have hgroups : (Data.present p.slots).required? "groups" (Data.asList? Group.ofData?) =
      some (p.groups.map Group.withoutPasswords) :=
    h.required? rfl (Data.asList?_ofList fun g _ => g.ofData?_toData)
  have henvironments :
      (Data.present p.slots).required? "environments" (Data.asList? Environment.ofData?) =
        some p.environments := h.required? rfl (Data.asList?_ofList_self Environment.ofData?_toData)
  unfold ofData?
  rw [hfields, Option.bind_eq_bind, Option.bind_some, horigin, hgroups, henvironments]
  rfl

theorem asOption?_toData {α : Type} (read : Data → Option α) (p : Partial) :
    Data.asOption? read p.toData = (read p.toData).map some := rfl

theorem written_toData (p : Partial) : p.toData.Written (· ≠ "password") := by
  have h : (Data.record (Data.present p.slots)).Written (· ≠ "password") := by
    apply Data.written_record
    simp [slots, Data.written_ofList, RepositoryOrigin.written_toData, Group.written_toData,
      Environment.written_toData]
  exact h

end Partial

end PipelineSync
