import PipelineSync.Configuration.Basic
import PipelineSync.Material.Codec

/-!
# Configurations as data

The written form of pipelines, groups, environments and whole configurations. What a definition
leaves out when it is read has a default; what it writes is complete, but for a missing label
template and command, and for arguments when there are none.
-/

namespace PipelineSync

/-- A name is written as its text. -/
def Name.toData (n : Name) : Data := .text n.text

/-- Reads a name. -/
def Name.ofData? (d : Data) : Option Name := d.asText?.map Name.mk

/-- A fingerprint is written as its digits. -/
def Fingerprint.toData (f : Fingerprint) : Data := .text f.hex

/-- Reads a fingerprint. -/
def Fingerprint.ofData? (d : Data) : Option Fingerprint := d.asText?.map Fingerprint.mk

/-- A lock behaviour is written as its word. -/
def LockBehavior.toData (b : LockBehavior) : Data := .text b.text

/-- Reads a lock behaviour. -/
def LockBehavior.ofData? (d : Data) : Option LockBehavior := d.asWord?.bind LockBehavior.ofText?

/-- An approval is written as its word. -/
def Approval.toData (a : Approval) : Data := .text a.text

/-- Reads an approval. -/
def Approval.ofData? (d : Data) : Option Approval := d.asWord?.bind Approval.ofText?

namespace RepositoryOrigin

/-- The fields of an origin. -/
def fields (o : RepositoryOrigin) : List (String × Data) :=
  [("fingerprint", o.fingerprint.toData), ("url", .text o.url), ("revision", .text o.revision)]

/-- Writes an origin. -/
def toData (o : RepositoryOrigin) : Data := .record o.fields

/-- Reads an origin. -/
def ofData? (d : Data) : Option RepositoryOrigin := do
  let fs ← d.asFields? [["fingerprint"], ["url"], ["revision"]]
  return {
    fingerprint := ← fs.required? "fingerprint" Fingerprint.ofData?
    url := ← fs.required? "url" Data.asText?
    revision := ← fs.required? "revision" Data.asText? }

end RepositoryOrigin

namespace Origin

/-- Writes an origin with its kind in front. -/
def toData : Origin → Data
  | .local => .record [("kind", .text "local")]
  | .repository o => .record (("kind", .text "repo") :: o.fields)

/-- The kind of a tagged record, and the rest of the record. The kind decides what the rest has to
be, so the rest is read with the types that it has by itself. -/
def splitKind? (d : Data) : Option (String × Data) := do
  match ← d.typed? with
  | .map entries =>
    match entries.partition fun e => e.1.asText? == some "kind" with
    | ([(_, kind)], rest) =>
      let typedRest ← rest.mapM fun e => do return (← e.1.typed?, ← e.2.typed?)
      return (← kind.asText?, .map typedRest)
    | _ => none
  | .tuple (kind :: rest) | .list (kind :: rest) =>
    return (← kind.asText?, .tuple (← rest.mapM Data.typed?))
  | _ => none

/-- Reads an origin by its kind. -/
def ofData? (d : Data) : Option Origin := do
  match ← splitKind? d with
  | ("local", _) => return .local
  | ("repo", rest) => return .repository (← RepositoryOrigin.ofData? rest)
  | _ => none

end Origin

namespace Task

/-- Writes a task. -/
def toData (t : Task) : Data :=
  .record <| [("kind", .text t.kind)]
    ++ Data.optionalField "command" (t.command.map .text)
    ++ (if t.args.isEmpty then [] else [("args", .ofList .text t.args)])

/-- Reads a task. -/
def ofData? (d : Data) : Option Task := do
  let fs ← d.asFields? [["kind"], ["command"], ["args"]]
  return {
    kind := ← fs.required? "kind" Data.asText?
    command := ← fs.optional? "command" Data.asText?
    args := ← fs.getD? "args" [] (Data.asList? Data.asText?) }

end Task

namespace Job

/-- Writes a job. -/
def toData (j : Job) : Data :=
  .record [("name", j.name.toData), ("tasks", .ofList Task.toData j.tasks)]

/-- Reads a job. -/
def ofData? (d : Data) : Option Job := do
  let fs ← d.asFields? [["name"], ["tasks"]]
  return {
    name := ← fs.required? "name" Name.ofData?
    tasks := ← fs.getD? "tasks" [] (Data.asList? Task.ofData?) }

end Job

namespace Stage

/-- Writes a stage. -/
def toData (s : Stage) : Data :=
  .record [("name", s.name.toData), ("approval", s.approval.toData),
    ("jobs", .ofList Job.toData s.jobs)]

/-- Reads a stage. -/
def ofData? (d : Data) : Option Stage := do
  let fs ← d.asFields? [["name"], ["approval"], ["jobs"]]
  return {
    name := ← fs.required? "name" Name.ofData?
    approval := ← fs.getD? "approval" .success Approval.ofData?
    jobs := ← fs.required? "jobs" (Data.asList? Job.ofData?) }

end Stage

namespace Pipeline

/-- Writes a pipeline. -/
def toData (p : Pipeline) : Data :=
  .record <| [("name", p.name.toData)]
    ++ Data.optionalField "label_template" (p.labelTemplate.map .text)
    ++ [("lock_behavior", p.lockBehavior.toData),
      ("materials", .ofList Material.toData p.materials),
      ("stages", .ofList Stage.toData p.stages),
      ("origin", p.origin.toData)]

/-- Reads a pipeline. -/
def ofData? (d : Data) : Option Pipeline := do
  let fs ← d.asFields? [["name"], ["label_template"], ["lock_behavior"], ["materials"], ["stages"],
    ["origin"]]
  return {
    name := ← fs.required? "name" Name.ofData?
    labelTemplate := ← fs.optional? "label_template" Data.asText?
    lockBehavior := ← fs.getD? "lock_behavior" .none LockBehavior.ofData?
    materials := ← fs.getD? "materials" [] (Data.asList? Material.ofData?)
    stages := ← fs.getD? "stages" [] (Data.asList? Stage.ofData?)
    origin := ← fs.getD? "origin" .local Origin.ofData? }

end Pipeline

namespace Group

/-- Writes a group. -/
def toData (g : Group) : Data :=
  .record [("name", .text g.name), ("pipelines", .ofList Pipeline.toData g.pipelines)]

/-- Reads a group. -/
def ofData? (d : Data) : Option Group := do
  let fs ← d.asFields? [["name"], ["pipelines"]]
  return {
    name := ← fs.required? "name" Data.asText?
    pipelines := ← fs.getD? "pipelines" [] (Data.asList? Pipeline.ofData?) }

end Group

namespace Environment

/-- Writes a variable as a pair. -/
def variableToData (v : String × String) : Data := .tuple [.text v.1, .text v.2]

/-- Reads a variable: a list of exactly a name and a value. -/
def variableOfData? (d : Data) : Option (String × String) :=
  match d.untagged with
  | .tuple [name, value] | .list [name, value] => do return (← name.asText?, ← value.asText?)
  | _ => none

/-- Writes an environment. -/
def toData (e : Environment) : Data :=
  .record [("name", e.name.toData), ("pipelines", .ofList Name.toData e.pipelines),
    ("variables", .ofList variableToData e.bindings)]

/-- Reads an environment. -/
def ofData? (d : Data) : Option Environment := do
  let fs ← d.asFields? [["name"], ["pipelines"], ["variables"]]
  return {
    name := ← fs.required? "name" Name.ofData?
    pipelines := ← fs.getD? "pipelines" [] (Data.asList? Name.ofData?)
    bindings := ← fs.getD? "variables" [] (Data.asList? variableOfData?) }

end Environment

namespace Partial

/-- Writes a partial. -/
def toData (p : Partial) : Data :=
  .record [("origin", p.origin.toData), ("groups", .ofList Group.toData p.groups),
    ("environments", .ofList Environment.toData p.environments)]

/-- Reads a partial; all its fields have to be there. -/
def ofData? (d : Data) : Option Partial := do
  let fs ← d.asFields? [["origin"], ["groups"], ["environments"]]
  return {
    origin := ← fs.required? "origin" RepositoryOrigin.ofData?
    groups := ← fs.required? "groups" (Data.asList? Group.ofData?)
    environments := ← fs.required? "environments" (Data.asList? Environment.ofData?) }

end Partial

namespace LocalConfiguration

/-- Writes a local configuration. -/
def toData (c : LocalConfiguration) : Data :=
  .record [("groups", .ofList Group.toData c.groups),
    ("environments", .ofList Environment.toData c.environments)]

/-- Reads a local configuration. -/
def ofData? (d : Data) : Option LocalConfiguration := do
  let fs ← d.asFields? [["groups"], ["environments"]]
  return {
    groups := ← fs.getD? "groups" [] (Data.asList? Group.ofData?)
    environments := ← fs.getD? "environments" [] (Data.asList? Environment.ofData?) }

end LocalConfiguration

namespace Configuration

/-- Writes partials under their fingerprints. -/
def partialsToData (ps : KeyMap Fingerprint Partial) : Data :=
  .record (ps.entries.map fun e => (e.1.hex, e.2.toData))

/-- Reads partials; of equal keys the last counts. -/
def partialsOfData? (d : Data) : Option (KeyMap Fingerprint Partial) := do
  return .ofList ((← d.asEntries? Partial.ofData?).map fun e => (⟨e.1⟩, e.2))

/-- Writes a configuration. -/
def toData (c : Configuration) : Data :=
  .record [("groups", .ofList Group.toData c.groups),
    ("environments", .ofList Environment.toData c.environments),
    ("partials", partialsToData c.partials)]

/-- Reads a configuration; all its fields have to be there. -/
def ofData? (d : Data) : Option Configuration := do
  let fs ← d.asFields? [["groups"], ["environments"], ["partials"]]
  return {
    groups := ← fs.required? "groups" (Data.asList? Group.ofData?)
    environments := ← fs.required? "environments" (Data.asList? Environment.ofData?)
    partials := ← fs.required? "partials" partialsOfData? }

end Configuration

end PipelineSync
