import PipelineSync.Configuration.Basic
import PipelineSync.Diagnosis.Shape
import PipelineSync.Settings.Basic

/-!
# The shapes of settings and records

What settings texts and record files have to look like. The names are those of the written form.
-/

namespace PipelineSync.Shape

/-- The shape of a material. -/
def material : Shape :=
  .record "MaterialIdentity" [
    required "type" (.word "MaterialKind" ["svn", "hg", "git", "dependency"]),
    (["url", "pipeline"], true, string), defaulted "username" (.optional string),
    defaulted "password" (.optional string), defaulted "branch" (.optional string),
    defaulted "stage" (.optional string), defaulted "check_externals" .bool,
    defaulted "destination" (.optional string), defaulted "filter" (.list string)]

/-- The shape of a task. -/
def task : Shape :=
  .record "TaskConfig" [required "kind" string, defaulted "command" (.optional string),
    defaulted "args" (.list string)]

/-- The shape of a job. -/
def job : Shape :=
  .record "JobConfig" [required "name" string, defaulted "tasks" (.list task)]

/-- The shape of a stage. -/
def stage : Shape :=
  .record "StageConfig" [required "name" string,
    defaulted "approval" (.word "Approval" ["success", "manual"]), required "jobs" (.list job)]

/-- The shape of a pipeline. -/
def pipeline : Shape :=
  .record "PipelineConfig" [required "name" string, defaulted "label_template" (.optional string),
    defaulted "lock_behavior"
      (.word "LockBehavior" ["lockOnFailure", "unlockWhenFinished", "none"]),
    defaulted "materials" (.list material), defaulted "stages" (.list stage),
    defaulted "origin" .any]

/-- The shape of a group. -/
def group : Shape :=
  .record "PipelineGroup" [required "name" string, defaulted "pipelines" (.list pipeline)]

/-- The shape of an environment. -/
def environment : Shape :=
  .record "EnvironmentConfig" [required "name" string, defaulted "pipelines" (.list string),
    defaulted "variables" (.list .pair)]

/-- The shape of a local configuration. -/
def localConfiguration : Shape :=
  .record "LocalConfig" [defaulted "groups" (.list group),
    defaulted "environments" (.list environment)]

/-- The shape of settings. -/
def settings : Shape :=
  .record "Settings" [defaulted "working_dir" (.optional (.text "path string")),
    defaulted "data_dir" (.optional (.text "path string")),
    defaulted "config_repos" (.list (.record "ConfigRepoDeclaration" [required "id" string,
      required "material" material, defaulted "plugin_id" string])),
    defaulted "local" localConfiguration]

/-- The shape of a partial. -/
def partialConfiguration : Shape :=
  .record "PartialConfig" [
    required "origin" (.record "RepoConfigOrigin" [required "fingerprint" string,
      required "url" string, required "revision" string]),
    required "groups" (.list group), required "environments" (.list environment)]

/-- The shape of a fault in a record. -/
def fault : Shape :=
  .record "RecordedFault" [required "message" string, required "description" string,
    required "at" .time]

/-- The shape of a record. -/
def updateRecord : Shape :=
  .record "RepositoryUpdateRecord" [required "repository_key" string,
    defaulted "last_attempted_revision" (.optional string),
    defaulted "last_merged" (.optional partialConfiguration),
    defaulted "last_fault" (.optional fault),
    defaulted "last_checkout_fault" (.optional fault), required "updated_at" .time]

end PipelineSync.Shape
