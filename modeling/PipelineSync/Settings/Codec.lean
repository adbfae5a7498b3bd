import PipelineSync.Configuration.Codec
import PipelineSync.Settings.Basic

/-!
# Settings as data

The written form of settings, in which everything may be left out but the id and the material of a
repository.
-/

namespace PipelineSync.Settings

namespace Repository

/-- Writes a repository. -/
def toData (r : Repository) : Data :=
  .record [("id", .text r.id), ("material", r.material.toData), ("plugin_id", .text r.plugin)]

/-- Reads a repository. -/
def ofData? (d : Data) : Option Repository := do
  let fs ← d.asFields? [["id"], ["material"], ["plugin_id"]]
  return {
    id := ← fs.required? "id" Data.asText?
    material := ← fs.required? "material" Material.ofData?
    plugin := ← fs.getD? "plugin_id" supportedPlugin Data.asText? }

end Repository

/-- Writes settings. -/
def toData (s : Settings) : Data :=
  .record <| Data.optionalField "working_dir" (s.workingDirectory.map .text)
    ++ Data.optionalField "data_dir" (s.dataDirectory.map .text)
    ++ [("config_repos", .ofList Repository.toData s.repositories),
      ("local", s.localConfig.toData)]

/-- Reads settings. -/
def ofData? (d : Data) : Option Settings := do
  let fs ← d.asFields? [["working_dir"], ["data_dir"], ["config_repos"], ["local"]]
  return {
    workingDirectory := ← fs.optional? "working_dir" Data.asText?
    dataDirectory := ← fs.optional? "data_dir" Data.asText?
    repositories := ← fs.getD? "config_repos" [] (Data.asList? Repository.ofData?)
    localConfig := ← fs.getD? "local" {} LocalConfiguration.ofData? }

end PipelineSync.Settings
