import PipelineSync.Data.Basic
import PipelineSync.Material.Basic

/-!
# Materials as data

The written form of a material, in which a password can be given but is never written, and the
attribute map that is shown to users of the server.
-/

namespace PipelineSync.Material

/-- The short name of a kind as data. -/
def Kind.ofData? (d : Data) : Option Kind :=
  d.asWord?.bind Kind.ofText?

/-- Reads a material. -/
def ofData? (d : Data) : Option Material := do
  let fs ← d.asFields? [["type"], ["url", "pipeline"], ["username"], ["password"], ["branch"],
    ["stage"], ["check_externals"], ["destination"], ["filter"]]
  return {
    kind := ← fs.required? "type" Kind.ofData?
    url := ← fs.required? "url" Data.asText?
    username := ← fs.optional? "username" Data.asText?
    password := ← fs.optional? "password" Data.asText?
    branch := ← fs.optional? "branch" Data.asText?
    stage := ← fs.optional? "stage" Data.asText?
    checkExternals := ← fs.getD? "check_externals" false Data.asBool?
    destination := ← fs.optional? "destination" Data.asText?
    filter := ← fs.getD? "filter" [] (Data.asList? Data.asText?) }

/-- Writes a material without its password. -/
def toData (m : Material) : Data :=
  .record <|
    [("type", .text m.kind.text), ("url", .text m.url)]
      ++ Data.optionalField "username" (m.username.map .text)
      ++ Data.optionalField "branch" (m.branch.map .text)
      ++ Data.optionalField "stage" (m.stage.map .text)
      ++ (if m.checkExternals then [("check_externals", .bool true)] else [])
      ++ Data.optionalField "destination" (m.destination.map .text)
      ++ (if m.filter.isEmpty then [] else [("filter", .ofList .text m.filter)])

/-- The attributes of a material by kind. With `secure` the password and the address as it was
given are among them, otherwise the address is masked. -/
def attributes (m : Material) (secure : Bool) : Data :=
  let optional := Data.ofOption Data.text
  let configuration := match m.kind with
    | .dependency => [("pipeline-name", .text m.url), ("stage-name", optional m.stage)]
    | kind =>
      [("url", .text (if secure then m.url else m.maskedUrl)), ("username", optional m.username)]
        ++ (if secure then [("password", optional m.password)] else [])
        ++ (if kind = .svn then [("check-externals", .bool m.checkExternals)]
          else [("branch", optional m.effectiveBranch)])
  .record [("type", .text m.kind.text),
    (m.kind.text ++ "-configuration", .record configuration)]

end PipelineSync.Material
