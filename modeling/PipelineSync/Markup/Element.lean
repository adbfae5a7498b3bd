import PipelineSync.Text.Blank

/-!
# Elements

A fragment of configuration is a tree of elements. Only the attributes of the vocabulary of
fragments are kept; an element outside the vocabulary keeps its name, so that it can be refused by
that name.
-/

namespace PipelineSync

/-- An element with its attributes and children. -/
structure Element where
  name : String
  attributes : List (String × String) := []
  children : List Element := []
  /-- The text of an element that holds nothing else. -/
  text : Option String := none
deriving Inhabited, Repr

namespace Element

/-- The attributes that have a meaning in fragments. -/
def attributeNames : List String :=
  ["schemaVersion", "group", "name", "lockBehavior", "labeltemplate", "url", "username",
    "password", "branch", "dest", "checkexternals", "pipeline", "stage", "pattern", "type",
    "command", "args", "workingdir", "target"]

/-- The value of an attribute. -/
def attribute? (e : Element) (name : String) : Option String :=
  e.attributes.lookup name

/-- The children with a name. -/
def childrenNamed (e : Element) (name : String) : List Element :=
  e.children.filter fun c => c.name == name

/-- The first child with a name. -/
def child? (e : Element) (name : String) : Option Element :=
  e.children.find? fun c => c.name == name

/-- The part of a path that tells an element from its siblings: its name, with its `name` or else
its `group` attribute if it has one. -/
def segment (e : Element) : String :=
  match e.attribute? "name", e.attribute? "group" with
  | some name, _ => e.name ++ "[@name='" ++ name ++ "']"
  | none, some group => e.name ++ "[@group='" ++ group ++ "']"
  | none, none => e.name

end Element

end PipelineSync
