import PipelineSync.Data.Basic
import PipelineSync.Yaml.Token

/-!
# YAML nodes

What a YAML document holds: scalars, sequences and mappings, each with its place and tag. Aliases
are replaced by what they stand for, which leaves out only those within it. Of a text with a fault
there is what comes before the fault, with a cut in its place.
-/

namespace PipelineSync.Yaml

/-- A scalar, a sequence or a mapping. -/
inductive Node where
  | scalar (mark : Mark) (tag : Option String) (text : String) (isPlain : Bool)
  | sequence (mark : Mark) (tag : Option String) (items : List Node)
  | mapping (mark : Mark) (tag : Option String) (entries : List (Node × Node))
  /-- An alias within the node that it stands for. -/
  | circular (mark : Mark)
  /-- The place of a fault, behind which nothing is read. -/
  | cut (fault : Fault)
deriving Inhabited

namespace Node

/-- The place where a node starts. -/
def mark : Node → Mark
  | scalar m .. | sequence m .. | mapping m .. | circular m => m
  | cut fault => fault.mark

/-- Nothing, where something could be. -/
def nothing (mark : Mark) : Node := .scalar mark none "" true

/-- Data under a tag, if there is one. -/
def tagData (tag : Option String) (d : Data) : Data :=
  match tag with
  | some tag => .tagged tag d
  | none => d

mutual

/-- A node as data. -/
def toData : Node → Data
  | scalar _ tag text isPlain => tagData tag (if isPlain then .plain text else .text text)
  | sequence _ tag items => tagData tag (.list (itemsToData items))
  | mapping _ tag entries => tagData tag (.map (entriesToData entries))
  | circular _ | cut _ => .unreadable

/-- Nodes as data. -/
def itemsToData : List Node → List Data
  | [] => []
  | n :: rest => n.toData :: itemsToData rest

/-- The entries of a mapping as data. -/
def entriesToData : List (Node × Node) → List (Data × Data)
  | [] => []
  | (k, v) :: rest => (k.toData, v.toData) :: entriesToData rest

end

end Node

end PipelineSync.Yaml
