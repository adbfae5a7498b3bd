import PipelineSync.Diagnosis.Shape
import PipelineSync.Yaml.Node

/-!
# What is wrong with a YAML document

The first place, in the order of the text, where a document departs from a shape. A fault of the text
counts where it stands.
-/

namespace PipelineSync.Yaml

/-- The path of an entry. -/
def entryPath (path key : String) : String :=
  if path.isEmpty then key else path ++ "." ++ key

/-- The path of an item. -/
def itemPath (path : String) (i : Nat) : String :=
  (if path.isEmpty then "." else path) ++ "[" ++ toString i ++ "]"

/-- A complaint about what is at a path. -/
def complaint (path : String) (mark : Mark) (message : String) : String :=
  (if path.isEmpty then "" else path ++ ": ") ++ message
    ++ (if mark.isStart then "" else " at " ++ mark.text)

/-- How messages show a scalar: without quotes it is shown with the type that it looks like. -/
def showScalar (text : String) (isPlain : Bool) : String :=
  if !isPlain then Shape.showText text
  else match Data.typedWord text with
    | .null => "unit value"
    | .bool b => Shape.showBool b
    | .number digits => Shape.showNumber digits
    | _ => Shape.showText text

namespace Node

mutual

/-- The first cut in a node that nobody asks for. -/
def firstCut? : Node → Option Fault
  | scalar .. | circular _ => none
  | sequence _ _ items => firstCutOfItems? items
  | mapping _ _ entries => firstCutOfEntries? entries
  | cut fault => some fault

/-- The first cut among items. -/
def firstCutOfItems? : List Node → Option Fault
  | [] => none
  | n :: rest => n.firstCut?.or (firstCutOfItems? rest)

/-- The first cut among entries. -/
def firstCutOfEntries? : List (Node × Node) → Option Fault
  | [] => none
  | (k, v) :: rest => (k.firstCut?.or v.firstCut?).or (firstCutOfEntries? rest)

end

/-- Why a scalar is not of a shape. -/
def scalarComplaint? (shape : Shape) (path : String) (mark : Mark) (text : String)
    (isPlain : Bool) : Option String :=
  let wrongKind (expected : String) : Option String :=
    some (complaint path mark (Shape.wrongKind (showScalar text isPlain) expected))
  if shape.isOptional && isPlain && Data.isNullWord text then none
  else match shape.present with
    | .text _ | .any | .optional _ => none
    | .time =>
      if (Time.ofText? text).isSome then none
      else some (complaint path mark (Time.faultText text))
    | .bool => if isPlain && (Data.boolWord? text).isSome then none else wrongKind "a boolean"
    | .word _ words =>
      if words.contains text then none
      else some (complaint path mark (Shape.unknownWord text words))
    | .list _ => if isPlain && text.isEmpty then none else wrongKind "a sequence"
    | .pair =>
      if isPlain && text.isEmpty then
        some (complaint path mark (Shape.wrongLength 0 "a tuple of size 2"))
      else wrongKind "a tuple of size 2"
    | .record typeName fields =>
      if isPlain && text.isEmpty then
        (Shape.missing? fields []).map fun name => complaint path mark (Shape.missingField name)
      else wrongKind ("struct " ++ typeName)

mutual

/-- Why a node is not of a shape. -/
def complaint? (shape : Shape) (path : String) : Node → Option String
  | scalar mark _ text isPlain => scalarComplaint? shape path mark text isPlain
  | sequence mark _ items =>
    match shape.present with
    | .list item => itemsComplaint? item path 0 items
    | .pair =>
      (itemsComplaint? .string path 0 items).or <|
        if items.length < 2 then
          some (complaint path mark (Shape.wrongLength items.length "a tuple of size 2"))
        else if 2 < items.length then
          some (complaint path mark
            (Shape.wrongLength items.length "sequence of 2 elements"))
        else none
    | .any => (firstCutOfItems? items).map Fault.message
    | .word .. =>
      some (complaint path mark (Shape.wrongKind "sequence" "a YAML tag starting with '!'"))
    | shape => some (complaint path mark (Shape.wrongKind "sequence" shape.expected))
  | mapping mark _ entries =>
    match shape.present with
    | .record _ fields => entriesComplaint? fields path mark [] entries
    | .any => (firstCutOfEntries? entries).map Fault.message
    | .word .. =>
      some (complaint path mark (Shape.wrongKind "map" "a YAML tag starting with '!'"))
    | shape => some (complaint path mark (Shape.wrongKind "map" shape.expected))
  | circular _ => some "recursion limit exceeded"
  | cut fault => some fault.message

/-- Why one of some items is not of a shape. -/
def itemsComplaint? (item : Shape) (path : String) (i : Nat) : List Node → Option String
  | [] => none
  | n :: rest =>
    (n.complaint? item (itemPath path i)).or (itemsComplaint? item path (i + 1) rest)

/-- Why the rest of a mapping at `mark` is no record. -/
def entriesComplaint? (fields : List Shape.Field) (path : String) (mark : Mark)
    (seen : List String) : List (Node × Node) → Option String
  | [] =>
    (Shape.missing? fields seen).map fun name => complaint path mark (Shape.missingField name)
  | (scalar _ _ key _, value) :: rest =>
    match Shape.findField? fields key with
    | some f =>
      let name := Shape.fieldName f
      if seen.contains name then some (complaint path mark (Shape.duplicateField name))
      else (value.complaint? f.2.2 (entryPath path key)).or
        (entriesComplaint? fields path mark (name :: seen) rest)
    | none =>
      (value.firstCut?.map Fault.message).or (entriesComplaint? fields path mark seen rest)
  | (sequence m _ _, _) :: _ =>
    some (complaint path m (Shape.wrongKind "sequence" "field identifier"))
  | (mapping m _ _, _) :: _ => some (complaint path m (Shape.wrongKind "map" "field identifier"))
  | (cut fault, _) :: _ => some fault.message
  | (circular _, _) :: _ => some "recursion limit exceeded"

end

end Node

end PipelineSync.Yaml
