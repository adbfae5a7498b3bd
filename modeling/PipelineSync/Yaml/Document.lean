import PipelineSync.Yaml.Layout
import PipelineSync.Yaml.Node

/-!
# YAML documents

The node that the lexemes of a text spell. A text holds one document; `Yaml.parse` says what is
wrong with one that does not.
-/

namespace PipelineSync.Yaml

/-- What is left of a text, and what was named in it. -/
structure Reading where
  lexemes : List Lexeme
  /-- Why there are no more lexemes. -/
  fault : Option Fault
  /-- The fault at which the reading stopped. -/
  stopped : Option Fault := none
  /-- What the handles of tags stand for. -/
  handles : List (String × String) := []
  /-- The names of nodes with their numbers, the latest first. -/
  anchors : List (String × Nat) := []
  /-- The named nodes by number; one that is not complete is missing. -/
  named : Array (Option Node) := #[]

/-- A step of reading, which may fail. -/
abbrev Read := ExceptT Fault (StateM Reading)

namespace Read

/-- The next lexeme. -/
def peek : Read Lexeme := do
  match (← get).lexemes with
  | l :: _ => return l
  | [] => throw ((← get).fault.getD { problem := .nesting })

/-- Moves on to the lexeme behind the next one. -/
def skip : Read Unit :=
  modify fun r => { r with lexemes := r.lexemes.tail }

/-- Reads, and at a fault stops with the cut as the result. -/
def orCut {α : Type} (wrap : Node → α) (r : Read α) : Read α :=
  tryCatch r fun fault => do
    modify fun r => { r with stopped := some fault }
    return wrap (.cut fault)

/-- Whether the reading stopped at a fault. -/
def hasStopped : Read Bool := do
  return (← get).stopped.isSome

/-! ## Names and tags -/

/-- Gives a name to the node that comes next. -/
def openAnchor (name : Option String) : Read (Option Nat) := do
  match name with
  | none => return none
  | some name =>
    let r ← get
    set { r with anchors := (name, r.named.size) :: r.anchors, named := r.named.push none }
    return some r.named.size

/-- The node with a number is complete. -/
def closeAnchor (number : Option Nat) (n : Node) : Read Unit := do
  if let some i := number then
    modify fun r => { r with named := r.named.setIfInBounds i (some n) }

/-- The node that an alias stands for. -/
def resolveAlias (name : String) (mark : Mark) : Read Node := do
  let r ← get
  match r.anchors.lookup name with
  | some i => return (r.named[i]?.join).getD (.circular mark)
  | none => throw { problem := .unknownAnchor, mark }

/-- What may stand in front of a node. -/
structure Properties where
  anchor : Option String := none
  /-- The handle and the suffix of the tag. -/
  tag : Option (String × String) := none
  tagMark : Mark := {}

/-- The anchor that comes next, if there is one. -/
def anchor? : Read (Option String) := do
  match (← peek).token with
  | .anchor name => skip; return some name
  | _ => return none

/-- The tag that comes next, if there is one. -/
def tag? (p : Properties) : Read Properties := do
  let l ← peek
  match l.token with
  | .tag handle suffix => skip; return { p with tag := some (handle, suffix), tagMark := l.start }
  | _ => return p

/-- An anchor and a tag, in either order. -/
def properties : Read Properties := do
  let before ← anchor?
  let p ← tag? { anchor := before }
  if before.isSome then return p
  if p.tag.isNone then return p
  return { p with anchor := ← anchor? }

/-- The full tag of a node that starts at `start`. -/
def fullTag (p : Properties) (start : Mark) : Read (Option String) := do
  match p.tag with
  | none => return none
  | some ("", suffix) => return some suffix
  | some (handle, suffix) =>
    match (← get).handles.lookup handle with
    | some lead => return some (lead ++ suffix)
    | none => throw (.within .node start .unknownHandle p.tagMark)

/-! ## Nodes -/

/-- Whether the next lexeme is none of these. -/
def comes (ends : List Token) : Read Bool := do
  return !ends.contains (← peek).token

/-- The value of an entry that is a key and nothing else. -/
def emptyValue : Read Node := do
  if let some fault := (← get).stopped then throw fault
  return .nothing (← peek).start

mutual

/-- A node. Only outside of flow collections it may be a block; a sequence without indentation only
where an entry of a block mapping can be. The fuel bounds the number of steps within each other. -/
def node (fuel : Nat) (isBlock isEntry : Bool) : Read Node := do
  match fuel with
  | 0 => throw { problem := .nesting }
  | fuel + 1 =>
    let first ← peek
    if let .reference name := first.token then
      skip
      return ← resolveAlias name first.start
    let p ← properties
    let tag ← fullTag p first.start
    let number ← openAnchor p.anchor
    let l ← peek
    let n ← match l.token, isBlock, isEntry with
      | .blockEntry, _, true => do
        pure (.sequence first.start tag (← bareItems fuel))
      | .scalar text isPlain, _, _ => do
        skip
        pure (.scalar first.start tag text isPlain)
      | .flowSequenceStart, _, _ => do
        skip
        pure (.sequence first.start tag (← flowItems fuel l.start true))
      | .flowMappingStart, _, _ => do
        skip
        pure (.mapping first.start tag (← flowEntries fuel l.start true))
      | .blockSequenceStart, true, _ => do
        skip
        pure (.sequence first.start tag (← blockItems fuel l.start))
      | .blockMappingStart, true, _ => do
        skip
        pure (.mapping first.start tag (← blockEntries fuel l.start))
      | _, _, _ => do
        if p.anchor.isNone && p.tag.isNone then
          throw (.within (if isBlock then .blockNode else .flowNode) first.start .nodeContent l.start)
        pure (.scalar first.start tag "" true)
    closeAnchor number n
    return n

/-- The rest of a block sequence that starts at `start`. -/
def blockItems (fuel : Nat) (start : Mark) : Read (List Node) := do
  match fuel with
  | 0 => throw { problem := .nesting }
  | fuel + 1 => orCut (fun cut => [cut]) do
    let l ← peek
    match l.token with
    | .blockEntry =>
      skip
      let item ← if ← comes [.blockEntry, .blockEnd] then node fuel true false
        else pure (.nothing l.stop)
      if ← hasStopped then return [item]
      return item :: (← blockItems fuel start)
    | .blockEnd =>
      skip
      return []
    | _ => throw (.within .blockSequence start .sequenceEntry l.start)

/-- The rest of a block sequence that is not indented. -/
def bareItems (fuel : Nat) : Read (List Node) := do
  match fuel with
  | 0 => throw { problem := .nesting }
  | fuel + 1 => orCut (fun cut => [cut]) do
    let l ← peek
    match l.token with
    | .blockEntry =>
      skip
      let item ← if ← comes [.blockEntry, .key, .value, .blockEnd] then node fuel true false
        else pure (.nothing l.stop)
      if ← hasStopped then return [item]
      return item :: (← bareItems fuel)
    | _ => return []

/-- The rest of a block mapping that starts at `start`. -/
def blockEntries (fuel : Nat) (start : Mark) : Read (List (Node × Node)) := do
  match fuel with
  | 0 => throw { problem := .nesting }
  | fuel + 1 => orCut (fun cut => [(cut, cut)]) do
    let l ← peek
    match l.token with
    | .key =>
      skip
      let key ← if ← comes [.key, .value, .blockEnd] then node fuel true true
        else pure (.nothing l.stop)
      let value ← orCut id (blockValue fuel)
      if ← hasStopped then return [(key, value)]
      return (key, value) :: (← blockEntries fuel start)
    | .blockEnd =>
      skip
      return []
    | _ => throw (.within .blockMapping start .mappingKey l.start)

/-- The value of an entry in a block mapping. -/
def blockValue (fuel : Nat) : Read Node := do
  match fuel with
  | 0 => throw { problem := .nesting }
  | fuel + 1 =>
    if let some fault := (← get).stopped then throw fault
    let v ← peek
    if v.token == .value then
      skip
      if ← comes [.key, .value, .blockEnd] then node fuel true true else return .nothing v.stop
    else return .nothing v.start

/-- The rest of a flow sequence that starts at `start`. -/
def flowItems (fuel : Nat) (start : Mark) (isFirst : Bool) : Read (List Node) := do
  match fuel with
  | 0 => throw { problem := .nesting }
  | fuel + 1 => orCut (fun cut => [cut]) do
    let l ← peek
    if !isFirst && l.token == .flowEntry then skip
    else if !isFirst && l.token ≠ .flowSequenceEnd then
      throw (.within .flowSequence start .flowSequenceEnd l.start)
    let l ← peek
    match l.token with
    | .flowSequenceEnd =>
      skip
      return []
    | .key =>
      skip
      let pair ← orCut (fun cut => (cut, cut)) (flowPair fuel)
      let item : Node := .mapping l.start none [pair]
      if ← hasStopped then return [item]
      return item :: (← flowItems fuel start false)
    | _ =>
      let item ← node fuel false false
      if ← hasStopped then return [item]
      return item :: (← flowItems fuel start false)

/-- An entry that stands in a flow sequence, as a mapping of its own. -/
def flowPair (fuel : Nat) : Read (Node × Node) := do
  match fuel with
  | 0 => throw { problem := .nesting }
  | fuel + 1 =>
    let k ← peek
    let key ← if ← comes [.value, .flowEntry, .flowSequenceEnd] then node fuel false false
      else do
        skip
        pure (.nothing k.stop)
    return (key, ← orCut id (flowValue fuel .flowSequenceEnd))

/-- The rest of a flow mapping that starts at `start`. -/
def flowEntries (fuel : Nat) (start : Mark) (isFirst : Bool) : Read (List (Node × Node)) := do
  match fuel with
  | 0 => throw { problem := .nesting }
  | fuel + 1 => orCut (fun cut => [(cut, cut)]) do
    let l ← peek
    if !isFirst && l.token == .flowEntry then skip
    else if !isFirst && l.token ≠ .flowMappingEnd then
      throw (.within .flowMapping start .flowMappingEnd l.start)
    let l ← peek
    if l.token == .flowMappingEnd then
      skip
      return []
    let isMarked := l.token == .key
    if isMarked then skip
    let k ← peek
    let key ← if !isMarked || (← comes [.value, .flowEntry, .flowMappingEnd]) then
        node fuel false false
      else pure (.nothing k.start)
    let value ← orCut id <|
      if isMarked then flowValue fuel .flowMappingEnd else emptyValue
    if ← hasStopped then return [(key, value)]
    return (key, value) :: (← flowEntries fuel start false)

/-- The value of an entry in a flow collection with this end. -/
def flowValue (fuel : Nat) (last : Token) : Read Node := do
  match fuel with
  | 0 => throw { problem := .nesting }
  | fuel + 1 =>
    if let some fault := (← get).stopped then throw fault
    let v ← peek
    if v.token == .value then
      skip
      let l ← peek
      if ← comes [.flowEntry, last] then node fuel false false else return .nothing l.start
    else return .nothing v.start

end

/-! ## Documents -/

/-- The handles that need no directive. -/
def commonHandles : List (String × String) :=
  [("!", "!"), ("!!", "tag:yaml.org,2002:")]

/-- The directives in front of a document. -/
def directives (hasVersion : Bool) : List Lexeme → Read Unit
  | [] => return
  | l :: rest => do
    match l.token with
    | .versionDirective major minor =>
      if hasVersion then throw { problem := .duplicateVersion, mark := l.start }
      if major ≠ 1 ∨ (minor ≠ 1 ∧ minor ≠ 2) then
        throw { problem := .otherVersion, mark := l.start }
      skip
      directives true rest
    | .tagDirective handle lead =>
      let r ← get
      if (r.handles.lookup handle).isSome then
        throw { problem := .duplicateHandle, mark := l.start }
      set { r with handles := (handle, lead) :: r.handles }
      skip
      directives hasVersion rest
    | _ => return

/-- Whether a token starts a document that does not start with its content. -/
def isProlog : Token → Bool
  | .versionDirective .. | .tagDirective .. | .documentStart => true
  | _ => false

/-- What comes in front of a document, and whether the document is empty then. -/
def prolog : Read Bool := do
  if !isProlog (← peek).token then
    modify fun r => { r with handles := commonHandles }
    return false
  directives false (← get).lexemes
  let l ← peek
  if l.token ≠ .documentStart then throw { problem := .documentStart, mark := l.start }
  skip
  modify fun r => { r with handles := r.handles ++ commonHandles }
  let l ← peek
  return isProlog l.token || l.token == .documentEnd || l.token == .streamEnd

/-- The first document of a text, which is empty if there is none. -/
def document (fuel : Nat) : Read Node := do
  let l ← peek
  if l.token == .streamEnd then return .nothing l.start
  if ← prolog then return .nothing (← peek).start
  node fuel true false

/-- The end of the document, behind which there must be no other. -/
def finish : Read Unit := do
  if let some fault := (← get).stopped then throw fault
  if (← peek).token == .documentEnd then skip
  let rest := (← get).lexemes.dropWhile (·.token == .documentEnd)
  if !rest.head?.any (·.token == .streamEnd) then throw { problem := .manyDocuments }

/-- The document that a text holds. -/
def wholeText (fuel : Nat) : Read Node := do
  let root ← orCut id (document fuel)
  tryCatch finish fun fault => modify fun r => { r with stopped := some fault }
  return root

end Read

/-- The node that a text holds, and its first fault. -/
def parse (s : String) : Node × Option Fault :=
  let (lexemes, fault) := lexemes s
  match (Read.wholeText (3 * lexemes.length + 3)).run { lexemes, fault } with
  | (.ok root, r) => (root, r.stopped)
  | (.error fault, _) => (.cut fault, some fault)

end PipelineSync.Yaml
