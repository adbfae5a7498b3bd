import PipelineSync.Yaml.Scalar.Block
import PipelineSync.Yaml.Scalar.Plain
import PipelineSync.Yaml.Token

/-!
# The layout of a YAML text

Much of the structure of a YAML text is not written: blocks start and end with the indentation, and
what stands in front of a colon turns out to be a key only when the colon comes. A `Layout` keeps
account of both while the text is scanned, and `lexemes` are all tokens, written or not.
-/

namespace PipelineSync.Yaml

/-- A place where a key may have started. -/
structure KeyStart where
  /-- The number of lexemes in front of it. -/
  position : Nat
  mark : Mark
  /-- Whether nothing else can stand there. -/
  isRequired : Bool

/-- A lexeme, and those that turned out to stand in front of it. -/
structure Placed where
  before : List Lexeme := []
  lexeme : Lexeme

/-- A text that is scanned up to a cursor. -/
structure Layout where
  cursor : Cursor
  lexemes : Array Placed := #[]
  /-- The columns of the open blocks, the innermost first. -/
  indents : List Nat := []
  /-- Where the next key may have started. -/
  key : Option KeyStart := none
  /-- The same for what surrounds each open flow collection, the innermost first. -/
  outerKeys : List (Option KeyStart) := []
  /-- Whether a key may start at the cursor. -/
  mayStartKey : Bool := true

namespace Layout

/-- Whether a flow collection is open. -/
def inFlow (l : Layout) : Bool := !l.outerKeys.isEmpty

/-- The least column of a line that belongs into the innermost block. -/
def leastIndent (l : Layout) : Nat :=
  match l.indents with
  | [] => 0
  | column :: _ => column + 1

/-- Adds a lexeme that ends at a cursor. -/
def add (l : Layout) (token : Token) (behind : Cursor) : Layout :=
  { l with
    lexemes := l.lexemes.push { lexeme := ⟨token, l.cursor.mark, behind.mark⟩ }
    cursor := behind }

/-- Adds a token that is not written. -/
def addImplied (l : Layout) (token : Token) : Layout :=
  l.add token l.cursor

/-! ## Blocks -/

/-- Whether a block would start at a column. -/
def startsBlock (l : Layout) (column : Nat) : Bool :=
  !l.inFlow && l.indents.head?.all (· < column)

/-- Starts a block at the cursor if it is indented more than the innermost one. -/
def openBlock (l : Layout) (token : Token) : Layout :=
  let column := l.cursor.mark.column
  if l.startsBlock column then { l.addImplied token with indents := column :: l.indents } else l

/-- The layout without its innermost blocks that are indented by more than a column, or with no
block at all. -/
def closeBlocks (l : Layout) (column : Option Nat) : Layout :=
  if l.inFlow then l
  else
    let closed := l.indents.takeWhile fun n => column.all (· < n)
    { closed.foldl (fun l _ => l.addImplied .blockEnd) l with
      indents := l.indents.drop closed.length }

/-! ## Keys -/

/-- The fault that a key is not followed by a colon. -/
def missingColon (l : Layout) (key : KeyStart) : Fault :=
  .within .simpleKey key.mark .missingColon l.cursor.mark

/-- Gives up on the key that may have started, unless there has to be one. -/
def dropKey (l : Layout) : Except Fault Layout :=
  match l.key with
  | some key => if key.isRequired then .error (l.missingColon key) else .ok { l with key := none }
  | none => .ok l

/-- Notes that a key may start at the cursor. -/
def noteKey (l : Layout) : Except Fault Layout := do
  if !l.mayStartKey then return l
  let mark := l.cursor.mark
  let isRequired := !l.inFlow && l.indents.head? == some mark.column
  return { ← l.dropKey with key := some ⟨l.lexemes.size, mark, isRequired⟩ }

/-- Whether a key that started there can still go on: it stays on its line and is not too long. -/
def isFresh (l : Layout) (key : KeyStart) : Bool :=
  l.cursor.mark.line ≤ key.mark.line && l.cursor.mark.index ≤ key.mark.index + 1024

/-- Gives up on a key that cannot go on. -/
def freshKey (l : Layout) : Option KeyStart → Except Fault (Option KeyStart)
  | some key =>
    if l.isFresh key then .ok (some key)
    else if key.isRequired then .error (l.missingColon key)
    else .ok none
  | none => .ok none

/-- Gives up on all keys that cannot go on. -/
def dropStaleKeys (l : Layout) : Except Fault Layout := do
  let outer ← l.outerKeys.reverse.mapM l.freshKey
  return { l with outerKeys := outer.reverse, key := ← l.freshKey l.key }

/-! ## Tokens -/

/-- The place of the next token, and whether a key may start there: behind blanks, comments and line
ends. Tabs do not count as blanks where indentation matters. A byte order mark at the start of a line
has no meaning. -/
def nextToken (inFlow mayStartKey inComment : Bool) (mark : Mark) : List Char → Bool × Cursor
  | [] => (mayStartKey, ⟨[], mark⟩)
  | c :: cs =>
    if isBreak c then nextToken inFlow (mayStartKey || !inFlow) false (mark.after c) cs
    else if inComment || c == ' ' || (c == '\t' && (inFlow || !mayStartKey))
        || (c == '\ufeff' && mark.column == 0) then
      nextToken inFlow mayStartKey inComment (mark.after c) cs
    else if c == '#' then nextToken inFlow mayStartKey true (mark.after c) cs
    else (mayStartKey, ⟨c :: cs, mark⟩)

/-- Moves on to the next token. -/
def toNextToken (l : Layout) : Layout :=
  let (mayStartKey, cursor) := nextToken l.inFlow l.mayStartKey false l.cursor.mark l.cursor.rest
  { l with mayStartKey, cursor }

/-- The end of the text, which counts as the start of a line. -/
def atEnd (l : Layout) : Except Fault Layout := do
  let mark := l.cursor.mark
  let mark := if mark.column = 0 then mark else ⟨mark.index, mark.line + 1, 0⟩
  let l ← ({ l with cursor.mark := mark }.closeBlocks none).dropKey
  return l.addImplied .streamEnd

/-- A directive. -/
def atDirective (l : Layout) : Except Fault Layout := do
  let l ← (l.closeBlocks none).dropKey
  let (token, behind, next) ← directive l.cursor
  return { l.add token behind with cursor := next, mayStartKey := false }

/-- A marker of documents. -/
def atMarker (l : Layout) (token : Token) : Except Fault Layout := do
  let l ← (l.closeBlocks none).dropKey
  return { l.add token (l.cursor.advance 3) with mayStartKey := false }

/-- The start of a flow collection. -/
def atFlowStart (l : Layout) (token : Token) : Except Fault Layout := do
  let l ← l.noteKey
  return { l.add token (l.cursor.advance 1) with
    key := none, outerKeys := l.key :: l.outerKeys, mayStartKey := true }

/-- The end of a flow collection. -/
def atFlowEnd (l : Layout) (token : Token) : Except Fault Layout := do
  let l ← l.dropKey
  return { l.add token (l.cursor.advance 1) with
    key := l.outerKeys.head?.getD l.key, outerKeys := l.outerKeys.tail, mayStartKey := false }

/-- The comma of a flow collection. -/
def atFlowEntry (l : Layout) : Except Fault Layout := do
  let l ← l.dropKey
  return { l.add .flowEntry (l.cursor.advance 1) with mayStartKey := true }

/-- The layout with a block started at the cursor, where one may start. -/
def enterBlock (l : Layout) (problem : Problem) (token : Token) : Except Fault Layout :=
  if l.inFlow then .ok l
  else if !l.mayStartKey then .error { problem, mark := l.cursor.mark }
  else .ok (l.openBlock token)

/-- The sign of an item of a block sequence. -/
def atBlockEntry (l : Layout) : Except Fault Layout := do
  let l ← (← l.enterBlock .blockEntry .blockSequenceStart).dropKey
  return { l.add .blockEntry (l.cursor.advance 1) with mayStartKey := true }

/-- The sign of a key. -/
def atKey (l : Layout) : Except Fault Layout := do
  let l ← (← l.enterBlock .blockKey .blockMappingStart).dropKey
  return { l.add .key (l.cursor.advance 1) with mayStartKey := !l.inFlow }

/-- Puts lexemes in front of what may have been the start of a key: it was one. -/
def confirmKey (l : Layout) (key : KeyStart) : Layout :=
  let implied (token : Token) : Lexeme := ⟨token, key.mark, key.mark⟩
  let isNewBlock := l.startsBlock key.mark.column
  let before := (if isNewBlock then [implied .blockMappingStart] else []) ++ [implied .key]
  { l with
    lexemes := l.lexemes.modify key.position fun p => { p with before }
    indents := if isNewBlock then key.mark.column :: l.indents else l.indents
    key := none }

/-- The colon in front of a value. -/
def atValue (l : Layout) : Except Fault Layout := do
  let (l, mayStartKey) ← match l.key with
    | some key => pure (l.confirmKey key, false)
    | none => do pure (← l.enterBlock .blockValue .blockMappingStart, !l.inFlow)
  return { l.add .value (l.cursor.advance 1) with mayStartKey }

/-- An anchor or an alias. -/
def atAnchor (l : Layout) (context : Context) (token : String → Token) :
    Except Fault Layout := do
  let l ← l.noteKey
  let (name, behind) ← anchorName context l.cursor
  return { l.add (token name) behind with mayStartKey := false }

/-- A tag. -/
def atTag (l : Layout) : Except Fault Layout := do
  let l ← l.noteKey
  let (handle, suffix, behind) ← tag l.inFlow l.cursor
  return { l.add (.tag handle suffix) behind with mayStartKey := false }

/-- A block scalar. -/
def atBlockScalar (l : Layout) (isLiteral : Bool) : Except Fault Layout := do
  let l ← l.dropKey
  let (text, behind) ←
    Block.content isLiteral l.leastIndent l.cursor.mark (l.cursor.advance 1)
  return { l.add (.scalar (.ofList text) false) behind with mayStartKey := true }

/-- A quoted scalar. -/
def atQuoted (l : Layout) (isDouble : Bool) : Except Fault Layout := do
  let l ← l.noteKey
  let (text, behind) ← Quoted.content isDouble l.cursor.mark (l.cursor.advance 1)
  return { l.add (.scalar (.ofList text) false) behind with mayStartKey := false }

/-- A plain scalar. -/
def atPlain (l : Layout) : Except Fault Layout := do
  let l ← l.noteKey
  let s ← Plain.content l.inFlow l.leastIndent l.cursor.mark [] l.cursor
  return { l.add (.scalar (.ofList s.text) true) s.cursor with mayStartKey := s.isOnNewLine }

/-- Whether a plain scalar may start with a character, given what follows it. -/
def startsPlain (inFlow : Bool) (c : Char) (rest : List Char) : Bool :=
  !(isGap c || "-?:,[]\x7b\x7d#&*!|>'\"%@\x60".toList.contains c)
    || (c == '-' && !(rest.head?.any isBlank))
    || (!inFlow && (c == '?' || c == ':') && !gapAhead rest)

/-- Scans the token at the cursor. -/
def scanToken (l : Layout) : Except Fault Layout := do
  let l := l.closeBlocks (some l.cursor.mark.column)
  let noToken : Fault := .within .nextToken l.cursor.mark .noToken l.cursor.mark
  match l.cursor.rest with
  | [] => l.atEnd
  | c :: rest =>
    if l.cursor.mark.column = 0 && c == '%' then l.atDirective
    else if l.cursor.isAtMarker '-' then l.atMarker .documentStart
    else if l.cursor.isAtMarker '.' then l.atMarker .documentEnd
    else match c with
      | '[' => l.atFlowStart .flowSequenceStart
      | '\x7b' => l.atFlowStart .flowMappingStart
      | ']' => l.atFlowEnd .flowSequenceEnd
      | '\x7d' => l.atFlowEnd .flowMappingEnd
      | ',' => l.atFlowEntry
      | '*' => l.atAnchor .reference .reference
      | '&' => l.atAnchor .anchor .anchor
      | '!' => l.atTag
      | '\'' => l.atQuoted false
      | '"' => l.atQuoted true
      | _ =>
        if c == '-' && gapAhead rest then l.atBlockEntry
        else if c == '?' && (l.inFlow || gapAhead rest) then l.atKey
        else if c == ':' && (l.inFlow || gapAhead rest) then l.atValue
        else if c == '|' && !l.inFlow then l.atBlockScalar true
        else if c == '>' && !l.inFlow then l.atBlockScalar false
        else if startsPlain l.inFlow c rest then l.atPlain
        else throw noToken

/-- The layout behind one more token. -/
def step (l : Layout) : Except Fault Layout := do
  (← (← l.toNextToken.dropStaleKeys).scanToken).dropStaleKeys

/-- The first lexemes, in their order. -/
def firstLexemes (l : Layout) (n : Nat) : List Lexeme :=
  (l.lexemes.toList.take n).flatMap fun p => p.before ++ [p.lexeme]

/-- The number of lexemes in front of the first that may turn out to be a key. -/
def settled (l : Layout) : Nat :=
  (l.key :: l.outerKeys).foldl
    (fun n key => match key with
      | some key => min n key.position
      | none => n) l.lexemes.size

/-- Whether the end of the text is among the lexemes. -/
def isComplete (l : Layout) : Bool :=
  l.lexemes.back?.any (·.lexeme.token == .streamEnd)

/-- The lexemes of all that can be scanned, and why the rest cannot. With a fault ahead, nothing is
known of what may have been a key. -/
def scanAll (l : Layout) : List Lexeme × Option Fault :=
  match l.step with
  | .error fault => (l.firstLexemes l.settled, some fault)
  | .ok next =>
    if !next.isComplete ∧ next.cursor.rest.length < l.cursor.rest.length then next.scanAll
    else (next.firstLexemes next.lexemes.size, none)
termination_by l.cursor.rest.length

end Layout

/-- The byte in front of the first character that no text may hold. -/
def controlOffset? (offset : Nat) : List Char → Option Nat
  | [] => none
  | c :: cs => if isAllowed c then controlOffset? (offset + c.utf8Size) cs else some offset

/-- The lexemes of a text up to the first fault, if there is one. -/
def lexemes (s : String) : List Lexeme × Option Fault :=
  match controlOffset? 0 s.toList with
  | some offset => ([], some { problem := .controlCharacter offset })
  | none => Layout.scanAll { cursor := ⟨unifyBreaks s.toList, {}⟩ }

end PipelineSync.Yaml
