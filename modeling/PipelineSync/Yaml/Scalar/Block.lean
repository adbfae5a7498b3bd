import PipelineSync.Yaml.Fault

/-!
# Block scalars

Scalars that consist of the indented lines below an indicator. A literal one keeps its line ends; in
a folded one a line end between two lines that do not start with a blank becomes a space.
-/

namespace PipelineSync.Yaml.Block

/-- What becomes of the line ends behind the last line. -/
inductive Chomping where
  /-- None is kept. -/
  | strip
  /-- The first is kept. -/
  | clip
  /-- All are kept. -/
  | keep
deriving DecidableEq, Repr

/-- The sign for what becomes of the last line ends, if there is one. -/
def chomping? (c : Cursor) : Option Chomping × Cursor :=
  if c.isAt '+' then (some .keep, c.advance 1)
  else if c.isAt '-' then (some .strip, c.advance 1)
  else (none, c)

/-- The digit that says how far the lines are indented, if there is one. -/
def indentation? (start : Mark) (c : Cursor) : Except Fault (Option Nat × Cursor) :=
  match c.next? with
  | some d =>
    if d == '0' then .error (.within .blockScalar start .zeroIndentation c.mark)
    else if d.isDigit then .ok (some (d.toNat - '0'.toNat), c.advance 1)
    else .ok (none, c)
  | none => .ok (none, c)

/-- The signs behind the indicator, in either order. -/
def signs (start : Mark) (c : Cursor) :
    Except Fault (Chomping × Option Nat × Cursor) := do
  let (before, c) := chomping? c
  let (digit, c) ← indentation? start c
  let (chomping, c) := if before.isSome then (before, c) else chomping? c
  return (chomping.getD .clip, digit, c)

/-- The line ends of the empty lines in front of the next line, the widest column among them and the
cursor behind the indentation. Without a known indentation all spaces belong to it. -/
def emptyLines (start : Mark) (indent : Option Nat) (widest : Nat) (mark : Mark) :
    List Char → Except Fault (List Char × Nat × Cursor)
  | [] => .ok ([], max widest mark.column, ⟨[], mark⟩)
  | c :: cs =>
    let widest := max widest mark.column
    let isIndenting := match indent with
      | some n => mark.column < n
      | none => true
    if isIndenting && c == ' ' then emptyLines start indent widest (mark.after c) cs
    else if isIndenting && c == '\t' then .error (.within .blockScalar start .tabInBlock mark)
    else if isBreak c then do
      let (ends, widest, last) ← emptyLines start indent widest (mark.after c) cs
      return (c :: ends, widest, last)
    else .ok ([], widest, ⟨c :: cs, mark⟩)

/-- A line of a block scalar. -/
structure Line where
  text : List Char := []
  /-- The line end, unless the line is the last of the text. -/
  lineEnd : List Char := []
  /-- The line ends of the empty lines that follow. -/
  emptyLines : List Char := []

/-- The lines that are indented by `indent`, and the cursor behind them. -/
def lines (start : Mark) (indent : Nat) (c : Cursor) : Except Fault (List Line × Cursor) := do
  if c.mark.column ≠ indent then return ([], c)
  let (text, c₁) := c.span (!isBreak ·)
  let lineEnd := c₁.rest.take 1
  let c₁ := c₁.advance 1
  let (ends, _, next) ← emptyLines start (some indent) 0 c₁.mark c₁.rest
  if next.rest.length < c.rest.length then
    let (more, last) ← lines start indent next
    return (⟨text, lineEnd, ends⟩ :: more, last)
  else return ([], c)
termination_by c.rest.length

/-- Whether a line starts with a blank. -/
def Line.isIndented (l : Line) : Bool :=
  match l.text.head? with
  | some c => isBlank c
  | none => false

/-- What stands between two lines. -/
def separator (isLiteral : Bool) (before l : Line) : List Char :=
  if !isLiteral && before.lineEnd == ['\n'] && !before.isIndented && !l.isIndented then
    if before.emptyLines.isEmpty then [' '] else before.emptyLines
  else before.lineEnd ++ before.emptyLines

/-- The lines behind a line in one. -/
def join (isLiteral : Bool) (chomping : Chomping) (before : Line) : List Line → List Char
  | [] =>
    match chomping with
    | .strip => []
    | .clip => before.lineEnd
    | .keep => before.lineEnd ++ before.emptyLines
  | l :: rest => separator isLiteral before l ++ l.text ++ join isLiteral chomping l rest

/-- The scalar behind an indicator at `start`, in a block whose lines are indented by at least
`least`, and the cursor behind it. -/
def content (isLiteral : Bool) (least : Nat) (start : Mark) (c : Cursor) :
    Except Fault (List Char × Cursor) := do
  let (chomping, digit, c) ← signs start c
  let c := (c.skip isBlank).skipComment
  if !(c.rest.head?.all isBreak) then throw (.within .blockScalar start .lineEnd c.mark)
  let c := c.advance 1
  let given := digit.map (least - 1 + ·)
  let (ends, widest, c) ← emptyLines start given 0 c.mark c.rest
  let (ls, last) ← lines start (given.getD (max widest (max least 1))) c
  return (join isLiteral chomping { emptyLines := ends } ls, last)

end PipelineSync.Yaml.Block
