import PipelineSync.Yaml.Scalar.Quoted

/-!
# Plain scalars

Scalars without quotes. They end in front of a colon with a gap behind it, a comment, a line that is
not indented enough, and in flow collections in front of a bracket, a brace or a comma.
-/

namespace PipelineSync.Yaml.Plain

/-- Whether a scalar ends in front of what is left. -/
def endsHere (inFlow : Bool) : List Char → Bool
  | [] => true
  | c :: cs =>
    isGap c || (c == ':' && gapAhead cs) || (inFlow && [',', '[', ']', '\x7b', '\x7d'].contains c)

/-- Whether a colon stands in front of what is no part of a scalar in a flow collection. -/
def hasColonClash (inFlow : Bool) : List Char → Bool
  | ':' :: c :: _ => inFlow && [',', '?', '[', ']', '\x7b', '\x7d'].contains c
  | _ => false

/-- The number of characters up to a gap, the end of the scalar or a clash. -/
def partLength (inFlow : Bool) : List Char → Nat
  | [] => 0
  | c :: cs =>
    if endsHere inFlow (c :: cs) || hasColonClash inFlow (c :: cs) then 0
    else partLength inFlow cs + 1

/-- The place of the first tab that stands, behind a line end, where the indentation should be. -/
def tabFault? (indent : Nat) (onNewLine : Bool) (mark : Mark) : List Char → Option Mark
  | [] => none
  | c :: cs =>
    if onNewLine && mark.column < indent && c == '\t' then some mark
    else tabFault? indent (onNewLine || isBreak c) (mark.after c) cs

/-- A scalar, and the cursor behind the gap that follows it. -/
structure Scan where
  text : List Char
  cursor : Cursor
  /-- Whether there is a line end in that gap. -/
  isOnNewLine : Bool

/-- What is left of a scalar that starts at `start`, behind a gap. Outside of flow collections its
lines are indented by at least `indent`. -/
def content (inFlow : Bool) (indent : Nat) (start : Mark) (gap : List Char) (c : Cursor) :
    Except Fault Scan := do
  let n := partLength inFlow c.rest
  let behind := c.advance n
  if c.isAtBoundary || c.isAt '#' then return ⟨[], c, gap.any isBreak⟩
  if hasColonClash inFlow behind.rest then
    throw (.within .plainScalar start .unexpectedColon behind.mark)
  if n = 0 then return ⟨[], c, gap.any isBreak⟩
  let part := foldGap gap ++ c.rest.take n
  let (gap, next) := behind.span isGap
  if let some mark := tabFault? indent false behind.mark gap then
    throw (.within .plainScalar start .tabIndentation mark)
  if gap.isEmpty || (!inFlow && next.mark.column < indent) then
    return ⟨part, next, gap.any isBreak⟩
  if next.rest.length < c.rest.length then
    let more ← content inFlow indent start gap next
    return { more with text := part ++ more.text }
  else return ⟨part, next, gap.any isBreak⟩
termination_by c.rest.length

end PipelineSync.Yaml.Plain
