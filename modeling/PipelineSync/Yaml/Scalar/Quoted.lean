import PipelineSync.Text.Hexadecimal
import PipelineSync.Yaml.Fault

/-!
# Quoted scalars

Scalars between single quotes, where a quote within is written twice, and between double quotes,
where a backslash starts an escape. A scalar may go on over line ends: `foldGap` says what comes of
them.
-/

namespace PipelineSync.Yaml

/-- What the blanks and line ends between two parts of a scalar come to: blanks stay as they are, a
single line feed becomes a space, and of several only those behind the first stay. -/
def foldGap (gap : List Char) : List Char :=
  match gap.filter isBreak with
  | [] => gap
  | ['\n'] => [' ']
  | '\n' :: more => more
  | breaks => breaks

namespace Quoted

/-- Characters of a quoted scalar up to a gap, the closing quote or an escaped line end, and the
cursor behind them. -/
structure Part where
  text : List Char
  /-- Whether a line end was escaped, so that the gap behind it vanishes. -/
  isContinued : Bool
  cursor : Cursor

/-- The part with a character in front. -/
def Part.cons (c : Char) (p : Part) : Part := { p with text := c :: p.text }

/-- A part between single quotes. -/
def singlePart (mark : Mark) : List Char → Part
  | '\'' :: '\'' :: cs => (singlePart ((mark.after '\'').after '\'') cs).cons '\''
  | c :: cs =>
    if isGap c || c == '\'' then ⟨[], false, ⟨c :: cs, mark⟩⟩
    else (singlePart (mark.after c) cs).cons c
  | [] => ⟨[], false, ⟨[], mark⟩⟩

/-- The character that a letter behind a backslash stands for. -/
def escaped? : Char → Option Char
  | '0' => some '\x00'
  | 'a' => some '\x07'
  | 'b' => some '\x08'
  | 't' | '\t' => some '\t'
  | 'n' => some '\n'
  | 'v' => some '\x0b'
  | 'f' => some '\x0c'
  | 'r' => some '\r'
  | 'e' => some '\x1b'
  | ' ' => some ' '
  | '"' => some '"'
  | '/' => some '/'
  | '\\' => some '\\'
  | 'N' => some '\u0085'
  | '_' => some '\u00a0'
  | 'L' => some '\u2028'
  | 'P' => some '\u2029'
  | _ => none

/-- How many digits follow a letter that announces a code point. -/
def codeLength? : Char → Option Nat
  | 'x' => some 2
  | 'u' => some 4
  | 'U' => some 8
  | _ => none

/-- The value of the first `n` characters as hexadecimal digits. -/
def codeValue? (n : Nat) (cs : List Char) : Option Nat :=
  if cs.length < n then none else Text.hexNumber? (cs.take n)

/-- A part between double quotes, of a scalar that starts at `start`. -/
def doublePart (start mark : Mark) : List Char → Except Fault Part
  | [] => .ok ⟨[], false, ⟨[], mark⟩⟩
  | ['\\'] => .error (.within .escape start .unknownEscape mark)
  | '\\' :: e :: cs =>
    let inner := (mark.after '\\').after e
    if isBreak e then .ok ⟨[], true, ⟨cs, inner⟩⟩
    else match escaped? e, codeLength? e with
      | some c, _ => (Part.cons c ·) <$> doublePart start inner cs
      | none, none => .error (.within .escape start .unknownEscape mark)
      | none, some n =>
        match codeValue? n cs with
        | none => .error (.within .escape start .hexDigits inner)
        | some value =>
          if value.isValidChar then
            (Part.cons (.ofNat value) ·) <$>
              doublePart start ((cs.take n).foldl Mark.after inner) (cs.drop n)
          else .error (.within .escape start .codePoint inner)
  | c :: cs =>
    if isGap c || c == '"' then .ok ⟨[], false, ⟨c :: cs, mark⟩⟩
    else (Part.cons c ·) <$> doublePart start (mark.after c) cs
termination_by cs => cs.length
decreasing_by all_goals simp; try omega

/-- What is left of a scalar that starts at `start`, and the cursor behind its closing quote. -/
def content (isDouble : Bool) (start : Mark) (c : Cursor) : Except Fault (List Char × Cursor) := do
  if c.isAtBoundary then throw (.within .quotedScalar start .boundaryInQuotes c.mark)
  let part ← if isDouble then doublePart start c.mark c.rest else .ok (singlePart c.mark c.rest)
  if part.cursor.isAt (if isDouble then '"' else '\'') then
    return (part.text, part.cursor.advance 1)
  let (gap, next) := part.cursor.span isGap
  if next.rest.length < c.rest.length then
    let (more, last) ← content isDouble start next
    return (part.text ++ (if part.isContinued then gap.filter isBreak else foldGap gap) ++ more,
      last)
  else throw (.within .quotedScalar start .unclosedQuotes next.mark)
termination_by c.rest.length

end Quoted

end PipelineSync.Yaml
