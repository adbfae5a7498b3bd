import PipelineSync.Log
import PipelineSync.Text.Blank
import PipelineSync.Text.Fold
import PipelineSync.Text.Split

/-!
# Log filters

A filter tells which lines of the log are shown. It is written as directives with commas between
them: a level for the whole program, or the start of the names of some areas, with or without a
level of their own. Behind a `/` may stand a text that messages have to hold.
-/

namespace PipelineSync.Log

/-- The rank of the last level that a word lets through. -/
def rank? (word : String) : Option Nat :=
  match Text.fold word with
  | "off" => some 0
  | "error" => some 1
  | "warn" => some 2
  | "info" => some 3
  | "debug" => some 4
  | "trace" => some 5
  | _ => none

/-- What holds for the areas whose names have a start in common. -/
structure Directive where
  /-- The start of the names; every area has an empty start. -/
  start : String
  /-- The rank of the last level that is shown. -/
  rank : Nat
deriving DecidableEq, Repr

/-- Which lines are shown. -/
structure Filter where
  directives : List Directive := []
  /-- A text that messages have to hold. -/
  part : String := ""
  /-- What made no sense in the text of the filter. -/
  complaints : List String := []
deriving DecidableEq, Repr

namespace Filter

/-- What made no sense, in quotes. -/
def nonsense (text : String) : String := "invalid logging spec '" ++ text ++ "'"

/-- Reads a directive: a level, a start, or a start and a level. -/
def readDirective (text : String) : Except String Directive :=
  match (Text.splitAt (· == '=') text.toList).map String.ofList with
  | [word] =>
    match rank? word with
    | some rank => .ok ⟨"", rank⟩
    | none => .ok ⟨word, Level.trace.rank⟩
  | [start, word] =>
    let word := Text.trim word
    match rank? word with
    | some rank => .ok ⟨start, rank⟩
    | none => if word = "" then .ok ⟨start, Level.trace.rank⟩ else .error (nonsense word)
  | _ => .error (nonsense text)

/-- Adds what a directive says, or a complaint about it. -/
def add (f : Filter) (text : String) : Filter :=
  match readDirective text with
  | .ok d => { f with directives := f.directives ++ [d] }
  | .error complaint => { f with complaints := f.complaints ++ [complaint] }

/-- Reads a filter. What makes no sense is left out. -/
def ofText (text : String) : Filter :=
  let directives (cs : List Char) : List String :=
    ((Text.splitAt (· == ',') cs).map fun d => Text.trim (String.ofList d)).filter (· ≠ "")
  match Text.splitAt (· == '/') text.toList with
  | [front] => (directives front).foldl add {}
  | [front, part] => (directives front).foldl add { part := String.ofList part }
  | _ => { complaints := [nonsense text ++ " (too many '/'s)"] }

/-- The rank of the last level that is shown of an area: of the directives that concern it, the one
with the longest start counts, and of equal ones the last. Without any directive errors are shown. -/
def rankOf (f : Filter) (a : Area) : Nat :=
  if f.directives.isEmpty then Level.error.rank
  else
    let concerning := f.directives.filter fun d => d.start.toList.isPrefixOf a.name.toList
    (concerning.foldl (fun best d =>
      if d.start.length < best.start.length then best else d) ⟨"", 0⟩).rank

/-- Whether a line is shown. -/
def admits (f : Filter) (l : Line) : Bool :=
  l.level.rank ≤ f.rankOf l.area && Text.occursIn f.part.toList l.message.toList

end Filter

end PipelineSync.Log
