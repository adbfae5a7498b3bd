import PipelineSync.Text.Hexadecimal
import PipelineSync.Text.Split

/-!
# Tables of characters

Properties of characters are kept as ranges of code points in increasing order. Where characters
stand for texts, a table has lines: the code point of a character, and the texts of this character
and of those that follow it, with blanks between them. Code points in a text are hexadecimal, with
dots between them; a `-` takes the place of a text that is not there.
-/

namespace PipelineSync.Text

/-- Whether a character lies in one of the ranges, both ends included. -/
def inRanges (ranges : List (Nat × Nat)) (c : Char) : Bool :=
  ranges.any fun r => r.1 ≤ c.toNat && c.toNat ≤ r.2

/-- What the range of a character is marked with. -/
def rangeValue? {α : Type} (ranges : List (Nat × Nat × α)) (c : Char) : Option α :=
  (ranges.find? fun r => r.1 ≤ c.toNat && c.toNat ≤ r.2.1).map (·.2.2)

/-- The texts that the characters of a line write. -/
def textsOf (line : List Char) : List (Option (List Char)) :=
  (splitAt (· == ' ') line).map fun text =>
    (splitAt (· == '.') text).mapM fun digits => (hexNumber? digits).map Char.ofNat

/-- The texts of a line. -/
def lineTexts (texts : String) : List (Option (List Char)) := textsOf texts.toList

/-- The text of a character: it is in the last line that starts at the character or before it. -/
def lineText? (lines : List (Nat × String)) (c : Char) : Option (List Char) := do
  let (first, texts) ← (lines.takeWhile (·.1 ≤ c.toNat)).getLast?
  (← (lineTexts texts)[c.toNat - first]?)

/-- The characters from `first` on that have a text, with their texts. -/
def entriesFrom (first : Nat) (texts : List (Option (List Char))) : List (Char × List Char) :=
  texts.zipIdx.filterMap fun (text, i) => text.map (Char.ofNat (first + i), ·)

/-- All characters that have a text in the lines, with their texts. -/
def lineEntries (lines : List (Nat × String)) : List (Char × List Char) :=
  lines.flatMap fun (first, texts) => entriesFrom first (lineTexts texts)

end PipelineSync.Text
