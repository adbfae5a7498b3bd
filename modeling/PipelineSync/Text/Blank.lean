/-!
# White space

The Unicode property `White_Space`, and the operations on text that are defined by it: trimming
and splitting into words.
-/

namespace PipelineSync.Text

/-- The characters with the Unicode property `White_Space`. -/
def isBlank (c : Char) : Bool :=
  let n := c.toNat
  (0x09 ≤ n && n ≤ 0x0D) || n == 0x20 || n == 0x85 || n == 0xA0 || n == 0x1680 ||
    (0x2000 ≤ n && n ≤ 0x200A) || n == 0x2028 || n == 0x2029 || n == 0x202F || n == 0x205F ||
    n == 0x3000

/-- Drops white space from the front. -/
def trimStart (cs : List Char) : List Char :=
  cs.dropWhile isBlank

/-- Drops from the end every character that satisfies `p`. -/
def dropEndWhile (p : Char → Bool) (cs : List Char) : List Char :=
  (cs.reverse.dropWhile p).reverse

/-- Drops white space from both ends. -/
def trim (s : String) : String :=
  String.ofList (dropEndWhile isBlank (trimStart s.toList))

/-- The maximal runs of characters that do not satisfy `p`, empty ones left out. -/
def runsWithout (p : Char → Bool) (cs : List Char) : List (List Char) :=
  (cs.splitBy fun a b => p a == p b).filter fun run => run.any fun c => !p c

/-- The maximal runs of characters other than white space. -/
def words (s : String) : List String :=
  (runsWithout isBlank s.toList).map String.ofList

/-- Text that holds nothing but white space. -/
def isBlankText (s : String) : Bool :=
  s.toList.all isBlank

end PipelineSync.Text
