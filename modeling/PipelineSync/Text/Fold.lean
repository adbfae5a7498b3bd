/-!
# Case folding

Names are compared without regard to the case of the letters `A` to `Z`; all other characters
stand for themselves.
-/

namespace PipelineSync.Text

/-- Letters `A` to `Z` in lower case, all else as it is. -/
def fold (s : String) : String :=
  String.ofList (s.toList.map Char.toLower)

end PipelineSync.Text
