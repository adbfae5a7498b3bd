import PipelineSync.Text.Split

/-!
# Replacing parts of a text

Every occurrence of a part is replaced, from left to right; occurrences do not overlap.
-/

namespace PipelineSync.Text

/-- What is behind a part that is not empty is shorter than the whole. -/
theorem length_lt_of_dropAffix? {part cs behind : List Char}
    (h : dropAffix? part cs = some behind) (hne : part ≠ []) : behind.length < cs.length := by
  have := congrArg List.length (dropAffix?_eq_some h)
  have := List.length_pos_iff.2 hne
  simp only [List.length_append] at *
  omega

/-- Replaces every occurrence of `part`, which is not empty. -/
def replaceAll (part replacement cs : List Char) : List Char :=
  match cs with
  | [] => []
  | c :: rest =>
    match h : dropAffix? part (c :: rest) with
    | some behind =>
      if hne : part = [] then c :: replaceAll part replacement rest
      else
        have : behind.length ≤ rest.length := Nat.le_of_lt_succ (length_lt_of_dropAffix? h hne)
        replacement ++ replaceAll part replacement behind
    | none => c :: replaceAll part replacement rest
termination_by cs.length

end PipelineSync.Text
