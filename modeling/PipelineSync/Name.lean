import PipelineSync.Text.Fold

/-!
# Names

Pipelines, stages, jobs and environments have names that are compared without regard to the case of
ASCII letters. A name keeps the spelling it was given; `Name.key` is what comparisons see.
-/

namespace PipelineSync

/-- A name in the spelling it was given. -/
structure Name where
  text : String
deriving DecidableEq, Repr, Inhabited

namespace Name

/-- The spelling that names which differ only in case share. -/
def key (n : Name) : String := Text.fold n.text

/-- Whether two names are equal but for case. -/
def same (a b : Name) : Bool := a.key == b.key

/-- The order of names, which ignores case too. -/
def order (a b : Name) : Ordering := compare a.key b.key

/-- Whether a list holds a name, in whatever case. -/
def isIn (n : Name) (names : List Name) : Bool := names.any n.same

theorem same_iff {a b : Name} : a.same b = true ↔ a.key = b.key := beq_iff_eq

@[simp] theorem same_self (a : Name) : a.same a = true := same_iff.2 rfl

theorem same_symm {a b : Name} (h : a.same b = true) : b.same a = true :=
  same_iff.2 (same_iff.1 h).symm

theorem same_trans {a b c : Name} (hab : a.same b = true) (hbc : b.same c = true) :
    a.same c = true :=
  same_iff.2 ((same_iff.1 hab).trans (same_iff.1 hbc))

theorem isIn_iff {n : Name} {names : List Name} :
    n.isIn names = true ↔ ∃ m ∈ names, n.same m = true :=
  List.any_eq_true

theorem isIn_of_mem {n : Name} {names : List Name} (h : n ∈ names) : n.isIn names = true :=
  isIn_iff.2 ⟨n, h, same_self n⟩

/-- Whether the text is a valid name: one to 255 letters, digits, `_`, `-` and `.`, and no `.` in
front. -/
def isValid (name : String) : Bool :=
  !name.isEmpty && name.utf8ByteSize ≤ 255 && name.toList.head? != some '.' &&
    name.toList.all fun c => c.isAlphanum || c == '_' || c == '-' || c == '.'

end Name

end PipelineSync
