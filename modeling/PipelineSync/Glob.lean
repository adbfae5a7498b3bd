/-!
# Ignore patterns

A pattern is a sequence of literal characters, `?` for any character, `*` for any run of
characters, classes `[…]` and `[!…]`, and `**`, which has to be a whole path component and stands
for any number of components. `Glob.compile` reads a pattern or says where it is wrong, and
`Glob.accepts` tells whether a text matches.

A `/` has no special standing for `?`, `*` and classes: they match it as they match any character.
-/

namespace PipelineSync

namespace Glob

/-- What can be wrong with a pattern. -/
inductive Fault where
  /-- Three or more `*` in a row. -/
  | tooManyStars
  /-- A `**` that is not a whole path component. -/
  | partialComponent
  /-- A `[` without its `]`. -/
  | unclosedClass
deriving DecidableEq, Repr

/-- The wording of a fault. -/
def Fault.text : Fault → String
  | .tooManyStars => "wildcards are either regular `*` or recursive `**`"
  | .partialComponent => "recursive wildcards must form a single path component"
  | .unclosedClass => "invalid range pattern"

/-- A fault and the number of characters in front of it. -/
structure Error where
  position : Nat
  fault : Fault
deriving DecidableEq, Repr

/-- A message that names the place and the fault. -/
def Error.message (e : Error) : String :=
  "Pattern syntax error near position " ++ toString e.position ++ ": " ++ e.fault.text

/-- A member of a class: one character, or all characters between two. -/
inductive Member where
  | one (c : Char)
  | range (first last : Char)
deriving DecidableEq, Repr

/-- Whether a character belongs to the member. -/
def Member.contains (c : Char) : Member → Bool
  | .one d => c == d
  | .range first last => first ≤ c && c ≤ last

/-- A piece of a compiled pattern. -/
inductive Token where
  /-- This character. -/
  | literal (c : Char)
  /-- Any character. -/
  | anyChar
  /-- Any run of characters. -/
  | anyRun
  /-- Any number of whole components. -/
  | anyComponents
  /-- A character that is in the class, or one that is not. -/
  | oneOf (negated : Bool) (members : List Member)
deriving DecidableEq, Repr

/-- The members of a class: `a-z` is a range, every other character stands for itself. -/
def members : List Char → List Member
  | first :: '-' :: last :: rest => .range first last :: members rest
  | c :: rest => .one c :: members rest
  | [] => []

/-- Reads a class behind its `[`: whether it is negated, its members, and the text behind its `]`.
The first member may be a `]`. -/
def readClass? : List Char → Option (Bool × List Member × List Char)
  | '!' :: first :: cs => close true first cs
  | '!' :: [] => none
  | first :: cs => close false first cs
  | [] => none
where
  /-- Looks for the `]` behind the first member. -/
  close (negated : Bool) (first : Char) (cs : List Char) :
      Option (Bool × List Member × List Char) :=
    match cs.dropWhile (· != ']') with
    | [] => none
    | _ :: rest => some (negated, members (first :: cs.takeWhile (· != ']')), rest)

theorem readClass?_length {cs rest : List Char} {negated : Bool} {ms : List Member}
    (h : readClass? cs = some (negated, ms, rest)) : rest.length < cs.length := by
  have key : ∀ {n : Bool} {f : Char} {t : List Char},
      readClass?.close n f t = some (negated, ms, rest) → rest.length < t.length := by
    intro n f t ht
    unfold readClass?.close at ht
    split at ht
    · simp at ht
    · next c r hr =>
      have hle : (t.dropWhile (· != ']')).length ≤ t.length :=
        (List.dropWhile_sublist _).length_le
      rw [hr] at hle
      simp at ht hle
      grind
  unfold readClass? at h
  split at h
  · have := key h
    simp
    omega
  · simp at h
  · have := key h
    simp
    omega
  · simp at h

/-- Compiles the part of a pattern behind its first `position` characters. `fresh` says that a
path component starts here: at the start of the pattern, or behind a `/`. -/
def compileFrom (fresh : Bool) (position : Nat) : List Char → Except Error (List Token)
  | [] => .ok []
  | '?' :: cs => (Token.anyChar :: ·) <$> compileFrom false (position + 1) cs
  | '*' :: '*' :: '*' :: _ => .error ⟨position + 2, .tooManyStars⟩
  | '*' :: '*' :: cs =>
    if fresh then
      match cs with
      | '/' :: rest => (Token.anyComponents :: ·) <$> compileFrom true (position + 3) rest
      | [] => .ok [.anyComponents]
      | _ :: _ => .error ⟨position + 2, .partialComponent⟩
    else .error ⟨position - 1, .partialComponent⟩
  | '*' :: cs => (Token.anyRun :: ·) <$> compileFrom false (position + 1) cs
  | '[' :: cs =>
    match h : readClass? cs with
    | none => .error ⟨position, .unclosedClass⟩
    | some (negated, ms, rest) =>
      have : rest.length < cs.length := readClass?_length h
      (Token.oneOf negated ms :: ·) <$>
        compileFrom false (position + 1 + (cs.length - rest.length)) rest
  | c :: cs => (Token.literal c :: ·) <$> compileFrom (c == '/') (position + 1) cs
termination_by cs => cs.length

/-- Compiles a pattern. -/
def compile (pattern : String) : Except Error (List Token) :=
  compileFrom true 0 pattern.toList

/-- Whether the token stands for this one character. The tokens for runs stand for none. -/
def Token.fits (c : Char) : Token → Bool
  | .literal d => c == d
  | .anyChar => true
  | .oneOf negated ms => ms.any (·.contains c) != negated
  | .anyRun | .anyComponents => false

/-- For a text and the verdict of the rest of a pattern on each of its tails, longest first, the
verdicts of the pattern with `token` in front. -/
def Token.extend (token : Token) : List Char → List Bool → List Bool
  | [], verdicts =>
    match token with
    | .anyRun | .anyComponents => verdicts
    | _ => [false]
  | c :: cs, here :: later =>
    let rest := token.extend cs later
    match token with
    | .anyRun => (here || rest.headD false) :: rest
    | .anyComponents => (here || beyond (c :: cs) later) :: rest
    | _ => (token.fits c && later.headD false) :: rest
  | _ :: _, [] => []
where
  /-- Whether the rest of the pattern accepts a tail where a component starts, or the empty one. -/
  beyond : List Char → List Bool → Bool
    | c :: cs, here :: later =>
      ((c == '/' || cs.isEmpty) && here) || beyond cs later
    | _, _ => false

/-- The verdicts of a pattern on all tails of a text, longest first. -/
def verdicts (tokens : List Token) (text : List Char) : List Bool :=
  tokens.foldr (fun token later => token.extend text later)
    (List.replicate text.length false ++ [true])

/-- Whether the whole text matches the pattern. -/
def accepts (tokens : List Token) (text : String) : Bool :=
  (verdicts tokens text.toList).headD false

/-- Compiles a pattern and matches a text against it. -/
def isMatch (pattern text : String) : Except Error Bool :=
  return accepts (← compile pattern) text

end Glob

end PipelineSync
