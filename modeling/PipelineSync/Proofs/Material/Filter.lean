import Mathlib.Data.List.Forall2
import Mathlib.Data.List.Infix
import PipelineSync.Material.Filter

/-!
# What filters exclude

`Glob.accepts` goes through a pattern from its end and keeps a verdict for each tail of the text. Here
is what the verdicts say: `Glob.Matches` cuts the text into pieces, one for each token, and
`accepts_iff_matches` says that a text is accepted if and only if it can be cut in this way. A filter
excludes what one of its valid patterns matches (`Material.isIgnored_iff_excludes`).
-/

namespace PipelineSync

namespace Glob

/-- Whether a token can stand for a piece of a text that has `tail` behind it. -/
def Token.Covers (token : Token) (piece tail : List Char) : Prop :=
  match token with
  | .anyRun => True
  | .anyComponents => piece = [] ∨ piece.getLast? = some '/' ∨ tail = []
  | _ => ∃ c, piece = [c] ∧ token.fits c = true

/-- Whether a text can be cut into one piece for each token. -/
def Matches : List Token → List Char → Prop
  | [], text => text = []
  | token :: tokens, text =>
    ∃ piece tail, text = piece ++ tail ∧ token.Covers piece tail ∧ Matches tokens tail

/-! ## One token -/

variable {tokens : List Token}

theorem matches_cons_nil_iff {token : Token} :
    Matches (token :: tokens) [] ↔ token.Covers [] [] ∧ Matches tokens [] := by
  constructor
  · rintro ⟨piece, tail, htext, hcovers, h⟩
    obtain ⟨rfl, rfl⟩ := List.append_eq_nil_iff.1 htext.symm
    exact ⟨hcovers, h⟩
  · rintro ⟨hcovers, h⟩
    exact ⟨[], [], rfl, hcovers, h⟩

/-- The piece of the first token is empty, or has the first character. -/
theorem matches_cons_cons_iff {token : Token} {c : Char} {cs : List Char} :
    Matches (token :: tokens) (c :: cs) ↔
      (token.Covers [] (c :: cs) ∧ Matches tokens (c :: cs)) ∨
        ∃ piece tail, cs = piece ++ tail ∧ token.Covers (c :: piece) tail ∧ Matches tokens tail := by
  constructor
  · rintro ⟨piece, tail, htext, hcovers, h⟩
    rcases List.cons_eq_append_iff.1 htext with ⟨rfl, rfl⟩ | ⟨rest, rfl, rfl⟩
    · exact Or.inl ⟨hcovers, h⟩
    · exact Or.inr ⟨rest, tail, rfl, hcovers, h⟩
  · rintro (⟨hcovers, h⟩ | ⟨piece, tail, rfl, hcovers, h⟩)
    · exact ⟨[], c :: cs, rfl, hcovers, h⟩
    · exact ⟨c :: piece, tail, rfl, hcovers, h⟩

/-! ## Verdicts -/

/-- The verdicts are those of the tokens on each tail of the text, longest first. -/
def Tells (tokens : List Token) (text : List Char) (verdicts : List Bool) : Prop :=
  List.Forall₂ (fun tail verdict => verdict = true ↔ Matches tokens tail) text.tails verdicts

theorem tells_nil_iff {verdicts : List Bool} :
    Tells tokens [] verdicts ↔ ∃ b, verdicts = [b] ∧ (b = true ↔ Matches tokens []) := by
  unfold Tells
  rw [List.tails, List.forall₂_cons_left_iff]
  constructor
  · rintro ⟨b, rest, hb, hrest, rfl⟩
    rw [List.forall₂_nil_left_iff.1 hrest]
    exact ⟨b, rfl, hb⟩
  · rintro ⟨b, rfl, hb⟩
    exact ⟨b, [], hb, .nil, rfl⟩

theorem tells_cons_iff {c : Char} {cs : List Char} {verdicts : List Bool} :
    Tells tokens (c :: cs) verdicts ↔
      ∃ here later, verdicts = here :: later ∧ (here = true ↔ Matches tokens (c :: cs)) ∧
        Tells tokens cs later := by
  unfold Tells
  rw [List.tails_cons, List.forall₂_cons_left_iff]
  constructor
  · rintro ⟨here, later, hhere, hlater, rfl⟩
    exact ⟨here, later, rfl, hhere, hlater⟩
  · rintro ⟨here, later, rfl, hhere, hlater⟩
    exact ⟨here, later, hhere, hlater, rfl⟩

/-- The first verdict is the one on the whole text. -/
theorem Tells.headD {text : List Char} {verdicts : List Bool} (h : Tells tokens text verdicts) :
    verdicts.headD false = true ↔ Matches tokens text := by
  cases text with
  | nil =>
    obtain ⟨b, rfl, hb⟩ := tells_nil_iff.1 h
    exact hb
  | cons c cs =>
    obtain ⟨here, later, rfl, hhere, -⟩ := tells_cons_iff.1 h
    exact hhere

/-- `beyond` looks for a place where a component, or the text, has come to its end. -/
theorem Tells.beyond {cs : List Char} {later : List Bool} (h : Tells tokens cs later) (c : Char) :
    Token.extend.beyond (c :: cs) later = true ↔
      ∃ piece tail, cs = piece ++ tail ∧ Token.anyComponents.Covers (c :: piece) tail ∧
        Matches tokens tail := by
  induction cs generalizing c later with
  | nil =>
    obtain ⟨b, rfl, hb⟩ := tells_nil_iff.1 h
    simp [Token.extend.beyond, Token.Covers, hb]
  | cons d ds ih =>
    obtain ⟨here, rest, rfl, hhere, hrest⟩ := tells_cons_iff.1 h
    have hstep : Token.extend.beyond (c :: d :: ds) (here :: rest) =
        (c == '/' && here || Token.extend.beyond (d :: ds) rest) := by
      simp [Token.extend.beyond]
    rw [hstep, Bool.or_eq_true, Bool.and_eq_true, beq_iff_eq, hhere, ih hrest]
    constructor
    · rintro (⟨hc, hmatches⟩ | ⟨piece, tail, rfl, hcovers, hmatches⟩)
      · exact ⟨[], d :: ds, rfl, by simp [Token.Covers, hc], hmatches⟩
      · exact ⟨d :: piece, tail, rfl, by simpa [Token.Covers] using hcovers, hmatches⟩
    · rintro ⟨piece, tail, htext, hcovers, hmatches⟩
      rcases List.cons_eq_append_iff.1 htext with ⟨rfl, rfl⟩ | ⟨more, rfl, rfl⟩
      · exact Or.inl ⟨by simpa [Token.Covers] using hcovers, hmatches⟩
      · exact Or.inr ⟨more, tail, rfl, by simpa [Token.Covers] using hcovers, hmatches⟩

/-- The verdicts of a pattern with one more token in front, one character further to the left. -/
theorem Tells.extend (token : Token) {text : List Char} {later : List Bool}
    (h : Tells tokens text later) : Tells (token :: tokens) text (token.extend text later) := by
  induction text generalizing later with
  | nil =>
    obtain ⟨b, rfl, hb⟩ := tells_nil_iff.1 h
    refine tells_nil_iff.2 ?_
    simp only [matches_cons_nil_iff]
    cases token <;> simp [Token.extend, Token.Covers, hb]
  | cons c cs ih =>
    obtain ⟨here, rest, rfl, hhere, hrest⟩ := tells_cons_iff.1 h
    have hshorter := ih hrest
    refine tells_cons_iff.2 ?_
    rw [matches_cons_cons_iff]
    cases token with
    | anyRun =>
      refine ⟨_, _, rfl, ?_, hshorter⟩
      rw [Bool.or_eq_true, hhere, hshorter.headD]
      simp [Matches, Token.Covers]
    | anyComponents =>
      refine ⟨_, _, rfl, ?_, hshorter⟩
      rw [Bool.or_eq_true, hhere, hrest.beyond]
      simp [Token.Covers]
    | literal | anyChar | oneOf =>
      refine ⟨_, _, rfl, ?_, hshorter⟩
      rw [Bool.and_eq_true, hrest.headD]
      simp [Token.Covers]

theorem tells_verdicts (tokens : List Token) (text : List Char) :
    Tells tokens text (verdicts tokens text) := by
  induction tokens with
  | nil =>
    change Tells [] text (List.replicate text.length false ++ [true])
    induction text with
    | nil => exact tells_nil_iff.2 ⟨true, rfl, by simp [Matches]⟩
    | cons c cs ih => exact tells_cons_iff.2 ⟨false, _, rfl, by simp [Matches], ih⟩
  | cons token tokens ih => exact ih.extend token

/-- A text is accepted if and only if it can be cut into pieces that the tokens stand for. -/
theorem accepts_iff_matches {text : String} :
    accepts tokens text = true ↔ Matches tokens text.toList :=
  (tells_verdicts tokens text.toList).headD

end Glob

/-! ## Filters -/

/-- Whether one of the patterns of a material is valid and matches the path. -/
def Material.Excludes (m : Material) (path : String) : Prop :=
  ∃ pattern ∈ m.filter, ∃ tokens,
    Glob.compile (anchored pattern) = .ok tokens ∧ Glob.Matches tokens path.toList

theorem Material.isIgnored_iff_excludes (m : Material) (path : String) :
    m.isIgnored path = true ↔ m.Excludes (Path.filterForm path) := by
  unfold isIgnored Excludes
  rw [List.any_eq_true]
  refine exists_congr fun pattern => and_congr_right fun _ => ?_
  unfold matchesPattern Glob.isMatch
  cases Glob.compile (anchored pattern) with
  | error e => simp [Except.mapError]
  | ok tokens =>
    simp only [Except.ok.injEq, exists_eq_left', ← Glob.accepts_iff_matches]
    rfl

end PipelineSync
