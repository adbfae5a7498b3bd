import Mathlib
import PipelineSync.Proofs.Text.Replace
import PipelineSync.Proofs.Url.Characters
import PipelineSync.Proofs.Url.Punycode

/-!
# Domain names are read again as they are

`ascii?_again`: the ASCII form of a domain name, where it is taken for a domain name, has itself for
its ASCII form. That it is taken for one is not said: what a label in Punycode stands for is
checked anew.
-/

namespace PipelineSync.Url.Domain

/-! ## Labels -/

section Labels

variable {part label written : List Char}

/-- A character that a label in ASCII can have: ASCII, and neither a capital letter nor the end of the
label. -/
def isPlain (c : Char) : Bool := decide (c.toNat < 0x80) && !c.isUpper && c != '.'

theorem isPlain_iff {c : Char} :
    isPlain c = true ↔ c.toNat < 0x80 ∧ c.isUpper = false ∧ c ≠ '.' := by
  simp [isPlain, and_assoc]

theorem isAscii_iff {cs : List Char} : isAscii cs = true ↔ ∀ c ∈ cs, c.toNat < 0x80 := by
  simp [isAscii]

/-- A label as it is read: no capital letters, no dots, and no name for another label. -/
structure IsLabel (label : List Char) : Prop where
  isUpper : ∀ c ∈ label, c.isUpper = false
  dot : '.' ∉ label
  uncoded : isAscii label = true → Text.dropAffix? codedFront label = none

/-- A label as it is written: what is read of it is written so again. -/
structure IsWritten (written : List Char) : Prop where
  isPlain : ∀ c ∈ written, isPlain c = true
  again : ∀ label again, readLabel? written = some label → writeLabel? label = some again →
    again = written

theorem isLabel_of_readLabel? (hupper : ∀ c ∈ part, c.isUpper = false) (hdot : '.' ∉ part)
    (h : readLabel? part = some label) : IsLabel label := by
  rw [readLabel?] at h
  split at h
  · next hcoded =>
    obtain rfl := Option.some.inj h
    exact ⟨hupper, hdot, fun _ => hcoded⟩
  · next code hcode =>
    simp only [Option.bind_eq_bind, Option.bind_eq_some_iff] at h
    obtain ⟨_, -, decoded, hdecoded, _, hguard, h⟩ := h
    obtain rfl := Option.some.inj h
    obtain ⟨hascii, hplain⟩ := Bool.and_eq_true_iff.1 ((Option.guard_eq_some' _).1 hguard)
    refine ⟨fun c => isUpper_of_mem_plain? (eq_of_beq hplain), fun hmem => hdot ?_, fun h => ?_⟩
    · have hmem := Punycode.mem_of_mem_decode? hdecoded hmem (by decide)
      rw [Text.dropAffix?_eq_some hcode]
      exact List.mem_append_right _ hmem
    · rw [h] at hascii
      cases hascii

theorem isPlain_of_mem_encode (h : IsLabel label) {c : Char} (hc : c ∈ Punycode.encode label) :
    isPlain c = true := by
  have hdigits : ∀ n ∈ List.range 36, isPlain (Punycode.digit n) = true := by decide
  rcases Punycode.mem_encode hc with hc | rfl | ⟨n, hn, rfl⟩
  · obtain ⟨hmem, hascii⟩ := List.mem_filter.1 hc
    refine isPlain_iff.2 ⟨of_decide_eq_true hascii, h.isUpper c hmem, ?_⟩
    rintro rfl
    exact h.dot hmem
  · decide
  · exact hdigits n (List.mem_range.2 hn)

theorem isWritten_of_writeLabel? (h : IsLabel label) (hw : writeLabel? label = some written) :
    IsWritten written := by
  have hwrite := hw
  rw [writeLabel?] at hw
  split at hw
  · next hascii =>
    obtain rfl := Option.some.inj hw
    refine ⟨fun c hc => isPlain_iff.2 ⟨isAscii_iff.1 hascii c hc, h.isUpper c hc, ?_⟩, ?_⟩
    · rintro rfl
      exact h.dot hc
    · intro label' again hread hagain
      rw [readLabel?, h.uncoded hascii] at hread
      obtain rfl := Option.some.inj hread
      exact Option.some.inj (hagain.symm.trans hwrite)
  · split at hw
    · obtain rfl := Option.some.inj hw
      refine ⟨fun c hc => ?_, ?_⟩
      · rcases List.mem_append.1 hc with hc | hc
        · have hfront : codedFront.all isPlain = true := by decide
          exact List.all_eq_true.1 hfront c hc
        · exact isPlain_of_mem_encode h hc
      · intro label' again hread hagain
        rw [readLabel?, Text.dropAffix?_append] at hread
        simp only [Option.bind_eq_bind, Option.bind_eq_some_iff, Punycode.decode?_encode,
          Option.some.injEq, exists_eq_left'] at hread
        obtain ⟨_, -, _, -, hread⟩ := hread
        obtain rfl := Option.some.inj hread
        exact Option.some.inj (hagain.symm.trans hwrite)
    · cases hw

end Labels

/-! ## Names -/

section Names

variable {name domain again : List Char}

/-- What a name owes to its labels. -/
theorem exists_labels_of_ascii? (h : ascii? name = some domain) :
    ∃ plain labels written, plain? name = some plain ∧
      (Text.splitAt (· == '.') plain).mapM readLabel? = some labels ∧
      labels.mapM writeLabel? = some written ∧ domain = List.intercalate ['.'] written ∧
      domain ≠ [] ∧ ∀ c ∈ domain, isForbidden c = false := by
  simp only [ascii?, Option.bind_eq_bind, Option.bind_eq_some_iff] at h
  obtain ⟨plain, hplain, labels, hlabels, _, -, _, -, written, hwritten, _, hguard, hdomain⟩ := h
  obtain rfl := Option.some.inj hdomain
  have hfree := (Option.guard_eq_some' _).1 hguard
  rw [Bool.and_eq_true, Bool.not_eq_true', Bool.not_eq_true', List.any_eq_false,
    List.isEmpty_eq_false_iff] at hfree
  exact ⟨plain, labels, written, hplain, hlabels, hwritten, rfl, hfree.1,
    fun c hc => Bool.eq_false_iff.2 (hfree.2 c hc)⟩

/-- The ASCII form of a name consists of labels as they are written. -/
theorem exists_written_of_ascii? (h : ascii? name = some domain) :
    ∃ written, written ≠ [] ∧ domain = List.intercalate ['.'] written ∧
      ∀ label ∈ written, IsWritten label := by
  obtain ⟨plain, labels, written, hplain, hlabels, hwritten, hdomain, -, -⟩ :=
    exists_labels_of_ascii? h
  refine ⟨written, fun hnil => ?_, hdomain, fun w hw => ?_⟩
  · have hlength := (forall₂_of_mapM_eq_some hwritten).length_eq
    rw [← (forall₂_of_mapM_eq_some hlabels).length_eq, hnil] at hlength
    exact Text.splitAt_ne_nil _ _ (List.eq_nil_of_length_eq_zero hlength)
  · obtain ⟨label, hlabel, hw⟩ := exists_of_mem_mapM hwritten hw
    obtain ⟨part, hpart, hlabel⟩ := exists_of_mem_mapM hlabels hlabel
    refine isWritten_of_writeLabel? (isLabel_of_readLabel? ?_ ?_ hlabel) hw
    · exact fun c hc => isUpper_of_mem_plain? hplain (Text.mem_of_mem_splitAt hpart hc).1
    · intro hdot
      exact absurd (Text.mem_of_mem_splitAt hpart hdot).2 (by decide)

theorem eq_of_isWritten {written labels again : List (List Char)}
    (h : ∀ label ∈ written, IsWritten label) (hread : written.mapM readLabel? = some labels)
    (hagain : labels.mapM writeLabel? = some again) : again = written := by
  have hlabels := forall₂_of_mapM_eq_some hread
  have hwritten := forall₂_of_mapM_eq_some hagain
  clear hread hagain
  induction hlabels generalizing again with
  | nil =>
    cases hwritten
    rfl
  | cons hlabel _ ih =>
    obtain ⟨hfirst, hrest⟩ := List.forall_mem_cons.1 h
    cases hwritten with
    | cons hw hws => rw [hfirst.again _ _ hlabel hw, ih hrest hws]

/-- A name of labels as they are written has itself for its ASCII form, if it has one. -/
theorem ascii?_intercalate {written : List (List Char)} (hne : written ≠ [])
    (h : ∀ label ∈ written, IsWritten label)
    (hagain : ascii? (List.intercalate ['.'] written) = some again) :
    again = List.intercalate ['.'] written := by
  obtain ⟨plain, labels, written', hplain, hlabels, hwritten, hdomain, -, -⟩ :=
    exists_labels_of_ascii? hagain
  have hchars : ∀ c ∈ List.intercalate ['.'] written, c.toNat < 0x80 ∧ c.isUpper = false := by
    intro c hc
    rcases Text.mem_of_mem_intercalate hc with hc | ⟨label, hlabel, hc⟩
    · exact List.mem_singleton.1 hc ▸ by decide
    · obtain ⟨hascii, hupper, -⟩ := isPlain_iff.1 ((h label hlabel).isPlain c hc)
      exact ⟨hascii, hupper⟩
  rw [plain?_of_forall hchars] at hplain
  obtain rfl := Option.some.inj hplain
  rw [Text.splitAt_intercalate (by decide) hne] at hlabels
  · rw [hdomain, eq_of_isWritten h hlabels hwritten]
  · intro label hlabel c hc
    obtain ⟨-, -, hdot⟩ := isPlain_iff.1 ((h label hlabel).isPlain c hc)
    exact beq_eq_false_iff_ne.2 hdot

/-- The ASCII form of a name has itself for its ASCII form, if it has one. -/
theorem ascii?_again (h : ascii? name = some domain) (hagain : ascii? domain = some again) :
    again = domain := by
  obtain ⟨written, hne, rfl, hwritten⟩ := exists_written_of_ascii? h
  exact ascii?_intercalate hne hwritten hagain

end Names

end PipelineSync.Url.Domain
