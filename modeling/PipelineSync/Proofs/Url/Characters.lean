import Mathlib
import PipelineSync.Proofs.Lists
import PipelineSync.Url.Domain.Name

/-!
# Characters of domain names

The plain form of a name holds no capital letter (`isUpper_of_mem_plain?`), and ASCII without
capital letters is its own plain form (`plain?_of_forall`).
-/

namespace PipelineSync.Text

/-! ## Lines of tables -/

section Lines

/-- The lines of a table, with their texts spelled out in characters: in this form a table can be
evaluated in a proof. -/
inductive Spelled : List (Nat × String) → List (Nat × List Char) → Prop where
  | nil : Spelled [] []
  | cons {first : Nat} {line : List Char} {lines : List (Nat × String)}
      {spelled : List (Nat × List Char)} (h : Spelled lines spelled) :
      Spelled ((first, String.ofList line) :: lines) ((first, line) :: spelled)

variable {lines : List (Nat × String)} {spelled : List (Nat × List Char)}

theorem lineTexts_ofList (line : List Char) : lineTexts (String.ofList line) = textsOf line := by
  rw [lineTexts, String.toList_ofList]

theorem Spelled.exists_mem (h : Spelled lines spelled) {first : Nat} {texts : String}
    (hmem : (first, texts) ∈ lines) :
    ∃ line, (first, line) ∈ spelled ∧ lineTexts texts = textsOf line := by
  induction h with
  | nil => cases hmem
  | cons h ih =>
    rcases List.mem_cons.1 hmem with heq | hmem
    · obtain ⟨rfl, rfl⟩ := Prod.mk.inj heq
      exact ⟨_, List.mem_cons_self, lineTexts_ofList _⟩
    · obtain ⟨line, hline, htexts⟩ := ih hmem
      exact ⟨line, List.mem_cons_of_mem _ hline, htexts⟩

theorem Spelled.mem_of_lineText? (h : Spelled lines spelled) {c : Char} {text : List Char}
    (htext : lineText? lines c = some text) :
    ∃ line ∈ spelled, some text ∈ textsOf line.2 := by
  simp only [lineText?, Option.bind_eq_bind, Option.bind_eq_some_iff] at htext
  obtain ⟨⟨first, texts⟩, hlast, entry, hentry, rfl⟩ := htext
  have hmem : (first, texts) ∈ lines :=
    (List.takeWhile_prefix _).subset (List.mem_of_getLast? hlast)
  obtain ⟨line, hline, heq⟩ := h.exists_mem hmem
  refine ⟨_, hline, ?_⟩
  rw [← heq]
  exact List.mem_of_getElem? hentry

theorem Spelled.lineEntries_eq (h : Spelled lines spelled) :
    lineEntries lines = spelled.flatMap fun line => entriesFrom line.1 (textsOf line.2) := by
  induction h with
  | nil => rfl
  | cons h ih =>
    rw [lineEntries, List.flatMap_cons, List.flatMap_cons, ← ih]
    dsimp only
    rw [lineTexts_ofList]
    rfl

end Lines

end PipelineSync.Text

namespace PipelineSync.Url.Domain

/-! ## Capital letters -/

theorem isUpper_iff {c : Char} : c.isUpper = true ↔ 65 ≤ c.toNat ∧ c.toNat ≤ 90 := by
  simp [Char.isUpper, UInt32.le_iff_toNat_le, ← Char.toNat_val]

theorem isUpper_of_le {c : Char} (h : 0x80 ≤ c.toNat) : c.isUpper = false := by
  rw [Bool.eq_false_iff, Ne, isUpper_iff]
  omega

theorem isUpper_ofNat {n : Nat} (h : n < 65 ∨ 90 < n) : (Char.ofNat n).isUpper = false := by
  rw [Bool.eq_false_iff, Ne, isUpper_iff, Char.toNat_ofNat]
  split <;> omega

/-! ## What the tables hold -/

theorem exists_spelled_formLines : ∃ spelled, Text.Spelled formLines spelled ∧
    (spelled.all fun line => (Text.textsOf line.2).all fun text =>
      (text.getD []).all fun c => !c.isUpper) = true := by
  apply Exists.intro
  apply And.intro
  · unfold formLines
    dsimp only
    repeat apply Text.Spelled.cons
    exact Text.Spelled.nil
  · decide +kernel

/-- No character stands for a text with a capital letter. -/
theorem isUpper_of_lineText? {c d : Char} {text : List Char}
    (h : Text.lineText? formLines c = some text) (hd : d ∈ text) : d.isUpper = false := by
  obtain ⟨spelled, hspelled, hall⟩ := exists_spelled_formLines
  obtain ⟨line, hline, htext⟩ := hspelled.mem_of_lineText? h
  have hcheck := List.all_eq_true.1 (List.all_eq_true.1 hall line hline) _ htext
  exact (Bool.not_eq_true' _).mp (List.all_eq_true.1 hcheck d hd)

theorem isUpper_of_shifted? {c d : Char} (h : shifted? c = some d) : d.isUpper = false := by
  have hall : shifts.all (fun s =>
      decide (s.2.2.2 + (s.2.1 - s.1) < 65) || decide (90 < s.2.2.2)) = true := by decide +kernel
  obtain ⟨⟨first, last, distance, target⟩, hmem, hshift⟩ := List.exists_of_findSome?_eq_some h
  have hfar := List.all_eq_true.1 hall _ hmem
  simp only [Bool.or_eq_true, decide_eq_true_eq] at hfar
  dsimp only at hshift
  split at hshift
  · next hin =>
    simp only [Bool.and_eq_true, decide_eq_true_eq] at hin
    obtain rfl := Option.some.inj hshift
    exact isUpper_ofNat (by omega)
  · cases hshift

/-- A composed character and its last part lie outside ASCII, and no part is a capital letter. -/
def IsComposite (entry : Char × List Char) : Bool :=
  decide (0x80 ≤ entry.1.toNat) && (entry.2.getLast?.all fun c => decide (0x80 ≤ c.toNat)) &&
    entry.2.all fun c => !c.isUpper

theorem exists_spelled_partLines : ∃ spelled, Text.Spelled partLines spelled ∧
    ((spelled.flatMap fun line => Text.entriesFrom line.1 (Text.textsOf line.2)).all
      IsComposite) = true := by
  apply Exists.intro
  apply And.intro
  · unfold partLines
    dsimp only
    repeat apply Text.Spelled.cons
    exact Text.Spelled.nil
  · decide +kernel

theorem isComposite_of_mem {entry : Char × List Char} (h : entry ∈ composites) :
    0x80 ≤ entry.1.toNat ∧ (∀ c, entry.2.getLast? = some c → 0x80 ≤ c.toNat) ∧
      ∀ c ∈ entry.2, c.isUpper = false := by
  obtain ⟨spelled, hspelled, hall⟩ := exists_spelled_partLines
  rw [composites, hspelled.lineEntries_eq] at h
  have hcheck := List.all_eq_true.1 hall entry h
  simpa [IsComposite, Option.all_eq_true, and_assoc] using hcheck

theorem combiningClass_of_lt {c : Char} (h : c.toNat < 0x80) : combiningClass c = 0 := by
  have hnone : ∀ ranges : List (Nat × Nat × Nat), (ranges.all fun r => decide (0x80 ≤ r.1)) = true →
      Text.rangeValue? ranges c = none := by
    intro ranges hall
    rw [Text.rangeValue?, Option.map_eq_none_iff, List.find?_eq_none]
    intro r hr
    have hfar := List.all_eq_true.1 hall r hr
    simp only [decide_eq_true_eq] at hfar
    simp only [Bool.and_eq_true, decide_eq_true_eq]
    omega
  rw [combiningClass, hnone nonspacingMarks (by decide +kernel),
    hnone spacingMarks (by decide +kernel)]
  rfl

/-! ## Composition -/

theorem mem_insertMark {c d : Char} {ds : List Char} (h : d ∈ insertMark c ds) :
    d = c ∨ d ∈ ds := by
  induction ds with
  | nil => exact Or.inl (List.mem_singleton.1 h)
  | cons e ds ih =>
    rw [insertMark] at h
    split at h
    · rcases List.mem_cons.1 h with rfl | h
      · exact Or.inr List.mem_cons_self
      · exact (ih h).imp_right (List.mem_cons_of_mem e)
    · exact List.mem_cons.1 h

theorem mem_foldr_insertMark {d : Char} {cs : List Char} (h : d ∈ cs.foldr insertMark []) :
    d ∈ cs := by
  induction cs with
  | nil => cases h
  | cons c cs ih =>
    rcases mem_insertMark h with rfl | h
    · exact List.mem_cons_self
    · exact List.mem_cons_of_mem c (ih h)

theorem isUpper_of_mem_syllableParts {c d : Char} (h : d ∈ syllableParts c) :
    d.isUpper = false := by
  rw [syllableParts] at h
  split at h
  · simp only [List.mem_cons, List.not_mem_nil, or_false] at h
    rcases h with h | h
    · rw [h]
      exact isUpper_ofNat (by omega)
    · rw [h]
      exact isUpper_ofNat (by omega)
  · simp only [List.mem_append, List.mem_cons, List.not_mem_nil, or_false] at h
    rcases h with (h | h) | h
    · rw [h]
      exact isUpper_ofNat (by omega)
    · rw [h]
      exact isUpper_ofNat (by omega)
    · rw [h]
      exact isUpper_ofNat (by omega)

theorem isUpper_of_mem_parts {c d : Char} (hc : c.isUpper = false) (h : d ∈ parts c) :
    d.isUpper = false := by
  rw [parts] at h
  split at h
  · exact isUpper_of_mem_syllableParts h
  · cases hlookup : composites.lookup c with
    | none =>
      rw [hlookup] at h
      exact List.mem_singleton.1 h ▸ hc
    | some text =>
      rw [hlookup] at h
      exact (isComposite_of_mem (mem_of_lookup hlookup)).2.2 d h

theorem isUpper_of_syllable? {a b d : Char} (h : syllable? a b = some d) : d.isUpper = false := by
  rw [syllable?] at h
  split at h
  · obtain rfl := Option.some.inj h
    exact isUpper_ofNat (by omega)
  · split at h
    · obtain rfl := Option.some.inj h
      exact isUpper_ofNat (by omega)
    · cases h

theorem isUpper_of_pair? {a b d : Char} (h : pair? a b = some d) : d.isUpper = false := by
  rw [pair?] at h
  split at h
  · next hs =>
    obtain rfl := Option.some.inj h
    exact isUpper_of_syllable? hs
  · obtain ⟨entry, hentry, rfl⟩ := Option.map_eq_some_iff.1 h
    exact isUpper_of_le (isComposite_of_mem (List.mem_of_find?_eq_some hentry)).1

theorem isUpper_of_mem_composeFrom {base d : Char} {held cs : List Char} {last : Nat}
    (hbase : base.isUpper = false) (hheld : ∀ c ∈ held, c.isUpper = false)
    (hcs : ∀ c ∈ cs, c.isUpper = false) (h : d ∈ composeFrom base held last cs) :
    d.isUpper = false := by
  induction cs generalizing base held last with
  | nil =>
    rcases List.mem_cons.1 h with rfl | h
    · exact hbase
    · exact hheld d h
  | cons c cs ih =>
    obtain ⟨hc, hcs⟩ := List.forall_mem_cons.1 hcs
    rw [composeFrom] at h
    split at h
    · next e hpair =>
      split at hpair
      · exact ih (isUpper_of_pair? hpair) hheld hcs h
      · cases hpair
    · split at h
      · rcases List.mem_append.1 h with h | h
        · rcases List.mem_cons.1 h with rfl | h
          · exact hbase
          · exact hheld d h
        · exact ih hc (List.forall_mem_nil _) hcs h
      · refine ih hbase (fun e he => ?_) hcs h
        rcases List.mem_append.1 he with he | he
        · exact hheld e he
        · exact List.mem_singleton.1 he ▸ hc

theorem isUpper_of_mem_compose {cs : List Char} (hcs : ∀ c ∈ cs, c.isUpper = false) {d : Char}
    (h : d ∈ compose cs) : d.isUpper = false := by
  have hdecompose : ∀ c ∈ decompose cs, c.isUpper = false := by
    intro c hc
    obtain ⟨e, he, hc⟩ := List.mem_flatMap.1 (mem_foldr_insertMark hc)
    exact isUpper_of_mem_parts (hcs e he) hc
  rw [compose] at h
  cases hparts : decompose cs with
  | nil =>
    rw [hparts] at h
    cases h
  | cons c rest =>
    rw [hparts] at h hdecompose
    obtain ⟨hc, hrest⟩ := List.forall_mem_cons.1 hdecompose
    exact isUpper_of_mem_composeFrom hc (List.forall_mem_nil _) hrest h

/-! ## ASCII -/

theorem parts_of_lt {c : Char} (h : c.toNat < 0x80) : parts c = [c] := by
  have hsyllable : ¬ isSyllable c = true := by
    simp only [isSyllable, Bool.and_eq_true, decide_eq_true_eq]
    omega
  have hlookup : composites.lookup c = none := by
    refine List.lookup_eq_none_iff.2 fun entry hentry => ?_
    have := (isComposite_of_mem hentry).1
    rw [bne_iff_ne]
    rintro rfl
    omega
  rw [parts, if_neg hsyllable, hlookup]
  rfl

theorem pair?_of_lt {a b : Char} (ha : a.toNat < 0x80) (hb : b.toNat < 0x80) :
    pair? a b = none := by
  have hsyllable : syllable? a b = none := by
    rw [syllable?, if_neg (by omega), if_neg (by omega)]
  rw [pair?, hsyllable, Option.map_eq_none_iff, List.find?_eq_none]
  intro entry hentry heq
  have hlast := (isComposite_of_mem hentry).2.1 b
  rw [eq_of_beq heq, List.getLast?_concat] at hlast
  have := hlast rfl
  omega

theorem composeFrom_of_forall {base : Char} {cs : List Char} (hbase : base.toNat < 0x80)
    (hcs : ∀ c ∈ cs, c.toNat < 0x80) : composeFrom base [] 0 cs = base :: cs := by
  induction cs generalizing base with
  | nil => rfl
  | cons c cs ih =>
    obtain ⟨hc, hcs⟩ := List.forall_mem_cons.1 hcs
    rw [composeFrom, pair?_of_lt hbase hc, ite_self, combiningClass_of_lt hc]
    dsimp only
    rw [if_pos rfl, ih hc hcs]
    rfl

theorem decompose_of_forall {cs : List Char} (h : ∀ c ∈ cs, c.toNat < 0x80) :
    decompose cs = cs := by
  induction cs with
  | nil => rfl
  | cons c cs ih =>
    obtain ⟨hc, hcs⟩ := List.forall_mem_cons.1 h
    have hrest := ih hcs
    rw [decompose] at hrest ⊢
    rw [List.flatMap_cons, parts_of_lt hc, List.singleton_append, List.foldr_cons, hrest]
    cases cs with
    | nil => rfl
    | cons d ds =>
      rw [insertMark, combiningClass_of_lt (hcs d List.mem_cons_self)]
      rfl

/-- ASCII has nothing to compose. -/
theorem compose_of_forall {cs : List Char} (h : ∀ c ∈ cs, c.toNat < 0x80) : compose cs = cs := by
  rw [compose, decompose_of_forall h]
  cases cs with
  | nil => rfl
  | cons c cs =>
    obtain ⟨hc, hcs⟩ := List.forall_mem_cons.1 h
    exact composeFrom_of_forall hc hcs

/-! ## Plain forms -/

theorem isUpper_of_form? {c d : Char} {form : List Char} (h : form? c = some form)
    (hd : d ∈ form) : d.isUpper = false := by
  rw [form?] at h
  split at h
  · obtain rfl := Option.some.inj h
    exact List.mem_singleton.1 hd ▸ Char.isUpper_toLower_eq_false c
  · next hc =>
    split at h
    · obtain rfl := Option.some.inj h
      cases hd
    · split at h
      · cases h
      · split at h
        · next e hshift =>
          obtain rfl := Option.some.inj h
          exact List.mem_singleton.1 hd ▸ isUpper_of_shifted? hshift
        · obtain rfl := Option.some.inj h
          cases htext : Text.lineText? formLines c with
          | none =>
            rw [htext] at hd
            exact List.mem_singleton.1 hd ▸ isUpper_of_le (by omega)
          | some text =>
            rw [htext] at hd
            exact isUpper_of_lineText? htext hd

/-- The plain form of a name has no capital letter. -/
theorem isUpper_of_mem_plain? {name plain : List Char} (h : plain? name = some plain) {d : Char}
    (hd : d ∈ plain) : d.isUpper = false := by
  obtain ⟨forms, hforms, rfl⟩ := Option.map_eq_some_iff.1 h
  refine isUpper_of_mem_compose (fun e he => ?_) hd
  obtain ⟨form, hform, he⟩ := List.mem_flatten.1 he
  obtain ⟨c, -, hc⟩ := exists_of_mem_mapM hforms hform
  exact isUpper_of_form? hc he

/-- ASCII without capital letters is its own plain form. -/
theorem plain?_of_forall {cs : List Char} (h : ∀ c ∈ cs, c.toNat < 0x80 ∧ c.isUpper = false) :
    plain? cs = some cs := by
  have hforms : cs.mapM form? = some (cs.map fun c => [c]) := by
    refine mapM_eq_some_map fun c hc => ?_
    obtain ⟨hascii, hupper⟩ := h c hc
    rw [form?, if_pos hascii, Char.toLower_eq_of_not_isUpper (by simp [hupper])]
  have hflat : (cs.map fun c => [c]).flatten = cs := by
    rw [← List.flatMap_def]
    exact List.flatMap_singleton' cs
  rw [plain?, hforms, Option.map_some, hflat, compose_of_forall fun c hc => (h c hc).1]

end PipelineSync.Url.Domain
