import Mathlib.Tactic.Ring
import PipelineSync.Time

/-!
# Times that are written and read

`ofText?_text`: the text of a time names that time, in any year of the calendar, to the nanosecond
and with a leap second.
-/

namespace PipelineSync.Time

/-! ## Numbers -/

theorem ofDigits_eq (ds : List Char) : ofDigits ds = Nat.ofDigitChars 10 ds 0 := by
  unfold ofDigits
  rw [Nat.ofDigitChars_eq_foldl]
  simp only [Nat.mul_comm]

section Padded

variable {width n : Nat}

theorem toList_padded : (padded width n).toList =
    List.replicate (width - (Nat.toDigits 10 n).length) '0' ++ Nat.toDigits 10 n := by
  simp [padded]

theorem isDigit_of_mem_padded {c : Char} (h : c ∈ (padded width n).toList) :
    c.isDigit = true := by
  rw [toList_padded] at h
  rcases List.mem_append.1 h with h | h
  · rw [List.eq_of_mem_replicate h]
    rfl
  · exact Nat.isDigit_of_mem_toDigits (by decide) (by decide) h

theorem ofDigits_padded : ofDigits (padded width n).toList = n := by
  rw [ofDigits_eq, toList_padded, Nat.ofDigitChars_append, Nat.ofDigitChars_replicate_zero,
    Nat.mul_zero, Nat.ofDigitChars_ten_toDigits]

theorem length_padded (hwidth : 0 < width) (h : n < 10 ^ width) :
    (padded width n).toList.length = width := by
  have hdigits := (Nat.length_toDigits_le_iff (by decide) hwidth).2 h
  rw [toList_padded, List.length_append, List.length_replicate]
  omega

theorem padded_ne_nil : (padded width n).toList ≠ [] := by
  rw [toList_padded]
  simp [Nat.toDigits_ne_nil]

end Padded

/-- Digits in front are read as a number, up to the width or to something else. -/
theorem number?_append {width : Nat} {ds rest : List Char} (hds : ∀ c ∈ ds, c.isDigit = true)
    (hne : ds ≠ []) (hwidth : ds.length ≤ width)
    (hend : ds.length = width ∨ rest.head?.all (!·.isDigit) = true) :
    number? width (ds ++ rest) = some ((ofDigits ds, ds.length), rest) := by
  have hbehind : (rest.take (width - ds.length)).takeWhile Char.isDigit = [] := by
    rcases hend with hend | hend
    · simp [hend]
    · cases rest with
      | nil => simp
      | cons c rest =>
        have hc : c.isDigit = false := by simpa using hend
        cases width - ds.length with
        | zero => rfl
        | succ k => simp [hc]
  have hfront : ((ds ++ rest).take width).takeWhile Char.isDigit = ds := by
    rw [List.take_append, List.take_of_length_le hwidth, List.takeWhile_append_of_pos hds, hbehind,
      List.append_nil]
  unfold number?
  rw [hfront]
  simp [hne]

theorem isBlank_of_isDigit {c : Char} (h : c.isDigit = true) : Text.isBlank c = false := by
  have hrange : 48 ≤ c.toNat ∧ c.toNat ≤ 57 := by
    simp only [Char.isDigit, ge_iff_le, Bool.and_eq_true, decide_eq_true_eq,
      UInt32.le_iff_toNat_le] at h
    exact h
  simp only [Text.isBlank, Bool.or_eq_false_iff, Bool.and_eq_false_iff, decide_eq_false_iff_not,
    beq_eq_false_iff_ne]
  omega

/-- No blanks are taken off digits. -/
theorem trimStart_digits {ds : List Char} (hds : ∀ c ∈ ds, c.isDigit = true) (hne : ds ≠ [])
    (rest : List Char) : Text.trimStart (ds ++ rest) = ds ++ rest := by
  obtain ⟨c, ds, rfl⟩ := List.exists_cons_of_ne_nil hne
  have hc := isBlank_of_isDigit (hds c List.mem_cons_self)
  simp [Text.trimStart, hc]

theorem field?_padded {n : Nat} (h : n < 100) (rest : List Char) :
    field? 2 ((padded 2 n).toList ++ rest) = some (n, rest) := by
  have hlength : (padded 2 n).toList.length = 2 := length_padded (by decide) h
  unfold field?
  rw [trimStart_digits (fun _ => isDigit_of_mem_padded) padded_ne_nil,
    number?_append (fun _ => isDigit_of_mem_padded) padded_ne_nil hlength.le (Or.inl hlength),
    ofDigits_padded]
  rfl

theorem expect?_cons {c : Char} (h : Text.isBlank c = false) (rest : List Char) :
    expect? c (c :: rest) = some rest := by
  simp [expect?, Text.trimStart, h]

/-! ## Dates -/

theorem year?_of_digits {ds rest : List Char} (hds : ∀ c ∈ ds, c.isDigit = true)
    (hlength : ds.length = 4) :
    year? (ds ++ rest) = some ((ofDigits ds : Int), rest) := by
  have hne : ds ≠ [] := by
    rintro rfl
    cases hlength
  have hnumber : number? 4 (ds ++ rest) = some ((ofDigits ds, ds.length), rest) :=
    number?_append hds hne hlength.le (Or.inl hlength)
  obtain ⟨c, ds, rfl⟩ := List.exists_cons_of_ne_nil hne
  have hc := hds c List.mem_cons_self
  unfold year?
  rw [trimStart_digits hds hne]
  split
  · next heq =>
    obtain rfl := (List.cons.inj heq).1
    exact absurd hc (by decide)
  · next heq =>
    obtain rfl := (List.cons.inj heq).1
    exact absurd hc (by decide)
  · rw [hnumber]
    rfl

theorem year?_minus (cs : List Char) :
    year? ('-' :: cs) = (number? cs.length cs).map fun ((n, _), rest) => (-n, rest) := rfl

theorem year?_plus (cs : List Char) :
    year? ('+' :: cs) = (number? cs.length cs).map fun ((n, _), rest) => ((n : Int), rest) := rfl

theorem year?_yearText (year : Int) {rest : List Char}
    (hrest : rest.head?.all (!·.isDigit) = true) :
    year? ((yearText year).toList ++ rest) = some (year, rest) := by
  have hread : ∀ n : Nat, ∀ width, (padded 4 n).toList.length ≤ width →
      number? width ((padded 4 n).toList ++ rest) =
        some ((n, (padded 4 n).toList.length), rest) := by
    intro n width hwidth
    rw [number?_append (fun _ => isDigit_of_mem_padded) padded_ne_nil hwidth (Or.inr hrest),
      ofDigits_padded]
  unfold yearText
  by_cases hplain : 0 ≤ year ∧ year ≤ 9999
  · rw [if_pos hplain, year?_of_digits (fun _ => isDigit_of_mem_padded)
      (length_padded (by decide) (by omega)), ofDigits_padded, Int.toNat_of_nonneg hplain.1]
  · rw [if_neg hplain]
    by_cases hnegative : year < 0
    · have hyear : -(year.natAbs : Int) = year := by omega
      have htext : "-".toList ++ (padded 4 year.natAbs).toList ++ rest =
          '-' :: ((padded 4 year.natAbs).toList ++ rest) := rfl
      rw [if_pos hnegative, String.toList_append, htext, year?_minus, hread _ _ (by simp),
        Option.map_some]
      dsimp only
      rw [hyear]
    · have hyear : (year.natAbs : Int) = year := by omega
      have htext : "+".toList ++ (padded 4 year.natAbs).toList ++ rest =
          '+' :: ((padded 4 year.natAbs).toList ++ rest) := rfl
      rw [if_neg hnegative, String.toList_append, htext, year?_plus, hread _ _ (by simp),
        Option.map_some]
      dsimp only
      rw [hyear]

theorem date?_dateText {d : Date} (h : d.isValid = true) (rest : List Char) :
    date? ((dateText d).toList ++ rest) = some (d, rest) := by
  simp only [Date.isValid, Bool.and_eq_true, decide_eq_true_eq] at h
  have hmonth : d.month < 100 := by omega
  have hdays : Date.daysIn d.year d.month ≤ 31 := by
    unfold Date.daysIn
    split_ifs <;> decide
  have hday : d.day < 100 := by omega
  have htext : (dateText d).toList ++ rest = (yearText d.year).toList ++
      '-' :: ((padded 2 d.month).toList ++ '-' :: ((padded 2 d.day).toList ++ rest)) := by
    simp [dateText]
  rw [htext]
  simp [date?, year?_yearText, expect?_cons (show Text.isBlank '-' = false by decide),
    field?_padded hmonth, field?_padded hday]

/-! ## Times of the day -/

theorem fraction?_fractionText {nanosecond : Nat} (h : nanosecond < 1000000000) {c : Char}
    (hdigit : c.isDigit = false) (hpoint : c ≠ '.') (rest : List Char) :
    fraction? ((fractionText nanosecond).toList ++ c :: rest) = some (nanosecond, c :: rest) := by
  have hread : ∀ width n : Nat, 0 < width → width ≤ 9 → n < 10 ^ width →
      fraction? ('.' :: ((padded width n).toList ++ c :: rest)) =
        some (n * 10 ^ (9 - width), c :: rest) := by
    intro width n hwidth hmax hn
    have hlength := length_padded hwidth hn
    have hnumber : number? 9 ((padded width n).toList ++ c :: rest) =
        some ((n, width), c :: rest) := by
      rw [number?_append (fun _ => isDigit_of_mem_padded) padded_ne_nil (by omega)
        (Or.inr (by simpa using hdigit)), ofDigits_padded, hlength]
    simp [fraction?, hnumber, hdigit]
  unfold fractionText
  split_ifs with hzero hmilli hmicro
  · subst hzero
    unfold fraction?
    split
    · next heq => exact absurd (List.cons.inj heq).1 hpoint
    · rfl
  · have hvalue : nanosecond / 1000000 * 1000000 = nanosecond := by omega
    have := hread 3 (nanosecond / 1000000) (by decide) (by decide) (by omega)
    simpa [hvalue] using this
  · have hvalue : nanosecond / 1000 * 1000 = nanosecond := by omega
    have := hread 6 (nanosecond / 1000) (by decide) (by decide) (by omega)
    simpa [hvalue] using this
  · have := hread 9 nanosecond (by decide) (by decide) (by omega)
    simpa using this

/-- A valid time is not moved by an offset of nothing. -/
theorem back_zero {t : Time} (h : t.isValid = true) : t.back 0 = t := by
  simp only [isValid, Bool.and_eq_true, decide_eq_true_eq] at h
  have htotal : (t.hour * 60 + t.minute : Int) - 0 = ((t.hour * 60 + t.minute : Nat) : Int) := by
    push_cast
    ring
  have hday : t.hour * 60 + t.minute < 1440 := by omega
  have hclock : (((t.hour * 60 + t.minute : Nat) : Int) % 1440).toNat =
      t.hour * 60 + t.minute := by omega
  have hhour : (t.hour * 60 + t.minute) / 60 = t.hour := by omega
  have hminute : (t.hour * 60 + t.minute) % 60 = t.minute := by omega
  unfold back
  simp only [htotal, hclock, hhour, hminute]
  rw [if_neg (by omega), if_neg (by omega)]

theorem ofText?_text {t : Time} (h : t.isValid = true) : ofText? t.text = some t := by
  have hback := back_zero h
  have hvalid := h
  simp only [isValid, Bool.and_eq_true, decide_eq_true_eq] at h
  obtain ⟨⟨⟨⟨hdate, hhour⟩, hminute⟩, hsecond⟩, hnanosecond⟩ := h
  have htext : t.text.toList = (dateText t.date).toList ++ 'T' :: ((padded 2 t.hour).toList ++
      ':' :: ((padded 2 t.minute).toList ++ ':' :: ((padded 2 t.second).toList ++
        ((fractionText t.nanosecond).toList ++ ['Z'])))) := by
    simp [text, clockText]
  unfold ofText?
  rw [htext]
  simp [date?_dateText hdate, field?_padded (show t.hour < 100 by omega),
    field?_padded (show t.minute < 100 by omega), field?_padded (show t.second < 100 by omega),
    expect?_cons (show Text.isBlank ':' = false by decide),
    fraction?_fractionText hnanosecond (show Char.isDigit 'Z' = false by decide)]
  have hoffset : offset? (Text.trimStart ['Z']) = some (0, []) := rfl
  rw [hoffset, Option.bind_some]
  exact (if_pos ⟨rfl, hvalid, hback.symm ▸ hvalid⟩).trans (congrArg some hback)

end PipelineSync.Time
