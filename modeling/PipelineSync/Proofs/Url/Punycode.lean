import Mathlib
import PipelineSync.Url.Punycode

/-!
# Labels in Punycode are read back

`decode?_encode`: a label that is written in Punycode is read as itself. While the encoder goes
through the code points, a reader of its output has in place what the encoder is done with, and the
encoder's `delta` is the way from there to the next character (`InStep`).
-/

namespace PipelineSync.Url.Punycode

/-! ## Numbers -/

theorem threshold_mem (k bias : Nat) : 0 < threshold k bias ∧ threshold k bias ≤ 26 := by
  unfold threshold
  split
  · omega
  · split <;> omega

theorem digitValue?_digit {n : Nat} (h : n < 36) : digitValue? (digit n) = some n := by
  have hall : ∀ m ∈ List.range 36, digitValue? (digit m) = some m := by decide
  exact hall n (List.mem_range.2 h)

theorem readNumber?_digit {d : Nat} (hd : d < 36) (k w bias i : Nat) (rest : List Char) :
    readNumber? k w bias i (digit d :: rest) =
      if d < threshold k bias then some (i + d * w, rest)
      else readNumber? (k + 36) (w * (36 - threshold k bias)) bias (i + d * w) rest := by
  rw [readNumber?, digitValue?_digit hd]
  rfl

/-- A number is read back, and nothing behind it is touched. -/
theorem readNumber?_writeNumber (q k w bias i : Nat) (rest : List Char) :
    readNumber? k w bias i (writeNumber q k bias ++ rest) = some (i + q * w, rest) := by
  induction q using Nat.strongRecOn generalizing k w i with
  | ind q ih =>
    obtain ⟨hpos, hle⟩ := threshold_mem k bias
    rw [writeNumber]
    split
    · next h =>
      have hlow : (q - threshold k bias) % (36 - threshold k bias) < 36 - threshold k bias :=
        Nat.mod_lt _ (by omega)
      have hless : (q - threshold k bias) / (36 - threshold k bias) < q :=
        (Nat.div_le_self _ _).trans_lt (by omega)
      have hvalue : threshold k bias + (q - threshold k bias) % (36 - threshold k bias)
          + (q - threshold k bias) / (36 - threshold k bias) * (36 - threshold k bias) = q := by
        have := Nat.mod_add_div' (q - threshold k bias) (36 - threshold k bias)
        omega
      rw [List.cons_append, readNumber?_digit (by omega), if_neg (by omega),
        ih _ hless]
      refine congrArg (fun n => some (n, rest)) ?_
      rw [Nat.add_assoc, Nat.mul_comm w, ← Nat.mul_assoc, ← Nat.add_mul, hvalue]
    · next h =>
      rw [List.singleton_append, readNumber?_digit (by omega), if_pos (by omega)]

theorem exists_digit_of_mem_writeNumber {q k bias : Nat} {c : Char}
    (h : c ∈ writeNumber q k bias) : ∃ n < 36, c = digit n := by
  induction q using Nat.strongRecOn generalizing k with
  | ind q ih =>
    obtain ⟨hpos, hle⟩ := threshold_mem k bias
    rw [writeNumber] at h
    split at h
    · have hlow : (q - threshold k bias) % (36 - threshold k bias) < 36 - threshold k bias :=
        Nat.mod_lt _ (by omega)
      have hless : (q - threshold k bias) / (36 - threshold k bias) < q :=
        (Nat.div_le_self _ _).trans_lt (by omega)
      rcases List.mem_cons.1 h with h | h
      · exact ⟨_, by omega, h⟩
      · exact ih _ hless h
    · exact ⟨q, by omega, List.mem_singleton.1 h⟩

/-! ## Insertions -/

theorem insertAll?_of_readNumber? {i n bias j : Nat} {output cs rest : List Char}
    (h : readNumber? 36 1 bias i cs = some (j, rest))
    (hpoint : (n + j / (output.length + 1)).isValidChar) :
    insertAll? i n bias output cs =
      insertAll? (j % (output.length + 1) + 1) (n + j / (output.length + 1))
        (adapt (j - i) (output.length + 1) (i == 0))
        (output.take (j % (output.length + 1)) ++
          Char.ofNat (n + j / (output.length + 1)) :: output.drop (j % (output.length + 1)))
        rest := by
  cases cs with
  | nil => cases h
  | cons c cs =>
    rw [insertAll?]
    split
    · next hnone => exact absurd (h.symm.trans hnone) (by simp)
    · next j' rest' hsome =>
      obtain ⟨rfl, rfl⟩ := Prod.mk.inj (Option.some.inj (hsome.symm.trans h))
      rw [if_pos hpoint]

/-- A number that leads from `(i, n)` to the character `c` at the end of `front` puts it there. -/
theorem insertAll?_writeNumber {i n m delta count bias : Nat} {c : Char} {front back : List Char}
    (hc : c.toNat = m) (hn : n ≤ m) (hcount : count = (front ++ back).length)
    (hdelta : i + delta = (m - n) * (count + 1) + front.length) (rest : List Char) :
    insertAll? i n bias (front ++ back) (writeNumber delta 36 bias ++ rest) =
      insertAll? (front.length + 1) m (adapt delta (count + 1) (i == 0)) (front ++ c :: back)
        rest := by
  have hlt : front.length < count + 1 := by
    rw [hcount, List.length_append]
    omega
  have hread := readNumber?_writeNumber delta 36 1 bias i rest
  rw [Nat.mul_one] at hread
  have hpoint : n + (i + delta) / (count + 1) = m := by
    rw [hdelta, Nat.mul_comm, Nat.mul_add_div (by omega), Nat.div_eq_of_lt hlt]
    omega
  have hplace : (i + delta) % (count + 1) = front.length := by
    rw [hdelta, Nat.mul_comm, Nat.mul_add_mod, Nat.mod_eq_of_lt hlt]
  have hvalid : (n + (i + delta) / ((front ++ back).length + 1)).isValidChar := by
    rw [← hcount, hpoint, ← hc]
    exact c.valid
  rw [insertAll?_of_readNumber? hread hvalid, ← hcount, hpoint, hplace, Nat.add_sub_cancel_left,
    ← hc, Char.ofNat_toNat, List.take_left, List.drop_left]

/-! ## The encoder and a reader of its output -/

section Encoder

variable {label before after : List Char} {p : Progress} {i n m : Nat} {c : Char}

/-- The ASCII characters of a label. -/
def ascii (label : List Char) : List Char := label.filter (·.toNat < 0x80)

/-- What the encoder has gone past at the code point `m` and is done with. -/
def passed (before : List Char) (m : Nat) : List Char := before.filter (·.toNat ≤ m)

theorem passed_append_of_le (before : List Char) (h : c.toNat ≤ m) :
    passed (before ++ [c]) m = passed before m ++ [c] := by
  simp [passed, h]

theorem passed_append_of_lt (before : List Char) (h : m < c.toNat) :
    passed (before ++ [c]) m = passed before m := by
  simp [passed, h]

/-- The characters in place when the encoder is at the code point `m`, between `before` and
`after`. -/
def standing (before after : List Char) (m : Nat) : List Char :=
  passed before m ++ after.filter (·.toNat < m)

theorem standing_append_of_ne (before after : List Char) (h : c.toNat ≠ m) :
    standing (before ++ [c]) after m = standing before (c :: after) m := by
  rcases Nat.lt_or_gt_of_ne h with h | h
  · simp [standing, passed_append_of_le before h.le, h]
  · simp [standing, passed_append_of_lt before h, h.le]

/-- A reader of what the encoder of `label` has written has all characters in place that the encoder
is done with, and from its place `(i, n)` it is `p.delta` to where the encoder is. -/
structure InStep (label before after : List Char) (p : Progress) (i n : Nat) : Prop where
  reads : ∀ rest, insertAll? 0 0x80 72 (ascii label) (p.output ++ rest) =
    insertAll? i n p.bias (standing before after p.next) rest
  le : n ≤ p.next
  placed : p.placed = (standing before after p.next).length
  first : i = 0 ∧ p.placed = (ascii label).length ∨ 0 < i ∧ (ascii label).length < p.placed
  delta : i + p.delta = (p.next - n) * (p.placed + 1) + (passed before p.next).length

theorem InStep.beq_first (h : InStep label before after p i n) :
    (p.placed == (ascii label).length) = (i == 0) := by
  rw [Bool.eq_iff_iff, beq_iff_eq, beq_iff_eq]
  have := h.first
  omega

/-- A character that is in place already. -/
theorem InStep.visit_of_lt (h : InStep label before (c :: after) p i n) (hc : c.toNat < p.next) :
    InStep label (before ++ [c]) after (p.visit label c) i n := by
  have hvisit : p.visit label c = { p with delta := p.delta + 1 } := by
    rw [Progress.visit, if_pos hc]
  have hstanding := standing_append_of_ne before after hc.ne
  rw [hvisit]
  refine ⟨?_, h.le, ?_, h.first, ?_⟩
  · rw [hstanding]
    exact h.reads
  · rw [hstanding]
    exact h.placed
  · have hdelta := h.delta
    rw [passed_append_of_le before hc.le, List.length_append, List.length_singleton]
    dsimp only
    omega

/-- A character that is to be written later. -/
theorem InStep.visit_of_gt (h : InStep label before (c :: after) p i n) (hc : p.next < c.toNat) :
    InStep label (before ++ [c]) after (p.visit label c) i n := by
  have hvisit : p.visit label c = p := by
    rw [Progress.visit, if_neg hc.not_gt, if_neg hc.ne']
  have hstanding := standing_append_of_ne before after hc.ne'
  rw [hvisit]
  refine ⟨?_, h.le, ?_, h.first, ?_⟩
  · rw [hstanding]
    exact h.reads
  · rw [hstanding]
    exact h.placed
  · rw [passed_append_of_lt before hc]
    exact h.delta

/-- A character that is written: a reader puts it in place. -/
theorem InStep.visit_of_eq (h : InStep label before (c :: after) p i n) (hc : c.toNat = p.next) :
    InStep label (before ++ [c]) after (p.visit label c) ((passed before p.next).length + 1)
      p.next := by
  have hvisit : p.visit label c =
      { p with
        output := p.output ++ writeNumber p.delta 36 p.bias
        bias := adapt p.delta (p.placed + 1) (p.placed == (ascii label).length)
        delta := 0
        placed := p.placed + 1 } := by
    rw [Progress.visit, if_neg hc.not_lt, if_pos hc]
    rfl
  have hpassed := passed_append_of_le before hc.le
  have hbefore : standing before (c :: after) p.next =
      passed before p.next ++ after.filter (·.toNat < p.next) := by
    simp [standing, hc]
  have hafter : standing (before ++ [c]) after p.next =
      passed before p.next ++ c :: after.filter (·.toNat < p.next) := by
    simp [standing, hpassed]
  have hplaced := h.placed
  rw [hbefore] at hplaced
  rw [hvisit]
  refine ⟨fun rest => ?_, le_rfl, ?_, ?_, ?_⟩
  · rw [List.append_assoc, h.reads, hbefore, hafter, h.beq_first]
    exact insertAll?_writeNumber hc h.le hplaced h.delta rest
  · rw [hafter, hplaced, List.length_append, List.length_append, List.length_cons,
      Nat.add_assoc]
  · have := h.first
    dsimp only
    omega
  · rw [hpassed, List.length_append, List.length_singleton, Nat.sub_self, Nat.zero_mul,
      Nat.zero_add, Nat.add_zero]

theorem visit_next (label : List Char) (p : Progress) (c : Char) :
    (p.visit label c).next = p.next := by
  unfold Progress.visit
  split
  · rfl
  · split <;> rfl

/-- All characters of the input, for one code point. -/
theorem InStep.foldl_visit (h : InStep label before after p i n) :
    (after.foldl (Progress.visit label) p).next = p.next ∧
      ∃ i' n', InStep label (before ++ after) [] (after.foldl (Progress.visit label) p) i' n' := by
  induction after generalizing before p i n with
  | nil => exact ⟨rfl, i, n, by rwa [List.append_nil]⟩
  | cons c after ih =>
    have hstep : ∃ i' n', InStep label (before ++ [c]) after (p.visit label c) i' n' := by
      rcases Nat.lt_trichotomy c.toNat p.next with hc | hc | hc
      · exact ⟨_, _, h.visit_of_lt hc⟩
      · exact ⟨_, _, h.visit_of_eq hc⟩
      · exact ⟨_, _, h.visit_of_gt hc⟩
    obtain ⟨i', n', hstep⟩ := hstep
    obtain ⟨hnext, hrest⟩ := ih hstep
    rw [List.append_assoc] at hrest
    exact ⟨hnext.trans (visit_next label p c), hrest⟩

/-- On to a code point, where the label has none between: each that is gone past counts once for
every place. -/
theorem InStep.skipTo (h : InStep label [] label p i n) (hm : p.next ≤ m)
    (hfree : ∀ c ∈ label, c.toNat < p.next ∨ m ≤ c.toNat) :
    InStep label [] label
      { p with delta := p.delta + (m - p.next) * (p.placed + 1), next := m } i n := by
  have hstanding : standing [] label m = standing [] label p.next := by
    refine List.filter_congr fun c hc => ?_
    have := hfree c hc
    rw [decide_eq_decide]
    omega
  refine ⟨fun rest => ?_, h.le.trans hm, ?_, h.first, ?_⟩
  · rw [hstanding]
    exact h.reads rest
  · rw [hstanding]
    exact h.placed
  · have hdelta := h.delta
    have hsplit : m - n = (m - p.next) + (p.next - n) := by
      have := h.le
      omega
    rw [passed, List.filter_nil, List.length_nil] at hdelta ⊢
    dsimp only
    rw [hsplit, Nat.add_mul]
    omega

/-- Past a code point for which all characters have been gone through: what the encoder has gone
past is what it has to go through for the next one. -/
theorem InStep.turn (h : InStep label label [] p i n) :
    InStep label [] label { p with delta := p.delta + 1, next := p.next + 1 } i n := by
  have hall : standing [] label (p.next + 1) = standing label [] p.next := by
    simp only [standing, passed, List.filter_nil, List.append_nil, List.nil_append,
      Nat.lt_succ_iff]
  have hpassed : (passed label p.next).length = p.placed := by
    rw [h.placed, standing, List.filter_nil, List.append_nil]
  refine ⟨fun rest => ?_, h.le.trans (Nat.le_succ _), ?_, h.first, ?_⟩
  · rw [hall]
    exact h.reads rest
  · rw [hall]
    exact h.placed
  · have hdelta := h.delta
    rw [hpassed] at hdelta
    rw [passed, List.filter_nil, List.length_nil]
    dsimp only
    rw [Nat.succ_sub h.le, Nat.succ_mul]
    omega

/-- One code point, of those that the label holds the next. -/
theorem InStep.write (h : InStep label [] label p i n) (hm : p.next ≤ m)
    (hfree : ∀ c ∈ label, c.toNat < p.next ∨ m ≤ c.toNat) :
    (p.write label m).next = m + 1 ∧ ∃ i' n', InStep label [] label (p.write label m) i' n' := by
  refine ⟨rfl, ?_⟩
  obtain ⟨hnext, i', n', hdone⟩ := (h.skipTo hm hfree).foldl_visit
  have hturned := hdone.turn
  rw [hnext] at hturned
  exact ⟨i', n', hturned⟩

/-- All code points of the label that are left. -/
theorem InStep.foldl_write {points : List Nat} (h : InStep label [] label p i n)
    (hsorted : points.Pairwise (· < ·)) (hnext : ∀ m ∈ points, p.next ≤ m)
    (hleft : ∀ c ∈ label, c.toNat < p.next ∨ c.toNat ∈ points) :
    insertAll? 0 0x80 72 (ascii label) (points.foldl (Progress.write label) p).output =
      some label := by
  induction points generalizing p i n with
  | nil =>
    have hall : standing [] label p.next = label := by
      refine List.filter_eq_self.2 fun c hc => ?_
      simpa using hleft c hc
    have hreads := h.reads []
    rwa [List.append_nil, hall, insertAll?] at hreads
  | cons m points ih =>
    obtain ⟨hless, hrest⟩ := List.pairwise_cons.1 hsorted
    have hfree : ∀ c ∈ label, c.toNat < p.next ∨ m ≤ c.toNat := by
      intro c hc
      refine (hleft c hc).imp_right fun hmem => ?_
      rcases List.mem_cons.1 hmem with heq | hmem
      · exact heq.ge
      · exact (hless _ hmem).le
    obtain ⟨hwritten, i', n', hstep⟩ := h.write (hnext m List.mem_cons_self) hfree
    refine ih hstep hrest ?_ ?_
    · rw [hwritten]
      exact hless
    · rw [hwritten]
      intro c hc
      rcases hleft c hc with hlt | hmem
      · have := hnext m List.mem_cons_self
        exact Or.inl (by omega)
      · rcases List.mem_cons.1 hmem with heq | hmem
        · exact Or.inl (by omega)
        · exact Or.inr hmem

theorem exists_digit_of_mem_visit (h : ∀ d ∈ p.output, ∃ n < 36, d = digit n) :
    ∀ d ∈ (p.visit label c).output, ∃ n < 36, d = digit n := by
  unfold Progress.visit
  split
  · exact h
  · split
    · intro d hd
      rcases List.mem_append.1 hd with hd | hd
      · exact h d hd
      · exact exists_digit_of_mem_writeNumber hd
    · exact h

theorem exists_digit_of_mem_write (h : ∀ d ∈ p.output, ∃ n < 36, d = digit n) :
    ∀ d ∈ (p.write label m).output, ∃ n < 36, d = digit n := by
  have hkeep : ∀ q : Progress, (∀ d ∈ q.output, ∃ n < 36, d = digit n) → ∀ c ∈ label,
      ∀ d ∈ (q.visit label c).output, ∃ n < 36, d = digit n :=
    fun q hq c _ => exists_digit_of_mem_visit hq
  exact List.foldlRecOn label (Progress.visit label) (b :=
    { p with delta := p.delta + (m - p.next) * (p.placed + 1), next := m }) h hkeep

end Encoder

/-! ## Labels -/

/-- The code points outside ASCII of a label, in their order. -/
def points (label : List Char) : List Nat :=
  ((label.map Char.toNat).filter (0x80 ≤ ·)).mergeSort.eraseDups

theorem mem_points {label : List Char} {m : Nat} :
    m ∈ points label ↔ 0x80 ≤ m ∧ ∃ c ∈ label, c.toNat = m := by
  simp [points, and_comm]

theorem pairwise_eraseDups (ms : List Nat) (h : ms.Pairwise (· ≤ ·)) :
    ms.eraseDups.Pairwise (· < ·) := by
  match ms with
  | [] => exact List.Pairwise.nil
  | m :: ms =>
    obtain ⟨hle, hrest⟩ := List.pairwise_cons.1 h
    rw [List.eraseDups_cons]
    refine List.pairwise_cons.2 ⟨fun x hx => ?_, pairwise_eraseDups _ (hrest.filter _)⟩
    obtain ⟨hmem, hne⟩ := List.mem_filter.1 (List.mem_eraseDups.1 hx)
    have hmx := hle x hmem
    rw [Bool.not_eq_true', beq_eq_false_iff_ne] at hne
    omega
termination_by ms.length
decreasing_by exact Nat.lt_succ_of_le (List.length_filter_le _ _)

theorem pairwise_points (label : List Char) : (points label).Pairwise (· < ·) :=
  pairwise_eraseDups _ (List.pairwise_mergeSort' (· ≤ ·) _)

/-- What is written behind the ASCII characters of a label. -/
def digits (label : List Char) : List Char :=
  ((points label).foldl (Progress.write label) ⟨0x80, 0, 72, (ascii label).length, []⟩).output

theorem insertAll?_digits (label : List Char) :
    insertAll? 0 0x80 72 (ascii label) (digits label) = some label := by
  have hstart : InStep label [] label ⟨0x80, 0, 72, (ascii label).length, []⟩ 0 0x80 :=
    ⟨fun rest => rfl, Nat.le_refl _, rfl, Or.inl ⟨rfl, rfl⟩, by simp [passed]⟩
  refine hstart.foldl_write (pairwise_points label) (fun m hm => (mem_points.1 hm).1) fun c hc => ?_
  rcases Nat.lt_or_ge c.toNat 0x80 with hlt | hge
  · exact Or.inl hlt
  · exact Or.inr (mem_points.2 ⟨hge, c, hc, rfl⟩)

theorem exists_digit_of_mem_digits (label : List Char) :
    ∀ d ∈ digits label, ∃ n < 36, d = digit n := by
  have hkeep : ∀ q : Progress, (∀ d ∈ q.output, ∃ n < 36, d = digit n) → ∀ m ∈ points label,
      ∀ d ∈ (q.write label m).output, ∃ n < 36, d = digit n :=
    fun q hq m _ => exists_digit_of_mem_write hq
  exact List.foldlRecOn (points label) (Progress.write label)
    (b := ⟨0x80, 0, 72, (ascii label).length, []⟩) (List.forall_mem_nil _) hkeep

theorem encode_eq (label : List Char) :
    encode label = (if (ascii label).isEmpty then [] else ascii label ++ ['-']) ++ digits label :=
  rfl

/-- A label that is written in Punycode is read as itself. -/
theorem decode?_encode (label : List Char) : decode? (encode label) = some label := by
  have hdash : ∀ n ∈ List.range 36, (digit n != '-') = true := by decide
  have hback : ∀ c ∈ (digits label).reverse, (c != '-') = true := by
    intro c hc
    obtain ⟨n, hn, rfl⟩ := exists_digit_of_mem_digits label c (List.mem_reverse.1 hc)
    exact hdash n (List.mem_range.2 hn)
  have hread := insertAll?_digits label
  rw [decode?, encode_eq]
  cases hascii : ascii label with
  | nil =>
    rw [hascii] at hread
    simpa [List.dropWhile_eq_nil_iff.2 hback] using hread
  | cons c cs =>
    rw [hascii] at hread
    simpa [List.dropWhile_append_of_pos hback, List.takeWhile_append_of_pos hback] using hread

/-! ## Characters of labels -/

theorem mem_encode {label : List Char} {c : Char} (h : c ∈ encode label) :
    c ∈ ascii label ∨ c = '-' ∨ ∃ n < 36, c = digit n := by
  rw [encode_eq] at h
  rcases List.mem_append.1 h with h | h
  · split at h
    · cases h
    · rcases List.mem_append.1 h with h | h
      · exact Or.inl h
      · exact Or.inr (Or.inl (List.mem_singleton.1 h))
  · exact Or.inr (Or.inr (exists_digit_of_mem_digits label c h))

/-- Only characters outside ASCII are put in place. -/
theorem mem_of_mem_insertAll? {i n bias : Nat} {output cs label : List Char} {c : Char}
    (h : insertAll? i n bias output cs = some label) (hn : 0x80 ≤ n) (hc : c ∈ label)
    (hascii : c.toNat < 0x80) : c ∈ output := by
  fun_induction insertAll? i n bias output cs with
  | case1 => rwa [Option.some.inj h]
  | case2 => cases h
  | case3 i n bias output _ _ j rest _ _ count point place hvalid ih =>
    have hpoint : 0x80 ≤ point := Nat.le_add_right_of_le hn
    rcases List.mem_append.1 (ih h hpoint) with hc | hc
    · exact List.mem_of_mem_take hc
    · rcases List.mem_cons.1 hc with rfl | hc
      · rw [Char.toNat_ofNat, if_pos hvalid] at hascii
        omega
      · exact List.mem_of_mem_drop hc
  | case4 => cases h

/-- The ASCII characters of a label that is read stand in its code. -/
theorem mem_of_mem_decode? {code label : List Char} {c : Char} (h : decode? code = some label)
    (hc : c ∈ label) (hascii : c.toNat < 0x80) : c ∈ code := by
  rw [decode?] at h
  split at h
  · exact absurd (mem_of_mem_insertAll? h (Nat.le_refl _) hc hascii) List.not_mem_nil
  · have hbasic := mem_of_mem_insertAll? h (Nat.le_refl _) hc hascii
    rw [List.mem_reverse] at hbasic
    exact List.mem_reverse.1 ((List.dropWhile_suffix _).subset (List.mem_of_mem_drop hbasic))

end PipelineSync.Url.Punycode
