import Mathlib
import PipelineSync.Proofs.Lists
import PipelineSync.Url.Host

/-!
# Numeric hosts are read back

Numbers in digits (`numeral?_toDigits`), the four bytes of an IPv4 address (`ipv4Text_again`) and the
eight pieces of an IPv6 address (`ipv6Value?_ipv6Text`) are read as what they were written for.
-/

namespace PipelineSync.Url

/-! ## Numbers -/

section Numbers

variable {b n : Nat}

theorem hexValue?_digitChar (h : n < 16) : Text.hexValue? n.digitChar = some n := by
  have hall : ∀ m ∈ List.range 16, Text.hexValue? m.digitChar = some m := by decide
  exact hall n (List.mem_range.2 h)

/-- A number in digits is read back. -/
theorem numeral?_toDigits (hb : 1 < b) (hle : b ≤ 16) (n : Nat) :
    numeral? b (Nat.toDigits b n) = some n := by
  rw [numeral?, if_neg (by simp)]
  induction n using Nat.strongRecOn with
  | ind n ih =>
    rw [Nat.toDigits_eq_if hb]
    split
    · next hn =>
      simp only [List.foldlM_cons, List.foldlM_nil]
      rw [hexValue?_digitChar (hn.trans_le hle)]
      simp [hn]
    · have hlow : n % b < b := Nat.mod_lt _ (by omega)
      rw [List.foldlM_append, ih (n / b) (Nat.div_lt_self (by omega) hb)]
      simp only [List.foldlM_cons, List.foldlM_nil]
      rw [hexValue?_digitChar (hlow.trans_le hle)]
      simp [hlow, Nat.div_add_mod]

theorem lt_of_foldlM_digits {m : Nat} {cs : List Char}
    (h : cs.foldlM (fun n c => do
      let d ← Text.hexValue? c
      if d < b then some (b * n + d) else none) m = some n) : n < (m + 1) * b ^ cs.length := by
  induction cs generalizing m with
  | nil =>
    obtain rfl : m = n := Option.some.inj h
    simp
  | cons c cs ih =>
    simp only [List.foldlM_cons, Option.bind_eq_bind, Option.bind_eq_some_iff] at h
    obtain ⟨next, ⟨d, -, hnext⟩, h⟩ := h
    split at hnext
    · next hd =>
      obtain rfl := Option.some.inj hnext
      have hstep : b * m + d + 1 ≤ (m + 1) * b := by
        rw [Nat.add_mul, Nat.mul_comm m b]
        omega
      rw [List.length_cons, Nat.pow_succ', ← Nat.mul_assoc]
      exact (ih h).trans_le (Nat.mul_le_mul_right _ hstep)
    · cases hnext

theorem numeral?_lt {cs : List Char} (h : numeral? b cs = some n) : n < b ^ cs.length := by
  rw [numeral?] at h
  split at h
  · cases h
  · have hlt := lt_of_foldlM_digits h
    rwa [Nat.zero_add, Nat.one_mul] at hlt

theorem exists_digitChar_of_mem_toDigits {c : Char} (hb : 1 < b) (h : c ∈ Nat.toDigits b n) :
    ∃ k < b, c = k.digitChar := by
  induction n using Nat.strongRecOn with
  | ind n ih =>
    rw [Nat.toDigits_eq_if hb] at h
    split at h
    · next hn => exact ⟨n, hn, List.mem_singleton.1 h⟩
    · rcases List.mem_append.1 h with h | h
      · exact ih (n / b) (Nat.div_lt_self (by omega) hb) h
      · exact ⟨n % b, Nat.mod_lt _ (by omega), List.mem_singleton.1 h⟩

theorem isDigit_of_mem_decimal {n : Nat} {c : Char} (h : c ∈ decimal n) : c.isDigit = true :=
  Nat.isDigit_of_mem_toDigits (by decide) (by decide) h

theorem toNat_of_isDigit {c : Char} (h : c.isDigit = true) : 48 ≤ c.toNat ∧ c.toNat ≤ 57 :=
  Char.isDigit_iff_toNat.1 h

end Numbers

/-! ## IPv4 -/

section Ipv4

/-- The byte of an IPv4 address at place `i`, the last one at 0. -/
def byte (n i : Nat) : Nat := n / Nat.pow 256 i % 256

theorem byte_lt (n i : Nat) : byte n i < 256 := Nat.mod_lt _ (by omega)

theorem ipv4Text_eq (n : Nat) :
    ipv4Text n =
      List.intercalate ['.']
        [decimal (byte n 3), decimal (byte n 2), decimal (byte n 1), decimal (byte n 0)] := by
  simp [ipv4Text, byte, List.intercalate_cons_cons]

theorem mem_ipv4Text {n : Nat} {c : Char} (h : c ∈ ipv4Text n) : c = '.' ∨ c.isDigit = true := by
  rw [ipv4Text_eq] at h
  rcases Text.mem_of_mem_intercalate h with h | ⟨part, hpart, h⟩
  · exact Or.inl (List.mem_singleton.1 h)
  · simp only [List.mem_cons, List.not_mem_nil, or_false] at hpart
    rcases hpart with rfl | rfl | rfl | rfl <;> exact Or.inr (isDigit_of_mem_decimal h)

theorem ipv4Part?_decimal {n : Nat} (h : n < 256) : ipv4Part? (decimal n) = some n := by
  have hall : ∀ m ∈ List.range 256, ipv4Part? (decimal m) = some m := by decide +kernel
  exact hall n (List.mem_range.2 h)

theorem splitAt_ipv4Text (n : Nat) :
    Text.splitAt (· == '.') (ipv4Text n) =
      [decimal (byte n 3), decimal (byte n 2), decimal (byte n 1), decimal (byte n 0)] := by
  rw [ipv4Text_eq, Text.splitAt_intercalate (by decide) (List.cons_ne_nil _ _)]
  intro part hpart
  simp only [List.mem_cons, List.not_mem_nil, or_false] at hpart
  have hdot (k : Nat) : ∀ c ∈ decimal k, (c == '.') = false := by
    intro c hc
    rw [beq_eq_false_iff_ne]
    rintro rfl
    cases isDigit_of_mem_decimal hc
  rcases hpart with rfl | rfl | rfl | rfl <;> exact hdot _

theorem endsInNumber_ipv4Text (n : Nat) : endsInNumber (ipv4Text n) = true := by
  have hne : decimal (byte n 0) ≠ [] := Nat.toDigits_ne_nil
  have hpart := ipv4Part?_decimal (byte_lt n 0)
  rw [endsInNumber, splitAt_ipv4Text]
  obtain ⟨c, cs, hcons⟩ := List.exists_cons_of_ne_nil hne
  rw [hcons] at hpart ⊢
  simp [endsInNumber.isNumber, hpart]

theorem ipv4Value?_ipv4Text (n : Nat) :
    ipv4Value? (ipv4Text n) = some
      (byte n 0 + byte n 3 * 256 ^ 3 + byte n 2 * 256 ^ 2 + byte n 1 * 256) := by
  have hne : decimal (byte n 0) ≠ [] := Nat.toDigits_ne_nil
  have hlt := byte_lt n
  have h3 := Nat.le_of_lt_succ (hlt 3)
  have h2 := Nat.le_of_lt_succ (hlt 2)
  have h1 := Nat.le_of_lt_succ (hlt 1)
  rw [ipv4Value?, splitAt_ipv4Text]
  simp [hne, ipv4Part?_decimal (hlt _), h1, h2, h3, hlt 0]

theorem ipv4Text_again {n m : Nat} (h : ipv4Value? (ipv4Text n) = some m) :
    ipv4Text m = ipv4Text n := by
  rw [ipv4Value?_ipv4Text] at h
  obtain rfl := Option.some.inj h
  have h3 := byte_lt n 3
  have h2 := byte_lt n 2
  have h1 := byte_lt n 1
  have h0 := byte_lt n 0
  rw [ipv4Text_eq n]
  generalize byte n 3 = b3 at h3 ⊢
  generalize byte n 2 = b2 at h2 ⊢
  generalize byte n 1 = b1 at h1 ⊢
  generalize byte n 0 = b0 at h0 ⊢
  have hbyte3 : byte (b0 + b3 * 256 ^ 3 + b2 * 256 ^ 2 + b1 * 256) 3 = b3 := by
    simp only [byte, Nat.pow_eq]
    omega
  have hbyte2 : byte (b0 + b3 * 256 ^ 3 + b2 * 256 ^ 2 + b1 * 256) 2 = b2 := by
    simp only [byte, Nat.pow_eq]
    omega
  have hbyte1 : byte (b0 + b3 * 256 ^ 3 + b2 * 256 ^ 2 + b1 * 256) 1 = b1 := by
    simp only [byte, Nat.pow_eq]
    omega
  have hbyte0 : byte (b0 + b3 * 256 ^ 3 + b2 * 256 ^ 2 + b1 * 256) 0 = b0 := by
    simp only [byte, Nat.pow_eq]
    omega
  rw [ipv4Text_eq, hbyte3, hbyte2, hbyte1, hbyte0]

end Ipv4

/-! ## IPv6 -/

section Ipv6

variable {pieces : List Nat}

/-- Pieces of an IPv6 address with colons between them. -/
def hexText (pieces : List Nat) : List Char := List.intercalate [':'] (pieces.map (Nat.toDigits 16))

theorem hexText_singleton (n : Nat) : hexText [n] = Nat.toDigits 16 n := by
  rw [hexText, List.map_singleton, List.intercalate_singleton]

theorem hexText_cons_cons (n m : Nat) (pieces : List Nat) :
    hexText (n :: m :: pieces) = Nat.toDigits 16 n ++ ':' :: hexText (m :: pieces) := by
  rw [hexText, List.map_cons, List.map_cons, List.intercalate_cons_cons, List.append_assoc]
  rfl

theorem ne_of_mem_digits {n : Nat} {c d : Char} (hd : ∀ k, Nat.digitChar k ≠ d)
    (h : c ∈ Nat.toDigits 16 n) : c ≠ d := by
  obtain ⟨k, -, rfl⟩ := exists_digitChar_of_mem_toDigits (by decide) h
  exact hd k

theorem ne_colon_of_mem_digits {n : Nat} {c : Char} (h : c ∈ Nat.toDigits 16 n) : c ≠ ':' :=
  ne_of_mem_digits (fun _ => Nat.digitChar_ne _ (by decide)) h

theorem exists_hexText_cons (n : Nat) (pieces : List Nat) :
    ∃ c cs, hexText (n :: pieces) = c :: cs ∧ c ≠ ':' := by
  obtain ⟨c, cs, hcons⟩ := List.exists_cons_of_ne_nil (Nat.toDigits_ne_nil (n := n) (b := 16))
  have hc : c ≠ ':' := ne_colon_of_mem_digits (hcons ▸ List.mem_cons_self)
  cases pieces with
  | nil => exact ⟨c, cs, by rw [hexText_singleton, hcons], hc⟩
  | cons m pieces => exact ⟨c, _, by rw [hexText_cons_cons, hcons]; rfl, hc⟩

theorem splitAt_hexText (hne : pieces ≠ []) :
    Text.splitAt (· == ':') (hexText pieces) = pieces.map (Nat.toDigits 16) := by
  rw [hexText, Text.splitAt_intercalate (by decide) (by simpa using hne)]
  intro part hpart c hc
  obtain ⟨n, -, rfl⟩ := List.mem_map.1 hpart
  exact beq_eq_false_iff_ne.2 (ne_colon_of_mem_digits hc)

theorem dot_not_mem_hexText : '.' ∉ hexText pieces := by
  intro hdot
  rcases Text.mem_of_mem_intercalate hdot with hdot | ⟨part, hpart, hdot⟩
  · cases List.mem_singleton.1 hdot
  · obtain ⟨n, -, rfl⟩ := List.mem_map.1 hpart
    exact ne_of_mem_digits (fun _ => Nat.digitChar_ne _ (by decide)) hdot rfl

theorem ipv6Pieces?_hexText (h : ∀ n ∈ pieces, n < 65536) :
    ipv6Pieces? (pieces.map (Nat.toDigits 16)) = some pieces := by
  have hpiece : ∀ n ∈ pieces, ipv6Pieces?.piece (Nat.toDigits 16 n) = some [n] := by
    intro n hn
    have hlength : (Nat.toDigits 16 n).length ≤ 4 :=
      (Nat.length_toDigits_le_iff (by omega) (by omega)).2 (h n hn)
    simp [ipv6Pieces?.piece, hlength, numeral?_toDigits]
  clear h
  induction pieces with
  | nil => rfl
  | cons n pieces ih =>
    obtain ⟨hfirst, hrest⟩ := List.forall_mem_cons.1 hpiece
    cases pieces with
    | nil =>
      have hdot : '.' ∉ Nat.toDigits 16 n := fun hdot =>
        ne_of_mem_digits (fun _ => Nat.digitChar_ne _ (by decide)) hdot rfl
      rw [List.map_singleton, ipv6Pieces?, if_neg (by simpa using hdot), hfirst]
    | cons m pieces =>
      rw [List.map_cons, List.map_cons, ipv6Pieces?, ← List.map_cons, hfirst, ih hrest]
      · rfl
      · exact List.cons_ne_nil _ _

theorem ipv6Side?_hexText (h : ∀ n ∈ pieces, n < 65536) :
    ipv6Side? (hexText pieces) = some pieces := by
  cases pieces with
  | nil => rfl
  | cons n pieces =>
    obtain ⟨c, cs, hcons, -⟩ := exists_hexText_cons n pieces
    have hne : hexText (n :: pieces) ≠ [] := hcons ▸ List.cons_ne_nil c cs
    rw [ipv6Side?, if_neg (by simpa using hne), splitAt_hexText (List.cons_ne_nil _ _),
      ipv6Pieces?_hexText h]

theorem splitDoubleColon?_append {cs : List Char} (h : ':' ∉ cs) (rest : List Char) :
    splitDoubleColon? (cs ++ rest) =
      (splitDoubleColon? rest).map fun sides => (cs ++ sides.1, sides.2) := by
  induction cs with
  | nil => simp
  | cons c cs ih =>
    have hc : c ≠ ':' := fun hc => h (hc ▸ List.mem_cons_self)
    rw [List.cons_append, splitDoubleColon?, ih fun hmem => h (List.mem_cons_of_mem c hmem)]
    · simp [Option.map_map, Function.comp_def]
    · rintro rest' rfl
      exact absurd rfl hc

theorem splitDoubleColon?_colon {c : Char} (hc : c ≠ ':') (rest : List Char) :
    splitDoubleColon? (':' :: c :: rest) =
      (splitDoubleColon? (c :: rest)).map fun sides => (':' :: sides.1, sides.2) := by
  rw [splitDoubleColon?]
  rintro rest' - heq
  exact hc (List.cons.inj heq).1

/-- The text around the first `::` behind pieces. -/
theorem splitDoubleColon?_hexText (pieces : List Nat) (rest : List Char) :
    splitDoubleColon? (hexText pieces ++ rest) =
      (splitDoubleColon? rest).map fun sides => (hexText pieces ++ sides.1, sides.2) := by
  have hcolon (n : Nat) : ':' ∉ Nat.toDigits 16 n := fun hmem => ne_colon_of_mem_digits hmem rfl
  induction pieces with
  | nil => simp [hexText]
  | cons n pieces ih =>
    cases pieces with
    | nil =>
      rw [hexText_singleton]
      exact splitDoubleColon?_append (hcolon n) rest
    | cons m pieces =>
      obtain ⟨c, cs, hcons, hc⟩ := exists_hexText_cons m pieces
      rw [hcons] at ih
      rw [hexText_cons_cons, List.append_assoc, splitDoubleColon?_append (hcolon n), hcons,
        List.cons_append, List.cons_append, splitDoubleColon?_colon hc, ← List.cons_append, ih]
      simp [Option.map_map, Function.comp_def]

/-- Where the longest run of zeros is: within the pieces, and nothing else in it. -/
theorem longestZeros_spec (pieces : List Nat) :
    (longestZeros pieces).1 + (longestZeros pieces).2 ≤ pieces.length ∧
      (pieces.drop (longestZeros pieces).1).take (longestZeros pieces).2 =
        List.replicate (longestZeros pieces).2 0 := by
  rw [longestZeros]
  refine List.foldlRecOn (List.range pieces.length) _
    (motive := fun best : Nat × Nat => best.1 + best.2 ≤ pieces.length ∧
      (pieces.drop best.1).take best.2 = List.replicate best.2 0) ⟨Nat.zero_le _, rfl⟩ ?_
  intro best hbest i hi
  split
  · have hrun := List.takeWhile_prefix (l := pieces.drop i) (p := (· == 0))
    have hlength := hrun.length_le
    rw [List.length_drop] at hlength
    have hbound := List.mem_range.1 hi
    refine ⟨by dsimp only; omega, ?_⟩
    dsimp only
    rw [← List.prefix_iff_eq_take.1 hrun]
    refine List.eq_replicate_iff.2 ⟨rfl, fun n hn => ?_⟩
    exact eq_of_beq (List.mem_takeWhile_imp (p := (· == 0)) hn)
  · exact hbest

theorem ipv6Text_eq (pieces : List Nat) :
    ipv6Text pieces =
      if (longestZeros pieces).2 < 2 then hexText pieces
      else hexText (pieces.take (longestZeros pieces).1) ++ ':' :: ':' ::
        hexText (pieces.drop ((longestZeros pieces).1 + (longestZeros pieces).2)) := by
  rw [ipv6Text]
  generalize longestZeros pieces = run
  obtain ⟨start, len⟩ := run
  dsimp only
  rw [List.append_assoc]
  rfl

theorem mem_ipv6Text {c : Char} (h : c ∈ ipv6Text pieces) :
    c = ':' ∨ ∃ n, c ∈ Nat.toDigits 16 n := by
  have hhex {ps : List Nat} (h : c ∈ hexText ps) : c = ':' ∨ ∃ n, c ∈ Nat.toDigits 16 n := by
    rcases Text.mem_of_mem_intercalate h with h | ⟨part, hpart, h⟩
    · exact Or.inl (List.mem_singleton.1 h)
    · obtain ⟨n, -, rfl⟩ := List.mem_map.1 hpart
      exact Or.inr ⟨n, h⟩
  rw [ipv6Text_eq] at h
  split at h
  · exact hhex h
  · simp only [List.mem_append, List.mem_cons] at h
    rcases h with h | rfl | rfl | h
    · exact hhex h
    · exact Or.inl rfl
    · exact Or.inl rfl
    · exact hhex h

/-- An address is read back. -/
theorem ipv6Value?_ipv6Text (hlength : pieces.length = 8) (h : ∀ n ∈ pieces, n < 65536) :
    ipv6Value? (ipv6Text pieces) = some pieces := by
  obtain ⟨hle, hzeros⟩ := longestZeros_spec pieces
  rw [ipv6Text_eq]
  generalize (longestZeros pieces).1 = start at hle hzeros ⊢
  generalize (longestZeros pieces).2 = len at hle hzeros ⊢
  split
  · have hsplit := splitDoubleColon?_hexText pieces []
    rw [List.append_nil] at hsplit
    have hne : pieces ≠ [] := by
      rintro rfl
      cases hlength
    rw [ipv6Value?, hsplit]
    simp [splitDoubleColon?, splitAt_hexText hne, ipv6Pieces?_hexText h, hlength]
  · next hlen =>
    have hfront : ipv6Side? (hexText (pieces.take start)) = some (pieces.take start) :=
      ipv6Side?_hexText fun n hn => h n (List.mem_of_mem_take hn)
    have hback : ipv6Side? (hexText (pieces.drop (start + len))) =
        some (pieces.drop (start + len)) :=
      ipv6Side?_hexText fun n hn => h n (List.mem_of_mem_drop hn)
    have hpieces : pieces.take start ++ (List.replicate len 0 ++ pieces.drop (start + len)) =
        pieces := by
      rw [← hzeros, ← List.drop_drop, List.take_append_drop, List.take_append_drop]
    have hcount : 8 - (pieces.take start).length - (pieces.drop (start + len)).length = len := by
      rw [List.length_take, List.length_drop]
      omega
    have hroom : (pieces.take start).length + (pieces.drop (start + len)).length ≤ 7 := by
      rw [List.length_take, List.length_drop]
      omega
    rw [ipv6Value?, splitDoubleColon?_hexText]
    simp [splitDoubleColon?, dot_not_mem_hexText, hfront, hback, -List.length_take,
      -List.length_drop, hcount, hroom, hpieces]

theorem mem_of_piece {part : List Char} (h : ipv6Pieces?.piece part = some pieces) :
    ∀ n ∈ pieces, n < 65536 := by
  simp only [ipv6Pieces?.piece, Option.bind_eq_bind, Option.bind_eq_some_iff] at h
  obtain ⟨_, hguard, n, hn, hpieces⟩ := h
  obtain rfl := Option.some.inj hpieces
  have hlength := (Option.guard_eq_some' _).1 hguard
  intro m hm
  rw [List.mem_singleton.1 hm]
  exact (numeral?_lt hn).trans_le (Nat.pow_le_pow_right (by omega) hlength)

theorem mem_of_trailingIpv4? {part : List Char} (h : trailingIpv4? part = some pieces) :
    ∀ n ∈ pieces, n < 65536 := by
  simp only [trailingIpv4?, Option.bind_eq_bind, Option.bind_eq_some_iff] at h
  obtain ⟨_, -, bytes, hbytes, h⟩ := h
  have hsmall : ∀ n ∈ bytes, n ≤ 255 := by
    intro n hn
    obtain ⟨part, -, hread⟩ := exists_of_mem_mapM hbytes hn
    simp only [Option.bind_eq_some_iff] at hread
    obtain ⟨_, -, m, -, _, hguard, heq⟩ := hread
    obtain rfl := Option.some.inj heq
    exact (Option.guard_eq_some' _).1 hguard
  split at h
  · next a b c d =>
    obtain rfl := Option.some.inj h
    simp only [List.forall_mem_cons] at hsmall
    simp only [List.forall_mem_cons]
    exact ⟨by omega, by omega, List.forall_mem_nil _⟩
  · cases h

theorem mem_of_ipv6Pieces? {parts : List (List Char)} (h : ipv6Pieces? parts = some pieces) :
    ∀ n ∈ pieces, n < 65536 := by
  fun_induction ipv6Pieces? parts generalizing pieces with
  | case1 =>
    obtain rfl := Option.some.inj h
    exact List.forall_mem_nil _
  | case2 => exact mem_of_trailingIpv4? h
  | case3 => exact mem_of_piece h
  | case4 part parts _ ih =>
    simp only [Option.bind_eq_bind, Option.bind_eq_some_iff] at h
    obtain ⟨first, hfirst, rest, hrest, h⟩ := h
    obtain rfl := Option.some.inj h
    intro n hn
    rcases List.mem_append.1 hn with hn | hn
    · exact mem_of_piece hfirst n hn
    · exact ih hrest n hn

theorem mem_of_ipv6Side? {side : List Char} (h : ipv6Side? side = some pieces) :
    ∀ n ∈ pieces, n < 65536 := by
  rw [ipv6Side?] at h
  split at h
  · obtain rfl := Option.some.inj h
    exact List.forall_mem_nil _
  · exact mem_of_ipv6Pieces? h

/-- An address that is read has eight pieces of sixteen bits. -/
theorem ipv6Value?_spec {cs : List Char} (h : ipv6Value? cs = some pieces) :
    pieces.length = 8 ∧ ∀ n ∈ pieces, n < 65536 := by
  rw [ipv6Value?] at h
  split at h
  · simp only [Option.bind_eq_bind, Option.bind_eq_some_iff] at h
    obtain ⟨pieces', hpieces, _, hguard, h⟩ := h
    obtain rfl := Option.some.inj h
    exact ⟨eq_of_beq ((Option.guard_eq_some' _).1 hguard), mem_of_ipv6Pieces? hpieces⟩
  · simp only [Option.bind_eq_bind, Option.bind_eq_some_iff] at h
    obtain ⟨_, -, front, hfront, back, hback, _, hguard, h⟩ := h
    obtain rfl := Option.some.inj h
    have hroom := (Option.guard_eq_some' _).1 hguard
    refine ⟨by simp; omega, fun n hn => ?_⟩
    simp only [List.mem_append] at hn
    rcases hn with (hn | hn) | hn
    · exact mem_of_ipv6Side? hfront n hn
    · rw [(List.mem_replicate.1 hn).2]
      decide
    · exact mem_of_ipv6Side? hback n hn

end Ipv6

end PipelineSync.Url
