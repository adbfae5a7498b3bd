import Mathlib
import PipelineSync.Proofs.Url.Address
import PipelineSync.Proofs.Url.Domain
import PipelineSync.Proofs.Url.Encoding

/-!
# Hosts are read again as they are

`readHost?_again`: the normal form of a host, where it is taken for a host, has itself for its normal
form.
-/

namespace PipelineSync.Url

/-! ## Hosts -/

section Hosts

variable {special : Bool} {cs host again : List Char}

theorem isStable_isForbiddenInHost : IsStable isForbiddenInHost := by
  unfold IsStable
  decide

theorem isLabel_decimal (n : Nat) : Domain.IsLabel (decimal n) := by
  refine ⟨fun c hc => ?_, fun hdot => ?_, fun _ => ?_⟩
  · have := toNat_of_isDigit (isDigit_of_mem_decimal hc)
    rw [Bool.eq_false_iff, Ne, Domain.isUpper_iff]
    omega
  · cases isDigit_of_mem_decimal hdot
  · obtain ⟨c, cs, hcons⟩ := List.exists_cons_of_ne_nil (Nat.toDigits_ne_nil (n := n) (b := 10))
    have hc : 'x' ≠ c := by
      rintro rfl
      have hdigit := isDigit_of_mem_decimal (n := n) (hcons ▸ List.mem_cons_self)
      cases hdigit
    rw [decimal, hcons]
    exact if_neg hc

theorem isWritten_decimal (n : Nat) : Domain.IsWritten (decimal n) := by
  have hascii : Domain.isAscii (decimal n) = true := by
    refine Domain.isAscii_iff.2 fun c hc => ?_
    have := toNat_of_isDigit (isDigit_of_mem_decimal hc)
    omega
  exact Domain.isWritten_of_writeLabel? (isLabel_decimal n) (if_pos hascii)

theorem ascii?_ipv4Text {n : Nat} (h : Domain.ascii? (ipv4Text n) = some again) :
    again = ipv4Text n := by
  rw [ipv4Text_eq] at h ⊢
  refine Domain.ascii?_intercalate (List.cons_ne_nil _ _) ?_ h
  intro label hlabel
  simp only [List.mem_cons, List.not_mem_nil, or_false] at hlabel
  rcases hlabel with rfl | rfl | rfl | rfl <;> exact isWritten_decimal _

/-- What a host outside brackets is in a special scheme. -/
theorem readHost?_special (hcs : cs.head? ≠ some '[') (h : readHost? true cs = some host) :
    ∃ name domain, String.fromUTF8? (ByteArray.mk (decodeBytes cs).toArray) = some name ∧
      Domain.ascii? name.toList = some domain ∧
      (endsInNumber domain = true ∧ (∃ n, ipv4Value? domain = some n ∧ host = ipv4Text n) ∨
        endsInNumber domain = false ∧ host = domain) := by
  rw [readHost?, if_neg (by simpa using hcs), if_pos rfl] at h
  simp only [Option.bind_eq_bind, Option.bind_eq_some_iff] at h
  obtain ⟨name, hname, domain, hdomain, h⟩ := h
  refine ⟨name, domain, hname, hdomain, ?_⟩
  split at h
  · next hends =>
    obtain ⟨n, hn, hhost⟩ := Option.bind_eq_some_iff.1 h
    exact Or.inl ⟨hends, n, hn, (Option.some.inj hhost).symm⟩
  · next hends => exact Or.inr ⟨Bool.eq_false_iff.2 hends, (Option.some.inj h).symm⟩

/-- What a host is that has no percent encoding. -/
theorem readHost?_plain (hcs : '[' ∉ cs) (hpercent : '%' ∉ cs) (h : readHost? true cs = some host) :
    ∃ domain, Domain.ascii? cs = some domain ∧
      (endsInNumber domain = true ∧ (∃ n, ipv4Value? domain = some n ∧ host = ipv4Text n) ∨
        endsInNumber domain = false ∧ host = domain) := by
  obtain ⟨name, domain, hname, hdomain, hhost⟩ :=
    readHost?_special (fun hhead => hcs (List.mem_of_mem_head? hhead)) h
  rw [fromUTF8?_decodeBytes hpercent] at hname
  obtain rfl := Option.some.inj hname
  rw [String.toList_ofList] at hdomain
  exact ⟨domain, hdomain, hhost⟩

theorem readHost?_ipv4Text {n : Nat} (h : readHost? true (ipv4Text n) = some again) :
    again = ipv4Text n := by
  have hfree {c : Char} (hdot : c ≠ '.') (hdigit : c.isDigit = false) : c ∉ ipv4Text n := by
    intro hc
    rcases mem_ipv4Text hc with rfl | hc
    · exact hdot rfl
    · exact Bool.false_ne_true (hdigit.symm.trans hc)
  obtain ⟨domain, hdomain, hhost⟩ :=
    readHost?_plain (hfree (by decide) (by decide)) (hfree (by decide) (by decide)) h
  rw [ascii?_ipv4Text hdomain, endsInNumber_ipv4Text] at hhost
  rcases hhost with ⟨-, m, hm, rfl⟩ | ⟨hends, -⟩
  · exact ipv4Text_again hm
  · cases hends

theorem readHost?_domain {name domain : List Char} (hdomain : Domain.ascii? name = some domain)
    (hends : endsInNumber domain = false) (h : readHost? true domain = some again) :
    again = domain := by
  obtain ⟨_, _, _, -, -, -, -, -, hfree⟩ := Domain.exists_labels_of_ascii? hdomain
  have hfree' {c : Char} (hforbidden : Domain.isForbidden c = true) : c ∉ domain := fun hc =>
    Bool.false_ne_true ((hfree c hc).symm.trans hforbidden)
  obtain ⟨domain', hdomain', hhost⟩ :=
    readHost?_plain (hfree' (by decide)) (hfree' (by decide)) h
  rw [Domain.ascii?_again hdomain hdomain', hends] at hhost
  rcases hhost with ⟨hends, -⟩ | ⟨-, hagain⟩
  · cases hends
  · exact hagain

theorem readHost?_bracketed (hcs : cs.head? = some '[') (h : readHost? special cs = some host) :
    ∃ pieces, ipv6Value? cs.tail.dropLast = some pieces ∧
      host = '[' :: ipv6Text pieces ++ [']'] := by
  rw [readHost?, if_pos (by simpa using hcs)] at h
  simp only [Option.bind_eq_bind, Option.bind_eq_some_iff] at h
  obtain ⟨_, -, pieces, hpieces, hhost⟩ := h
  exact ⟨pieces, hpieces, (Option.some.inj hhost).symm⟩

theorem readHost?_ipv6Text {pieces : List Nat} (hlength : pieces.length = 8)
    (hpieces : ∀ n ∈ pieces, n < 65536)
    (h : readHost? special ('[' :: ipv6Text pieces ++ [']']) = some again) :
    again = '[' :: ipv6Text pieces ++ [']'] := by
  obtain ⟨pieces', hpieces', rfl⟩ := readHost?_bracketed rfl h
  rw [List.cons_append, List.tail_cons, List.dropLast_concat, ipv6Value?_ipv6Text hlength hpieces]
    at hpieces'
  rw [Option.some.inj hpieces']

theorem readHost?_opaque (hcs : cs.any isForbiddenInHost = false)
    (h : readHost? false (encode controlSet cs) = some again) : again = encode controlSet cs := by
  have hfree : ∀ c ∈ encode controlSet cs, isForbiddenInHost c = false := by
    intro c hc
    rcases (mem_encode isStable_controlSet hc).2 with hc | hc
    · exact Bool.eq_false_iff.2 (List.any_eq_false.1 hcs c hc)
    · exact isStable_isForbiddenInHost.of_mem hc
  have hhead : ¬ ((encode controlSet cs).head? == some '[') = true := by
    intro hhead
    have := hfree '[' (List.mem_of_mem_head? (eq_of_beq hhead))
    exact absurd this (by decide)
  rw [readHost?, if_neg hhead, if_neg Bool.false_ne_true,
    if_neg (Bool.eq_false_iff.1 (List.any_eq_false.2 fun c hc => Bool.eq_false_iff.1 (hfree c hc))),
    encode_encode isStable_controlSet] at h
  exact (Option.some.inj h).symm

/-- The normal form of a host has itself for its normal form, if it has one. -/
theorem readHost?_again (h : readHost? special cs = some host)
    (hagain : readHost? special host = some again) : again = host := by
  by_cases hcs : cs.head? = some '['
  · obtain ⟨pieces, hpieces, rfl⟩ := readHost?_bracketed hcs h
    obtain ⟨hlength, hlt⟩ := ipv6Value?_spec hpieces
    exact readHost?_ipv6Text hlength hlt hagain
  · cases special with
    | true =>
      obtain ⟨name, domain, -, hdomain, hhost⟩ := readHost?_special hcs h
      rcases hhost with ⟨-, n, -, rfl⟩ | ⟨hends, rfl⟩
      · exact readHost?_ipv4Text hagain
      · exact readHost?_domain hdomain hends hagain
    | false =>
      rw [readHost?, if_neg (by simpa using hcs), if_neg Bool.false_ne_true] at h
      split at h
      · cases h
      · next hfree =>
        obtain rfl := Option.some.inj h
        exact readHost?_opaque (Bool.eq_false_iff.2 hfree) hagain

/-! ### Characters of hosts -/

/-- The characters that end the credentials or the authority of an address. -/
def delimiters : List Char := ['@', '/', '\\', '?', '#']

theorem not_mem_delimiters_of_all {p : Char → Bool} (hall : delimiters.all p = true) {c : Char}
    (h : p c = false) : c ∉ delimiters :=
  fun hc => Bool.false_ne_true (h.symm.trans (List.all_eq_true.1 hall c hc))

theorem not_mem_delimiters_of_mem_toDigits {b n : Nat} (hb : 1 < b) {c : Char}
    (h : c ∈ Nat.toDigits b n) : c ∉ delimiters := by
  obtain ⟨k, -, rfl⟩ := exists_digitChar_of_mem_toDigits hb h
  simp only [delimiters, List.mem_cons, List.not_mem_nil, or_false, not_or]
  exact ⟨Nat.digitChar_ne _ (by decide), Nat.digitChar_ne _ (by decide),
    Nat.digitChar_ne _ (by decide), Nat.digitChar_ne _ (by decide),
    Nat.digitChar_ne _ (by decide)⟩

/-- A character of a host outside brackets. -/
structure IsBare (c : Char) : Prop where
  toNat : 0x20 < c.toNat
  ne_colon : c ≠ ':'
  ne_open : c ≠ '['
  ne_close : c ≠ ']'
  not_mem : c ∉ delimiters

theorem isBare_of_isDigit {c : Char} (h : c.isDigit = true) : IsBare c := by
  have hc := toNat_of_isDigit h
  refine ⟨by omega, ?_, ?_, ?_, ?_⟩
  · rintro rfl
    cases h
  · rintro rfl
    cases h
  · rintro rfl
    cases h
  · exact not_mem_delimiters_of_all (p := fun c => !c.isDigit) (by decide) (by rw [h]; rfl)

theorem isBare_of_mem_ipv4Text {n : Nat} {c : Char} (h : c ∈ ipv4Text n) : IsBare c := by
  rcases mem_ipv4Text h with rfl | h
  · exact ⟨by decide, by decide, by decide, by decide, by decide⟩
  · exact isBare_of_isDigit h

theorem isBare_of_isForbidden {c : Char} (h : Domain.isForbidden c = false) : IsBare c := by
  refine ⟨?_, ?_, ?_, ?_, not_mem_delimiters_of_all (by decide) h⟩
  · simp only [Domain.isForbidden, Bool.or_eq_false_iff, decide_eq_false_iff_not] at h
    omega
  all_goals
    rintro rfl
    exact absurd h (by decide)

theorem isBare_of_isForbiddenInHost {c : Char} (h : isForbiddenInHost c = false)
    (hcontrol : controlSet c = false) : IsBare c := by
  refine ⟨toNat_of_controlSet hcontrol ?_, ?_, ?_, ?_, not_mem_delimiters_of_all (by decide) h⟩
  all_goals
    rintro rfl
    exact absurd h (by decide)

/-- The normal form of a host is an IPv6 address in brackets, or it has neither brackets nor
colons. -/
theorem readHost?_shape (h : readHost? special cs = some host) :
    (∃ pieces, host = '[' :: ipv6Text pieces ++ [']']) ∨ ∀ c ∈ host, IsBare c := by
  by_cases hcs : cs.head? = some '['
  · obtain ⟨pieces, -, hhost⟩ := readHost?_bracketed hcs h
    exact Or.inl ⟨pieces, hhost⟩
  · refine Or.inr fun c hc => ?_
    cases special with
    | true =>
      obtain ⟨name, domain, -, hdomain, hhost⟩ := readHost?_special hcs h
      rcases hhost with ⟨-, n, -, rfl⟩ | ⟨-, rfl⟩
      · exact isBare_of_mem_ipv4Text hc
      · obtain ⟨_, _, _, -, -, -, -, -, hfree⟩ := Domain.exists_labels_of_ascii? hdomain
        exact isBare_of_isForbidden (hfree c hc)
    | false =>
      rw [readHost?, if_neg (by simpa using hcs), if_neg Bool.false_ne_true] at h
      split at h
      · cases h
      · next hfree =>
        obtain rfl := Option.some.inj h
        obtain ⟨hcontrol, hc⟩ := mem_encode isStable_controlSet hc
        refine isBare_of_isForbiddenInHost ?_ hcontrol
        rcases hc with hc | hc
        · exact Bool.eq_false_iff.2 fun hforbidden =>
            hfree (List.any_eq_true.2 ⟨c, hc, hforbidden⟩)
        · exact isStable_isForbiddenInHost.of_mem hc

/-- No host has a character by which the credentials or the authority could end. -/
theorem not_mem_delimiters_of_readHost? (h : readHost? special cs = some host) {c : Char}
    (hc : c ∈ host) : c ∉ delimiters := by
  rcases readHost?_shape h with ⟨pieces, rfl⟩ | hbare
  · simp only [List.mem_append, List.mem_cons, List.not_mem_nil, or_false] at hc
    rcases hc with (rfl | hc) | rfl
    · decide
    · rcases mem_ipv6Text hc with rfl | ⟨n, hc⟩
      · decide
      · exact not_mem_delimiters_of_mem_toDigits (by decide) hc
    · decide
  · exact (hbare c hc).not_mem

end Hosts

end PipelineSync.Url
