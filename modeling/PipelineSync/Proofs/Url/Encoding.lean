import Mathlib
import PipelineSync.Url.Percent

/-!
# Encoded text

Nothing that is to be encoded is left in encoded text (`mem_encode`), so what is encoded once stays as
it is (`encode_encode`). Text without percent encoding stands for itself (`fromUTF8?_decodeBytes`).
-/

namespace PipelineSync.Url

open List

/-! ## Bytes of characters -/

theorem toList_loop (bs : ByteArray) (i : Nat) (r : List UInt8) :
    ByteArray.toList.loop bs i r = r.reverse ++ bs.data.toList.drop i := by
  fun_induction ByteArray.toList.loop bs i r with
  | case1 i r hlt ih =>
    have hi : i < bs.data.toList.length := by simpa using hlt
    rw [ih, List.drop_eq_getElem_cons hi]
    simp [ByteArray.get!, hlt]
  | case2 i r hge =>
    have hi : bs.data.toList.length ≤ i := by simpa using Nat.le_of_not_lt hge
    rw [List.drop_eq_nil_of_le hi, List.append_nil]

theorem toList_toUTF8 (c : Char) :
    (String.singleton c).toUTF8.toList = String.utf8EncodeChar c := by
  rw [ByteArray.toList, toList_loop, String.toUTF8_eq_toByteArray, String.toByteArray_singleton,
    List.utf8Encode_singleton]
  simp

/-! ## Encoding -/

section Encoding

variable {set : EncodeSet} {cs : List Char} {c d : Char}

/-- The characters that percent encoding brings in. -/
def percentAlphabet : List Char :=
  '%' :: (List.range 16).map fun n => (Text.hexDigit n).toUpper

theorem mem_percentAlphabet (h : d ∈ percentChar c) : d ∈ percentAlphabet := by
  have hdigit {n : Nat} (hn : n < 16) : (Text.hexDigit n).toUpper ∈ percentAlphabet :=
    List.mem_cons_of_mem _ (List.mem_map.2 ⟨n, List.mem_range.2 hn, rfl⟩)
  obtain ⟨b, -, hd⟩ := List.mem_flatMap.1 h
  have hb := b.toNat_lt
  simp only [percentByte, List.mem_cons, List.not_mem_nil, or_false] at hd
  rcases hd with rfl | rfl | rfl
  · exact List.mem_cons_self
  · exact hdigit (by omega)
  · exact hdigit (by omega)

theorem encode_of_forall (h : ∀ c ∈ cs, set c = false) : encode set cs = cs := by
  induction cs with
  | nil => rfl
  | cons c cs ih =>
    obtain ⟨hc, hcs⟩ := List.forall_mem_cons.1 h
    have hrest := ih hcs
    rw [encode] at hrest ⊢
    rw [List.flatMap_cons, hrest, if_neg (Bool.eq_false_iff.1 hc)]
    rfl

/-- A set that leaves the characters alone that percent encoding brings in. -/
def IsStable (set : EncodeSet) : Prop := percentAlphabet.any set = false

theorem IsStable.of_mem (h : IsStable set) (hc : c ∈ percentAlphabet) : set c = false :=
  Bool.eq_false_iff.2 (List.any_eq_false.1 h c hc)

theorem mem_encode (h : IsStable set) (hd : d ∈ encode set cs) :
    set d = false ∧ (d ∈ cs ∨ d ∈ percentAlphabet) := by
  obtain ⟨c, hc, hd⟩ := List.mem_flatMap.1 hd
  split at hd
  · have hd := mem_percentAlphabet hd
    exact ⟨h.of_mem hd, Or.inr hd⟩
  · next hset =>
    obtain rfl := List.mem_singleton.1 hd
    exact ⟨Bool.eq_false_iff.2 hset, Or.inl hc⟩

theorem encode_encode (h : IsStable set) : encode set (encode set cs) = encode set cs :=
  encode_of_forall fun _ hd => (mem_encode h hd).1

theorem isStable_controlSet : IsStable controlSet := by
  unfold IsStable
  decide

theorem isStable_fragmentSet : IsStable fragmentSet := by
  unfold IsStable
  decide

theorem isStable_querySet (special : Bool) :
    IsStable (if special then specialQuerySet else querySet) := by
  cases special <;> (unfold IsStable; decide)

theorem isStable_pathSet : IsStable pathSet := by
  unfold IsStable
  decide

theorem isStable_userinfoSet : IsStable userinfoSet := by
  unfold IsStable
  decide

theorem userinfoSet_of_mem_encode (h : d ∈ encode userinfoSet cs) : userinfoSet d = false :=
  (mem_encode isStable_userinfoSet h).1

/-- Encoding brings in no `*`. -/
theorem star_not_mem_encode (h : '*' ∉ cs) : '*' ∉ encode set cs := by
  have halphabet : '*' ∉ percentAlphabet := by decide
  intro hstar
  obtain ⟨c, hc, hstar⟩ := List.mem_flatMap.1 hstar
  split at hstar
  · exact halphabet (mem_percentAlphabet hstar)
  · exact h (List.mem_singleton.1 hstar ▸ hc)

theorem percentChar_ne_nil (c : Char) : percentChar c ≠ [] := by
  obtain ⟨b, hb⟩ := List.exists_mem_of_ne_nil _ (String.utf8EncodeChar_ne_nil (c := c))
  rw [percentChar, toList_toUTF8, Ne, List.flatMap_eq_nil_iff]
  exact fun h => List.cons_ne_nil _ _ (h b hb)

theorem encode_eq_nil_iff : encode set cs = [] ↔ cs = [] := by
  refine ⟨fun h => ?_, fun h => by rw [h]; rfl⟩
  cases cs with
  | nil => rfl
  | cons c cs =>
    rw [encode, List.flatMap_cons, List.append_eq_nil_iff] at h
    split at h
    · exact absurd h.1 (percentChar_ne_nil c)
    · cases h.1

/-- A text shows in its encoded form only if the two are the same. -/
theorem infix_encode_iff :
    cs <:+: encode userinfoSet cs ↔ ∀ c ∈ cs, userinfoSet c = false := by
  constructor
  · exact fun h c hc => userinfoSet_of_mem_encode (h.subset hc)
  · exact fun h => (encode_of_forall h).symm ▸ List.infix_refl cs

/-! ### Sets within sets -/

theorem toNat_of_controlSet (h : controlSet c = false) (hblank : c ≠ ' ') : 0x20 < c.toNat := by
  have hne : c.toNat ≠ ' '.toNat := fun heq => hblank (Char.toNat_inj.1 heq)
  simp only [controlSet, Bool.or_eq_false_iff, decide_eq_false_iff_not] at h
  have : ' '.toNat = 0x20 := rfl
  omega

theorem toNat_of_fragmentSet (h : fragmentSet c = false) : 0x20 < c.toNat := by
  refine toNat_of_controlSet (Bool.or_eq_false_iff.1 h).1 ?_
  rintro rfl
  exact absurd h (by decide)

theorem toNat_of_querySet (h : querySet c = false) : 0x20 < c.toNat := by
  refine toNat_of_controlSet (Bool.or_eq_false_iff.1 h).1 ?_
  rintro rfl
  exact absurd h (by decide)

theorem fragmentSet_of_pathSet (h : pathSet c = false) : fragmentSet c = false :=
  (Bool.or_eq_false_iff.1 h).1

theorem pathSet_of_userinfoSet (h : userinfoSet c = false) : pathSet c = false :=
  (Bool.or_eq_false_iff.1 h).1

end Encoding

/-! ## Decoding -/

section Decoding

variable {cs : List Char}

theorem decodeBytes_of_not_mem (h : '%' ∉ cs) :
    decodeBytes cs = cs.flatMap String.utf8EncodeChar := by
  induction cs with
  | nil => rfl
  | cons c cs ih =>
    obtain ⟨hc, hcs⟩ := not_or.1 (List.mem_cons.not.1 h)
    rw [decodeBytes, ih hcs, toList_toUTF8, List.flatMap_cons]
    rintro a b rest rfl
    exact absurd rfl hc

/-- Text without percent encoding stands for itself. -/
theorem fromUTF8?_decodeBytes (h : '%' ∉ cs) :
    String.fromUTF8? (ByteArray.mk (decodeBytes cs).toArray) = some (String.ofList cs) := by
  rw [decodeBytes_of_not_mem h]
  have hbytes : ByteArray.mk (cs.flatMap String.utf8EncodeChar).toArray =
      (String.ofList cs).toByteArray := by
    rw [String.toByteArray_ofList, List.utf8Encode]
    apply ByteArray.ext
    rw [← Array.toList_inj]
    simp
  rw [hbytes, String.fromUTF8?, dif_pos (String.ofList cs).isValidUTF8]
  rfl

end Decoding

end PipelineSync.Url
