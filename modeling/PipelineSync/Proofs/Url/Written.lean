import Mathlib
import PipelineSync.Proofs.Url.Password
import PipelineSync.Proofs.Url.Path

/-!
# Addresses are read again as they are

A URL that has been read is in normal form (`Normal`), and it stays so when its password is replaced.
If such a URL is written and read again, then it is what it was (`Normal.ofChars?_write`). So a
password that is masked in an address is masked: `maskPassword_maskPassword`.
-/

namespace PipelineSync.Url

/-! ## Normal form -/

/-- The parts of a URL are in the form in which they are read. -/
structure Normal (u : Url) : Prop extends WellFormed u where
  inScheme : ∀ c ∈ u.scheme, isInScheme c = true
  hostText : ∃ text, readHost? (isSpecial u.scheme) text = some u.host
  port : ∀ p, u.port = some p → p ≤ 65535 ∧ defaultPort? u.scheme ≠ some p
  pathText : ∃ text, u.path = readPath (isSpecial u.scheme) text
  query : ∀ q, u.query = some q →
    ∃ text, q = encode (if isSpecial u.scheme then specialQuerySet else querySet) text
  fragment : ∀ f, u.fragment = some f → ∃ text, f = encode fragmentSet text

theorem isInScheme_of_readScheme?_more {cs scheme rest : List Char}
    (h : readScheme?.more cs = some (scheme, rest)) : ∀ c ∈ scheme, isInScheme c = true := by
  induction cs generalizing scheme with
  | nil => cases h
  | cons c cs ih =>
    by_cases hc : c = ':'
    · rw [hc] at h
      obtain rfl := (Prod.mk.inj (Option.some.inj h)).1
      exact List.forall_mem_nil _
    · rw [readScheme?_more_cons hc] at h
      split at h
      · next hin =>
        obtain ⟨⟨front, rest'⟩, hfront, heq⟩ := Option.map_eq_some_iff.1 h
        obtain ⟨rfl, rfl⟩ := Prod.mk.inj heq
        exact List.forall_mem_cons.2 ⟨(isInScheme_toLower hin).1, ih hfront⟩
      · cases h

theorem isInScheme_of_readScheme? {cs scheme rest : List Char}
    (h : readScheme? cs = some (scheme, rest)) : ∀ c ∈ scheme, isInScheme c = true := by
  cases cs with
  | nil => cases h
  | cons c cs =>
    rw [readScheme?] at h
    split at h
    · exact isInScheme_of_readScheme?_more h
    · cases h

theorem port_of_readPort? {scheme digits left : List Char} {port : Option Nat}
    (h : readPort? scheme digits = some (port, left)) {p : Nat} (hp : port = some p) :
    p ≤ 65535 ∧ defaultPort? scheme ≠ some p := by
  simp only [readPort?, Option.bind_eq_bind, Option.bind_eq_some_iff] at h
  obtain ⟨_, -, h⟩ := h
  split at h
  · cases Option.some.inj h
    cases hp
  · simp only [Option.bind_eq_some_iff] at h
    obtain ⟨n, -, _, hguard, h⟩ := h
    obtain ⟨hport, -⟩ := Prod.mk.inj (Option.some.inj h)
    rw [hp] at hport
    split at hport
    · cases hport
    · next hdefault =>
      obtain rfl := Option.some.inj hport
      exact ⟨(Option.guard_eq_some' _).1 hguard, by simpa using hdefault⟩

theorem normal_of_ofChars? {cs : List Char} {u : Url} (h : ofChars? cs = some u) : u.Normal := by
  obtain ⟨rest, text, left, hread⟩ := readOf_of_ofChars? h
  refine { wellFormed_of_ofChars? h with
    inScheme := isInScheme_of_readScheme? hread.scheme
    hostText := ⟨_, hread.host⟩
    port := fun p hp => ?_
    pathText := ⟨_, hread.path⟩
    query := fun q hq => ?_
    fragment := fun f hf => ?_ }
  · have hport := hread.port
    generalize (splitHost false _).2 = portText at hport
    cases portText with
    | nil =>
      rw [readPortText?, hp] at hport
      cases hport
    | cons c digits => exact port_of_readPort? hport hp
  · have hquery := hread.query
    rw [hq, queryOf] at hquery
    split at hquery
    · cases hquery
    · exact ⟨_, Option.some.inj hquery⟩
  · have hfragment := hread.fragment
    rw [hf, fragmentOf] at hfragment
    split at hfragment
    · cases hfragment
    · exact ⟨_, Option.some.inj hfragment⟩

theorem Normal.setPassword {u : Url} (h : u.Normal) (password : String) :
    (u.setPassword password).Normal :=
  { h.toWellFormed.setPassword password with
    inScheme := h.inScheme
    hostText := h.hostText
    port := h.port
    pathText := h.pathText
    query := h.query
    fragment := h.fragment }

/-! ## Characters -/

section Characters

variable {cs : List Char} {c : Char}

theorem clean_of_forall (h : ∀ c ∈ cs, 0x20 < c.toNat) : clean cs = cs := by
  have hdrop : ∀ cs : List Char, (∀ c ∈ cs, 0x20 < c.toNat) →
      cs.dropWhile (fun c => decide (c.toNat ≤ 0x20)) = cs := by
    intro cs hcs
    cases cs with
    | nil => rfl
    | cons c cs =>
      have hc : ¬ c.toNat ≤ 0x20 := by
        have := hcs c List.mem_cons_self
        omega
      rw [List.dropWhile_cons, if_neg (by simpa using hc)]
  have hfilter : cs.filter (fun c => c != '\t' && c != '\n' && c != '\r') = cs := by
    refine List.filter_eq_self.2 fun c hc => ?_
    have hne {d : Char} (hd : d.toNat ≤ 0x20) : c ≠ d := by
      rintro rfl
      have := h c hc
      omega
    simp [hne (d := '\t') (by decide), hne (d := '\n') (by decide), hne (d := '\r') (by decide)]
  rw [clean, hdrop cs h, hdrop cs.reverse fun c hc => h c (List.mem_reverse.1 hc),
    List.reverse_reverse, hfilter]

theorem toNat_of_isInScheme (h : isInScheme c = true) : 0x20 < c.toNat := by
  simp only [isInScheme, Char.isAlphanum, Char.isAlpha, Char.isUpper, Char.isLower, Char.isDigit,
    Bool.or_eq_true, Bool.and_eq_true, decide_eq_true_eq, beq_iff_eq, ge_iff_le,
    UInt32.le_iff_toNat_le, Char.toNat_val] at h
  rcases h with ((((⟨h, -⟩ | ⟨h, -⟩) | ⟨h, -⟩) | h) | h) | h
  · exact Nat.lt_of_lt_of_le (by decide) h
  · exact Nat.lt_of_lt_of_le (by decide) h
  · exact Nat.lt_of_lt_of_le (by decide) h
  · rw [h]
    decide
  · rw [h]
    decide
  · rw [h]
    decide

theorem toNat_of_mem_toDigits {b n : Nat} (hb : 1 < b) (hle : b ≤ 16) (h : c ∈ Nat.toDigits b n) :
    0x20 < c.toNat := by
  have hall : ∀ k ∈ List.range 16, 0x20 < k.digitChar.toNat := by decide
  obtain ⟨k, hk, rfl⟩ := exists_digitChar_of_mem_toDigits hb h
  exact hall k (List.mem_range.2 (hk.trans_le hle))

end Characters

/-! ## Hosts and ports -/

section Ports

theorem splitHost_append {bracketed : Bool} {cs : List Char}
    (h : ∀ c ∈ cs, c ≠ '[' ∧ c ≠ ']' ∧ (bracketed = false → c ≠ ':')) (rest : List Char) :
    splitHost bracketed (cs ++ rest) =
      (cs ++ (splitHost bracketed rest).1, (splitHost bracketed rest).2) := by
  induction cs with
  | nil => rfl
  | cons c cs ih =>
    obtain ⟨⟨hopen, hclose, hcolon⟩, hcs⟩ := List.forall_mem_cons.1 h
    have hmark : ¬ (c == ':' && !bracketed) = true := by
      cases bracketed with
      | true => simp
      | false => simpa using hcolon rfl
    rw [List.cons_append, splitHost, if_neg hmark, if_neg (by simpa using hopen),
      if_neg (by simpa using hclose), ih hcs]
    rfl

theorem splitHost_portText (u : Url) : splitHost false u.portText = ([], u.portText) := by
  rw [portText]
  split <;> rfl

theorem takeWhile_decimal (p : Nat) : (decimal p).takeWhile Char.isDigit = decimal p :=
  List.takeWhile_eq_self_iff.2 fun _ hc => isDigit_of_mem_decimal hc

theorem dropWhile_decimal (p : Nat) : (decimal p).dropWhile Char.isDigit = [] :=
  List.dropWhile_eq_nil_iff.2 fun _ hc => isDigit_of_mem_decimal hc

end Ports

/-! ## Writing -/

section Written

/-- The user name and the password as they stand in front of the `@`. -/
def credentials (u : Url) : List Char :=
  match u.password with
  | some password => u.username ++ ':' :: password
  | none => u.username

/-- The query of a URL with its `?`, or nothing. -/
def queryText (u : Url) : List Char :=
  match u.query with
  | some q => '?' :: q
  | none => []

/-- The fragment of a URL with its `#`, or nothing. -/
def fragmentText (u : Url) : List Char :=
  match u.fragment with
  | some f => '#' :: f
  | none => []

theorem tailText_eq (u : Url) : u.tailText = u.path ++ u.queryText ++ u.fragmentText := rfl

theorem takeWhile_fragmentText (u : Url) : u.fragmentText.takeWhile (· != '#') = [] := by
  rw [fragmentText]
  split <;> rfl

theorem dropWhile_fragmentText (u : Url) :
    u.fragmentText.dropWhile (· != '#') = u.fragmentText := by
  rw [fragmentText]
  split <;> rfl

theorem takeWhile_queryText (u : Url) : u.queryText.takeWhile (· != '?') = [] := by
  rw [queryText]
  split <;> rfl

theorem dropWhile_queryText (u : Url) : u.queryText.dropWhile (· != '?') = u.queryText := by
  rw [queryText]
  split <;> rfl

variable {u : Url} (h : u.Normal)
include h

/-! ### Authority -/

theorem Normal.splitHost_hostport :
    splitHost false (u.host ++ u.portText) = (u.host, u.portText) := by
  obtain ⟨text, hhost⟩ := h.hostText
  rcases readHost?_shape hhost with ⟨pieces, heq⟩ | hbare
  · have hinside : ∀ c ∈ ipv6Text pieces, c ≠ '[' ∧ c ≠ ']' ∧ (true = false → c ≠ ':') := by
      intro c hc
      rcases mem_ipv6Text hc with rfl | ⟨n, hc⟩
      · exact ⟨by decide, by decide, nofun⟩
      · exact ⟨ne_of_mem_digits (fun _ => Nat.digitChar_ne _ (by decide)) hc,
          ne_of_mem_digits (fun _ => Nat.digitChar_ne _ (by decide)) hc, nofun⟩
    have hclose : splitHost true (']' :: u.portText) = ([']'], u.portText) := by
      rw [splitHost, if_neg (by decide), if_neg (by decide), if_pos (by decide),
        splitHost_portText]
    rw [heq, List.append_assoc, List.cons_append, splitHost, if_neg (by decide),
      if_pos (by decide), List.singleton_append, splitHost_append hinside, hclose]
    rfl
  · rw [splitHost_append (fun c hc => ⟨(hbare c hc).ne_open, (hbare c hc).ne_close,
      fun _ => (hbare c hc).ne_colon⟩), splitHost_portText, List.append_nil]

theorem Normal.readPortText?_portText :
    readPortText? u.scheme u.portText = some (u.port, []) := by
  rw [portText]
  cases hport : u.port with
  | none => rfl
  | some p =>
    obtain ⟨hle, hdefault⟩ := h.port p hport
    rw [readPortText?, readPort?, takeWhile_decimal, dropWhile_decimal]
    simp [decimal, numeral?_toDigits, hle, hdefault]

theorem Normal.splitUserinfo?_write :
    (splitUserinfo? (u.userinfo ++ (u.host ++ u.portText))).getD
      ([], u.userinfo ++ (u.host ++ u.portText)) = (u.credentials, u.host ++ u.portText) := by
  have hport : '@' ∉ u.host ++ u.portText := fun hc => h.not_mem_hostport hc (by decide)
  cases hpassword : u.password with
  | some p =>
    have hinfo : u.userinfo ++ (u.host ++ u.portText) =
        u.credentials ++ '@' :: (u.host ++ u.portText) := by
      simp [userinfo, credentials, hpassword]
    rw [hinfo, splitUserinfo?_append _ hport]
    rfl
  | none =>
    have hcredentials : u.credentials = u.username := by
      simp [credentials, hpassword]
    cases hname : u.username.isEmpty with
    | true =>
      have hinfo : u.userinfo = [] := by
        simp [userinfo, hpassword, hname]
      rw [hinfo, List.nil_append, splitUserinfo?_eq_none hport, hcredentials,
        List.isEmpty_iff.1 hname]
      rfl
    | false =>
      have hinfo : u.userinfo ++ (u.host ++ u.portText) =
          u.username ++ '@' :: (u.host ++ u.portText) := by
        simp [userinfo, hpassword, hname]
      rw [hinfo, splitUserinfo?_append _ hport, hcredentials]
      rfl

theorem Normal.readUserinfo_credentials :
    readUserinfo u.credentials = (u.username, u.password) := by
  have hcolon : ∀ c ∈ u.username, (c != ':') = true := by
    intro c hc
    rw [bne_iff_ne]
    rintro rfl
    exact absurd (h.username ':' hc) (by decide)
  have hpart : readUserinfo u.credentials =
      (encode userinfoSet (u.credentials.takeWhile (· != ':')),
        if (passwordPart u.credentials).isEmpty then none
        else some (encode userinfoSet (passwordPart u.credentials))) := rfl
  rw [hpart, credentials]
  cases hpassword : u.password with
  | some p =>
    obtain ⟨hne, hp⟩ := h.password p hpassword
    have htake : (u.username ++ ':' :: p).takeWhile (· != ':') = u.username := by
      rw [List.takeWhile_append_of_pos hcolon]
      exact List.append_nil _
    dsimp only
    rw [htake, passwordPart_append h.username, encode_of_forall h.username, encode_of_forall hp,
      if_neg (by simpa using hne)]
  | none =>
    dsimp only
    rw [List.takeWhile_eq_self_iff.2 hcolon, passwordPart_of_forall h.username,
      encode_of_forall h.username]
    rfl

theorem Normal.behind_write (special : Bool) :
    behind special (u.userinfo ++ (u.host ++ u.portText) ++ u.tailText) = u.tailText := by
  have hsplit : authority special (u.userinfo ++ (u.host ++ u.portText) ++ u.tailText) ++
      behind special (u.userinfo ++ (u.host ++ u.portText) ++ u.tailText) =
        u.userinfo ++ (u.host ++ u.portText) ++ u.tailText := List.takeWhile_append_dropWhile
  rw [h.authority_write] at hsplit
  exact List.append_cancel_left hsplit

/-! ### Path, query and fragment -/

theorem Normal.mem_query {q : List Char} (hq : u.query = some q) {c : Char} (hc : c ∈ q) :
    querySet c = false := by
  obtain ⟨text, rfl⟩ := h.query q hq
  have hset := (mem_encode (isStable_querySet _) hc).1
  split at hset
  · exact (Bool.or_eq_false_iff.1 hset).1
  · exact hset

theorem Normal.encode_query {q : List Char} (hq : u.query = some q) :
    encode (if isSpecial u.scheme then specialQuerySet else querySet) q = q := by
  obtain ⟨text, rfl⟩ := h.query q hq
  exact encode_encode (isStable_querySet _)

theorem Normal.mem_path {c : Char} (hc : c ∈ u.path) : c = '/' ∨ pathSet c = false := by
  obtain ⟨text, hpath⟩ := h.pathText
  rcases readPath_spec (isSpecial u.scheme) text with ⟨hnil, -⟩ | ⟨segments, heq, -, hsegments⟩
  · rw [hpath, hnil] at hc
    cases hc
  · rw [hpath, heq] at hc
    rcases List.mem_cons.1 hc with rfl | hc
    · exact Or.inl rfl
    · rcases Text.mem_of_mem_intercalate hc with hc | ⟨segment, hsegment, hc⟩
      · exact Or.inl (List.mem_singleton.1 hc)
      · exact Or.inr ((hsegments segment hsegment).isPiece c hc).1

theorem Normal.ne_of_mem_path {c d : Char} (hd : d ≠ '/') (hset : pathSet d = true)
    (hc : c ∈ u.path) : c ≠ d := by
  rintro rfl
  rcases h.mem_path hc with heq | hpath
  · exact hd heq
  · exact Bool.false_ne_true (hpath.symm.trans hset)

/-- The path and the query have no `#`. -/
theorem Normal.ne_hash {c : Char} (hc : c ∈ u.path ++ u.queryText) : (c != '#') = true := by
  rw [bne_iff_ne]
  rcases List.mem_append.1 hc with hc | hc
  · exact h.ne_of_mem_path (by decide) (by decide) hc
  · rw [queryText] at hc
    split at hc
    · next q hq =>
      rcases List.mem_cons.1 hc with rfl | hc
      · decide
      · rintro rfl
        exact absurd (h.mem_query hq hc) (by decide)
    · cases hc

/-- The path has no `?`. -/
theorem Normal.ne_question {c : Char} (hc : c ∈ u.path) : (c != '?') = true := by
  rw [bne_iff_ne]
  exact h.ne_of_mem_path (by decide) (by decide) hc

theorem Normal.takeWhile_tailText :
    u.tailText.takeWhile (· != '#') = u.path ++ u.queryText := by
  rw [tailText_eq, List.takeWhile_append_of_pos fun _ hc => h.ne_hash hc,
    takeWhile_fragmentText, List.append_nil]

theorem Normal.fragmentOf_tailText : fragmentOf u.tailText = u.fragment := by
  rw [fragmentOf, tailText_eq, List.dropWhile_append_of_pos fun _ hc => h.ne_hash hc,
    dropWhile_fragmentText, fragmentText]
  cases hf : u.fragment with
  | none => rfl
  | some f =>
    obtain ⟨text, rfl⟩ := h.fragment f hf
    exact congrArg some (encode_encode isStable_fragmentSet)

theorem Normal.queryOf_tailText : queryOf (isSpecial u.scheme) u.tailText = u.query := by
  rw [queryOf, h.takeWhile_tailText, List.dropWhile_append_of_pos fun _ hc => h.ne_question hc,
    dropWhile_queryText, queryText]
  cases hq : u.query with
  | none => rfl
  | some q => exact congrArg some (h.encode_query hq)

theorem Normal.pathOf_tailText : pathOf u.tailText = u.path := by
  rw [pathOf, h.takeWhile_tailText, List.takeWhile_append_of_pos fun _ hc => h.ne_question hc,
    takeWhile_queryText, List.append_nil]

/-! ### The whole text -/

theorem Normal.toNat_of_mem_host {c : Char} (hc : c ∈ u.host) : 0x20 < c.toNat := by
  obtain ⟨text, hhost⟩ := h.hostText
  rcases readHost?_shape hhost with ⟨pieces, heq⟩ | hbare
  · rw [heq] at hc
    simp only [List.mem_append, List.mem_cons, List.not_mem_nil, or_false] at hc
    rcases hc with (rfl | hc) | rfl
    · decide
    · rcases mem_ipv6Text hc with rfl | ⟨n, hc⟩
      · decide
      · exact toNat_of_mem_toDigits (by decide) (by decide) hc
    · decide
  · exact (hbare c hc).toNat

theorem Normal.toNat_of_mem_userinfo {c : Char} (hc : c ∈ u.userinfo) : 0x20 < c.toNat := by
  have hset {c : Char} (hc : userinfoSet c = false) : 0x20 < c.toNat :=
    toNat_of_fragmentSet (fragmentSet_of_pathSet (pathSet_of_userinfoSet hc))
  rw [userinfo] at hc
  split at hc
  · next p hp =>
    simp only [List.mem_append, List.mem_cons, List.not_mem_nil, or_false] at hc
    rcases hc with (hc | rfl | hc) | rfl
    · exact hset (h.username c hc)
    · decide
    · exact hset ((h.password p hp).2 c hc)
    · decide
  · split at hc
    · cases hc
    · rcases List.mem_append.1 hc with hc | hc
      · exact hset (h.username c hc)
      · exact List.mem_singleton.1 hc ▸ by decide

theorem Normal.toNat_of_mem_tailText {c : Char} (hc : c ∈ u.tailText) : 0x20 < c.toNat := by
  rw [tailText_eq, List.mem_append, List.mem_append] at hc
  rcases hc with (hc | hc) | hc
  · rcases h.mem_path hc with rfl | hset
    · decide
    · exact toNat_of_fragmentSet (fragmentSet_of_pathSet hset)
  · rw [queryText] at hc
    split at hc
    · next q hq =>
      rcases List.mem_cons.1 hc with rfl | hc
      · decide
      · exact toNat_of_querySet (h.mem_query hq hc)
    · cases hc
  · rw [fragmentText] at hc
    split at hc
    · next f hf =>
      obtain ⟨text, rfl⟩ := h.fragment f hf
      rcases List.mem_cons.1 hc with rfl | hc
      · decide
      · exact toNat_of_fragmentSet (mem_encode isStable_fragmentSet hc).1
    · cases hc

/-- No part of the text is taken for what stands around it. -/
theorem Normal.toNat_of_mem_write {c : Char} (hc : c ∈ u.write) : 0x20 < c.toNat := by
  rw [write_eq] at hc
  simp only [List.mem_append, List.mem_cons] at hc
  rcases hc with hc | rfl | rfl | rfl | (hc | hc | hc) | hc
  · exact toNat_of_isInScheme (h.inScheme c hc)
  · decide
  · decide
  · decide
  · exact h.toNat_of_mem_userinfo hc
  · exact h.toNat_of_mem_host hc
  · rw [portText] at hc
    split at hc
    · rcases List.mem_cons.1 hc with rfl | hc
      · decide
      · exact toNat_of_mem_toDigits (by decide) (by decide) hc
    · cases hc
  · exact h.toNat_of_mem_tailText hc

/-- A URL that is written is read as itself, if it is read. -/
theorem Normal.ofChars?_write (hhost : u.host ≠ []) {again : Url}
    (hagain : ofChars? u.write = some again) : again = u := by
  obtain ⟨rest, text, left, hread⟩ := readOf_of_ofChars? hagain
  obtain ⟨scheme, username, password, host, port, path, query, fragment⟩ := again
  have hscheme := hread.scheme
  rw [clean_of_forall fun c => h.toNat_of_mem_write, write_eq, h.scheme] at hscheme
  obtain ⟨rfl, hrest⟩ := Prod.mk.inj (Option.some.inj hscheme)
  have hslashes := hread.slashes
  rw [← hrest, h.dropSlashes?_write hhost] at hslashes
  obtain rfl := Option.some.inj hslashes
  have huserinfo := hread.userinfo
  rw [h.authority_write, h.splitUserinfo?_write, h.readUserinfo_credentials] at huserinfo
  obtain ⟨rfl, rfl⟩ := Prod.mk.inj huserinfo
  have hhostport : hostport (isSpecial u.scheme)
      (u.userinfo ++ (u.host ++ u.portText) ++ u.tailText) = u.host ++ u.portText := by
    rw [hostport, h.authority_write, h.splitUserinfo?_write]
  have hport := hread.port
  rw [hhostport, h.splitHost_hostport, h.readPortText?_portText] at hport
  obtain ⟨rfl, rfl⟩ := Prod.mk.inj (Option.some.inj hport)
  have hhost' := hread.host
  rw [hhostport, h.splitHost_hostport] at hhost'
  obtain ⟨text, htext⟩ := h.hostText
  obtain rfl := readHost?_again htext hhost'
  have hpath := hread.path
  have hquery := hread.query
  have hfragment := hread.fragment
  rw [List.nil_append, h.behind_write] at hpath hquery hfragment
  obtain ⟨pathText, hpathText⟩ := h.pathText
  rw [h.pathOf_tailText, hpathText, readPath_again, ← hpathText] at hpath
  rw [h.queryOf_tailText] at hquery
  rw [h.fragmentOf_tailText] at hfragment
  obtain rfl := hpath
  obtain rfl := hquery
  obtain rfl := hfragment
  rfl

end Written

/-! ## Masked passwords -/

theorem setPassword_setPassword (u : Url) (p q : String) :
    (u.setPassword p).setPassword q = u.setPassword q := rfl

theorem maskPassword_of_parse? {text : String} {u : Url} (h : parse? text = some u)
    (hpassword : u.password.isSome) : maskPassword text = (u.setPassword mask).toText := by
  rw [maskPassword, h]
  exact if_pos hpassword

theorem host_ne_nil_of_parse? {text : String} {u : Url} (h : parse? text = some u)
    (hpassword : u.password.isSome) : u.host ≠ [] := by
  obtain ⟨_, _, _, hread⟩ := readOf_of_ofChars? h
  exact hread.hasHost hpassword

/-- A URL whose password has been replaced is read as itself, if its text is read. -/
theorem parse?_toText_setPassword {text : String} {u again : Url} (h : parse? text = some u)
    (hpassword : u.password.isSome) (password : String)
    (hagain : parse? (u.setPassword password).toText = some again) :
    again = u.setPassword password := by
  have hhost := host_ne_nil_of_parse? h hpassword
  rw [parse?, toText, String.toList_ofList] at hagain
  exact ((normal_of_ofChars? h).setPassword password).ofChars?_write hhost hagain

/-- What is masked is masked. -/
theorem maskPassword_maskPassword (text : String) :
    maskPassword (maskPassword text) = maskPassword text := by
  cases h : parse? text with
  | none =>
    have hmask : maskPassword text = text := by rw [maskPassword, h]
    rw [hmask, hmask]
  | some u =>
    cases hpassword : u.password.isSome with
    | false =>
      have hmask : maskPassword text = text := by
        rw [maskPassword, h]
        exact if_neg (Bool.eq_false_iff.1 hpassword)
      rw [hmask, hmask]
    | true =>
      rw [maskPassword_of_parse? h hpassword]
      cases hagain : parse? (u.setPassword mask).toText with
      | none => rw [maskPassword, hagain]
      | some again =>
        obtain rfl := parse?_toText_setPassword h hpassword mask hagain
        rw [maskPassword_of_parse? hagain rfl, setPassword_setPassword]

end PipelineSync.Url
