import Mathlib
import PipelineSync.Proofs.Url.Host
import PipelineSync.Proofs.Url.Reading

/-!
# Passwords in addresses

A password in an address is read in its encoded form (`password_of_ofChars?`), and an address that
is written holds it in that form again (`writtenPassword?_write`): none of its other parts can be
taken for the end of the credentials.
-/

namespace PipelineSync.Url

open List

/-! ## Delimiters -/

theorem not_mem_delimiters_of_userinfoSet {c : Char} (h : userinfoSet c = false) :
    c ∉ delimiters :=
  not_mem_delimiters_of_all (by decide) h

theorem endsAuthority_of_not_mem {c : Char} (h : c ∉ delimiters) (special : Bool) :
    endsAuthority special c = false := by
  simp only [delimiters, List.mem_cons, List.not_mem_nil, or_false, not_or] at h
  simp [endsAuthority, h]

/-! ## Schemes -/

section Schemes

variable {cs scheme rest : List Char}

/-- Whether a scheme may have the character. -/
def isInScheme (c : Char) : Bool := c.isAlphanum || c == '+' || c == '-' || c == '.'

theorem isInScheme_toLower {c : Char} (h : isInScheme c = true) :
    isInScheme c.toLower = true ∧ c.toLower ≠ ':' := by
  have hcolon {d : Char} (hd : isInScheme d = true) : d ≠ ':' := by
    rintro rfl
    exact absurd hd (by decide)
  have hlower : isInScheme c.toLower = true := by
    by_cases hupper : c.isUpper
    · have halpha : c.toLower.isAlpha = true := by
        rw [Char.isAlpha_toLower_eq_isAlpha, Char.isAlpha, hupper, Bool.true_or]
      simp [isInScheme, Char.isAlphanum, halpha]
    · rwa [Char.toLower_eq_of_not_isUpper hupper]
  exact ⟨hlower, hcolon hlower⟩

theorem readScheme?_more_cons {c : Char} (hc : c ≠ ':') (cs : List Char) :
    readScheme?.more (c :: cs) =
      if isInScheme c then
        (readScheme?.more cs).map fun (scheme, rest) => (c.toLower :: scheme, rest)
      else none := by
  rw [readScheme?.more]
  · rfl
  · exact hc

/-- A scheme that has been read is read again. -/
theorem readScheme?_more_again (h : readScheme?.more cs = some (scheme, rest))
    (behind : List Char) :
    readScheme?.more (scheme ++ ':' :: behind) = some (scheme, behind) := by
  induction cs generalizing scheme with
  | nil => cases h
  | cons c cs ih =>
    by_cases hc : c = ':'
    · rw [hc] at h
      obtain rfl := (Prod.mk.inj (Option.some.inj h)).1
      rfl
    · rw [readScheme?_more_cons hc] at h
      split at h
      · next hin =>
        obtain ⟨⟨front, rest'⟩, hfront, heq⟩ := Option.map_eq_some_iff.1 h
        obtain ⟨rfl, rfl⟩ := Prod.mk.inj heq
        obtain ⟨hlower, hcolon⟩ := isInScheme_toLower hin
        rw [List.cons_append, readScheme?_more_cons hcolon, if_pos hlower, ih hfront,
          Option.map_some, Char.toLower_toLower_eq_toLower]
      · cases h

theorem suffix_of_readScheme?_more (h : readScheme?.more cs = some (scheme, rest)) :
    rest <:+ cs := by
  induction cs generalizing scheme with
  | nil => cases h
  | cons c cs ih =>
    by_cases hc : c = ':'
    · rw [hc] at h
      obtain rfl := (Prod.mk.inj (Option.some.inj h)).2
      exact List.suffix_cons _ _
    · rw [readScheme?_more_cons hc] at h
      split at h
      · obtain ⟨⟨front, rest'⟩, hfront, heq⟩ := Option.map_eq_some_iff.1 h
        obtain ⟨-, rfl⟩ := Prod.mk.inj heq
        exact (ih hfront).trans (List.suffix_cons _ _)
      · cases h

theorem suffix_of_readScheme? (h : readScheme? cs = some (scheme, rest)) : rest <:+ cs := by
  cases cs with
  | nil => cases h
  | cons c cs =>
    rw [readScheme?] at h
    split at h
    · exact suffix_of_readScheme?_more h
    · cases h

theorem readScheme?_again (h : readScheme? cs = some (scheme, rest)) (behind : List Char) :
    readScheme? (scheme ++ ':' :: behind) = some (scheme, behind) := by
  cases cs with
  | nil => cases h
  | cons c cs =>
    rw [readScheme?] at h
    split at h
    · next halpha =>
      have hc : c ≠ ':' := by
        rintro rfl
        exact absurd halpha (by decide)
      have hagain := readScheme?_more_again h behind
      rw [readScheme?_more_cons hc] at h
      split at h
      · obtain ⟨⟨front, rest'⟩, -, heq⟩ := Option.map_eq_some_iff.1 h
        obtain rfl := (Prod.mk.inj heq).1
        rw [List.cons_append, readScheme?, if_pos (by rwa [Char.isAlpha_toLower_eq_isAlpha])]
        exact hagain
      · cases h
    · cases h

end Schemes

/-! ## Reading credentials -/

/-- The password of credentials as it stands there. -/
def passwordPart (info : List Char) : List Char := (info.dropWhile (· != ':')).drop 1

/-- The password in an address as it stands there, if the text is an address with an authority that
has one. -/
def writtenPassword? (cs : List Char) : Option (List Char) := do
  let (scheme, rest) ← readScheme? cs
  let rest ← dropSlashes? (isSpecial scheme) rest
  let (info, _) ← splitUserinfo? (authority (isSpecial scheme) rest)
  if (passwordPart info).isEmpty then none else some (passwordPart info)

theorem suffix_of_dropSlashes? {special : Bool} {cs text : List Char}
    (h : dropSlashes? special cs = some text) : text <:+ cs := by
  rw [dropSlashes?] at h
  split at h
  · obtain rfl := Option.some.inj h
    exact List.dropWhile_suffix _
  · exact ⟨_, (Text.dropAffix?_eq_some h).symm⟩

theorem prefix_of_splitUserinfo? {cs info hostport : List Char}
    (h : splitUserinfo? cs = some (info, hostport)) : info <+: cs := by
  have hback : cs.reverse.dropWhile (· != '@') <:+ cs.reverse := List.dropWhile_suffix _
  rw [splitUserinfo?] at h
  split at h
  · cases h
  · next c front hfront =>
    obtain ⟨rfl, -⟩ := Prod.mk.inj (Option.some.inj h)
    rw [hfront] at hback
    have hsuffix : front <:+ cs.reverse := (List.suffix_cons c front).trans hback
    rwa [← List.reverse_prefix, List.reverse_reverse] at hsuffix

/-- A password that stands in an address is a part of its text. -/
theorem infix_of_writtenPassword? {cs password : List Char}
    (h : writtenPassword? cs = some password) : password <:+: cs := by
  simp only [writtenPassword?, Option.bind_eq_bind, Option.bind_eq_some_iff] at h
  obtain ⟨⟨scheme, rest⟩, hscheme, text, hslashes, ⟨info, hostport⟩, hinfo, h⟩ := h
  split at h
  · cases h
  · obtain rfl := Option.some.inj h
    have hpart : passwordPart info <:+ info :=
      (List.drop_suffix _ _).trans (List.dropWhile_suffix _)
    have hfront : info <+: text := (prefix_of_splitUserinfo? hinfo).trans (List.takeWhile_prefix _)
    have hback : text <:+ cs :=
      (suffix_of_dropSlashes? hslashes).trans (suffix_of_readScheme? hscheme)
    exact hpart.isInfix.trans (hfront.isInfix.trans hback.isInfix)

theorem readUserinfo_password (info : List Char) :
    (readUserinfo info).2 =
      if (passwordPart info).isEmpty then none
      else some (encode userinfoSet (passwordPart info)) := rfl

/-- A password is read in its encoded form. -/
theorem password_of_ofChars? {cs : List Char} {u : Url} (h : ofChars? cs = some u) :
    u.password = (writtenPassword? (clean cs)).map (encode userinfoSet) := by
  obtain ⟨rest, text, left, hread⟩ := readOf_of_ofChars? h
  have hpassword : (readUserinfo _).2 = u.password := congrArg Prod.snd hread.userinfo
  rw [← hpassword, readUserinfo_password]
  simp only [writtenPassword?, hread.scheme, hread.slashes, Option.bind_eq_bind, Option.bind_some]
  cases splitUserinfo? (authority (isSpecial u.scheme) text) with
  | none => rfl
  | some parts =>
    simp only [Option.getD_some, Option.bind_some]
    split <;> rfl

/-! ## Writing credentials -/

theorem splitUserinfo?_append (info : List Char) {hostport : List Char} (h : '@' ∉ hostport) :
    splitUserinfo? (info ++ '@' :: hostport) = some (info, hostport) := by
  have hback : ∀ c ∈ hostport.reverse, (c != '@') = true := by
    intro c hc
    rw [bne_iff_ne]
    rintro rfl
    exact h (List.mem_reverse.1 hc)
  simp [splitUserinfo?, List.dropWhile_append_of_pos hback, List.takeWhile_append_of_pos hback]

theorem splitUserinfo?_eq_none {cs : List Char} (h : '@' ∉ cs) : splitUserinfo? cs = none := by
  have hback : ∀ c ∈ cs.reverse, (c != '@') = true := by
    intro c hc
    rw [bne_iff_ne]
    rintro rfl
    exact h (List.mem_reverse.1 hc)
  simp [splitUserinfo?, List.dropWhile_eq_nil_iff.2 hback]

theorem dropWhile_colon_of_forall {cs : List Char} (h : ∀ c ∈ cs, userinfoSet c = false)
    (rest : List Char) : (cs ++ rest).dropWhile (· != ':') = rest.dropWhile (· != ':') := by
  refine List.dropWhile_append_of_pos fun c hc => ?_
  rw [bne_iff_ne]
  rintro rfl
  exact absurd (h ':' hc) (by decide)

theorem passwordPart_append {username : List Char} (h : ∀ c ∈ username, userinfoSet c = false)
    (password : List Char) : passwordPart (username ++ ':' :: password) = password := by
  rw [passwordPart, dropWhile_colon_of_forall h]
  rfl

theorem passwordPart_of_forall {username : List Char}
    (h : ∀ c ∈ username, userinfoSet c = false) : passwordPart username = [] := by
  have hdrop := dropWhile_colon_of_forall h []
  rw [List.append_nil] at hdrop
  rw [passwordPart, hdrop]
  rfl

/-- A URL whose parts cannot be taken for the end of its credentials or of its authority. -/
structure WellFormed (u : Url) : Prop where
  scheme : ∀ behind, readScheme? (u.scheme ++ ':' :: behind) = some (u.scheme, behind)
  username : ∀ c ∈ u.username, userinfoSet c = false
  password : ∀ p, u.password = some p → p ≠ [] ∧ ∀ c ∈ p, userinfoSet c = false
  host : ∀ c ∈ u.host, c ∉ delimiters
  path : u.path = [] ∨ ∃ path, u.path = '/' :: path

theorem wellFormed_of_ofChars? {cs : List Char} {u : Url} (h : ofChars? cs = some u) :
    u.WellFormed := by
  obtain ⟨rest, text, left, hread⟩ := readOf_of_ofChars? h
  obtain ⟨hname, hpassword⟩ := Prod.mk.inj hread.userinfo
  refine ⟨readScheme?_again hread.scheme, ?_, ?_,
    fun c => not_mem_delimiters_of_readHost? hread.host, ?_⟩
  · intro c hc
    rw [← hname] at hc
    exact userinfoSet_of_mem_encode hc
  · intro p hp
    rw [← hpassword] at hp
    split at hp
    · cases hp
    · next hne =>
      obtain rfl := Option.some.inj hp
      refine ⟨fun hnil => hne ?_, fun c => userinfoSet_of_mem_encode⟩
      rw [encode_eq_nil_iff.1 hnil]
      rfl
  · rw [hread.path, readPath]
    split
    · exact Or.inl rfl
    · exact Or.inr ⟨_, rfl⟩

theorem WellFormed.setUsername {u : Url} (h : u.WellFormed) (username : String) :
    (u.setUsername username).WellFormed :=
  { h with username := fun _ => userinfoSet_of_mem_encode }

theorem WellFormed.setPassword {u : Url} (h : u.WellFormed) (password : String) :
    (u.setPassword password).WellFormed := by
  refine { h with password := fun p hp => ?_ }
  rw [Url.setPassword] at hp
  split at hp
  · cases hp
  · next hne =>
    obtain rfl := Option.some.inj hp
    refine ⟨fun hnil => hne ?_, fun c => userinfoSet_of_mem_encode⟩
    simpa using encode_eq_nil_iff.1 hnil

/-- The port of a URL with its colon, or nothing. -/
def portText (u : Url) : List Char :=
  match u.port with
  | some p => ':' :: decimal p
  | none => []

/-- What is written behind the authority. -/
def tailText (u : Url) : List Char :=
  u.path ++ (match u.query with | some q => '?' :: q | none => [])
    ++ (match u.fragment with | some f => '#' :: f | none => [])

theorem write_eq (u : Url) :
    u.write =
      u.scheme ++ ':' :: '/' :: '/' :: (u.userinfo ++ (u.host ++ u.portText) ++ u.tailText) := by
  simp only [write, portText, tailText, List.append_assoc]
  rfl

section Written

variable {u : Url} (h : u.WellFormed)
include h

theorem WellFormed.not_mem_hostport {c : Char} (hc : c ∈ u.host ++ u.portText) :
    c ∉ delimiters := by
  rcases List.mem_append.1 hc with hc | hc
  · exact h.host c hc
  · rw [portText] at hc
    split at hc
    · rcases List.mem_cons.1 hc with rfl | hc
      · decide
      · exact not_mem_delimiters_of_mem_toDigits (by decide) hc
    · cases hc

theorem WellFormed.mem_userinfo {c : Char} (hc : c ∈ u.userinfo) : c = '@' ∨ c ∉ delimiters := by
  have hname (hc : c ∈ u.username) : c ∉ delimiters :=
    not_mem_delimiters_of_userinfoSet (h.username c hc)
  rw [userinfo] at hc
  split at hc
  · next p hp =>
    simp only [List.mem_append, List.mem_cons, List.not_mem_nil, or_false] at hc
    rcases hc with (hc | rfl | hc) | rfl
    · exact Or.inr (hname hc)
    · exact Or.inr (by decide)
    · exact Or.inr (not_mem_delimiters_of_userinfoSet ((h.password p hp).2 c hc))
    · exact Or.inl rfl
  · split at hc
    · cases hc
    · rcases List.mem_append.1 hc with hc | hc
      · exact Or.inr (hname hc)
      · exact Or.inl (List.mem_singleton.1 hc)

theorem WellFormed.endsAuthority_eq_false {c : Char}
    (hc : c ∈ u.userinfo ++ (u.host ++ u.portText)) (special : Bool) :
    endsAuthority special c = false := by
  rcases List.mem_append.1 hc with hc | hc
  · rcases h.mem_userinfo hc with rfl | hc
    · cases special <;> decide
    · exact endsAuthority_of_not_mem hc special
  · exact endsAuthority_of_not_mem (h.not_mem_hostport hc) special

theorem WellFormed.dropSlashes?_write (hhost : u.host ≠ []) (special : Bool) :
    dropSlashes? special ('/' :: '/' :: (u.userinfo ++ (u.host ++ u.portText) ++ u.tailText)) =
      some (u.userinfo ++ (u.host ++ u.portText) ++ u.tailText) := by
  cases special with
  | false => rfl
  | true =>
    obtain ⟨c, rest, hfront⟩ : ∃ c rest, u.userinfo ++ (u.host ++ u.portText) = c :: rest :=
      List.exists_cons_of_ne_nil (by simp [hhost])
    have hc := h.endsAuthority_eq_false (hfront ▸ List.mem_cons_self) true
    simp only [endsAuthority, Bool.true_and, Bool.or_eq_false_iff] at hc
    simp [dropSlashes?, hfront, hc]

theorem WellFormed.authority_write (special : Bool) :
    authority special (u.userinfo ++ (u.host ++ u.portText) ++ u.tailText) =
      u.userinfo ++ (u.host ++ u.portText) := by
  have htail : u.tailText.takeWhile (fun c => !endsAuthority special c) = [] := by
    rw [tailText]
    rcases h.path with hpath | ⟨path, hpath⟩ <;> rw [hpath]
    · cases u.query <;> cases u.fragment <;> simp [endsAuthority]
    · simp [endsAuthority]
  rw [authority, List.takeWhile_append_of_pos, htail, List.append_nil]
  exact fun c hc => by rw [h.endsAuthority_eq_false hc, Bool.not_false]

/-- An address that is written holds its password as it is. -/
theorem WellFormed.writtenPassword?_write (hhost : u.host ≠ []) :
    writtenPassword? u.write = u.password := by
  have hport : '@' ∉ u.host ++ u.portText := fun hc => h.not_mem_hostport hc (by decide)
  rw [writtenPassword?, write_eq]
  simp only [h.scheme, h.dropSlashes?_write hhost, h.authority_write, Option.bind_eq_bind,
    Option.bind_some]
  cases hpassword : u.password with
  | some p =>
    have hinfo : u.userinfo ++ (u.host ++ u.portText) =
        (u.username ++ ':' :: p) ++ '@' :: (u.host ++ u.portText) := by
      simp [userinfo, hpassword]
    have hne : ¬ p.isEmpty = true := by simpa using (h.password p hpassword).1
    rw [hinfo, splitUserinfo?_append _ hport, Option.bind_some,
      passwordPart_append h.username, if_neg hne]
  | none =>
    cases hname : u.username.isEmpty with
    | true =>
      have hinfo : u.userinfo = [] := by simp [userinfo, hpassword, hname]
      rw [hinfo, List.nil_append, splitUserinfo?_eq_none hport]
      rfl
    | false =>
      have hinfo : u.userinfo ++ (u.host ++ u.portText) =
          u.username ++ '@' :: (u.host ++ u.portText) := by
        simp [userinfo, hpassword, hname]
      rw [hinfo, splitUserinfo?_append _ hport, Option.bind_some,
        passwordPart_of_forall h.username]
      rfl

end Written

end PipelineSync.Url
