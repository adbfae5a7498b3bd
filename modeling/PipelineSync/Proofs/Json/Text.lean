import Mathlib.Data.List.Forall2
import PipelineSync.Json.Text

/-!
# JSON texts are read as they are written

`parse?_text`: the text of data is read as this data, for data as records write it (`Data.Written`).
The scanner finds the tokens of a value, if the value ends where a token can end, and the reader that
takes these tokens in comes to the value (`Spells`).
-/

namespace PipelineSync

/-- Data made of truth values, texts, lists and records, with fields that have names in `names`. -/
inductive Data.Written (names : String → Prop) : Data → Prop where
  | null : Written names .null
  | bool (b : Bool) : Written names (.bool b)
  | text (s : String) : Written names (.text s)
  | tuple {items : List Data} (h : ∀ d ∈ items, Written names d) : Written names (.tuple items)
  | record {fields : List (String × Data)} (hnames : ∀ e ∈ fields, names e.1)
      (h : ∀ e ∈ fields, Written names e.2) : Written names (.record fields)

namespace Json

/-! ## Scanning -/

/-- Whether a word or a number ends in front of the character. -/
def isDelimiter (c : Char) : Bool :=
  c == '"' || isSpace c || (punctuation? c).isSome

/-- Whether a word or a number ends in front of the text. -/
def Ends (cs : List Char) : Prop :=
  ∀ c ∈ cs.head?, isDelimiter c = true

theorem ends_cons {c : Char} (cs : List Char) (h : isDelimiter c = true) : Ends (c :: cs) := by
  intro d hd
  obtain rfl : c = d := by simpa using hd
  exact h

/-- The scanner finds the tokens in front of any text by which they end. -/
def Scans (cs : List Char) (ts : List Token) : Prop :=
  ∀ rest, Ends rest → scanFrom .between (cs ++ rest) = (scanFrom .between rest).map (ts ++ ·)

theorem scans_nil : Scans [] [] := by
  intro rest _
  simp

theorem Scans.append {a b : List Char} {ts us : List Token} (ha : Scans a ts) (hb : Scans b us)
    (hends : ∀ rest, Ends rest → Ends (b ++ rest)) : Scans (a ++ b) (ts ++ us) := by
  intro rest hrest
  rw [List.append_assoc, ha _ (hends rest hrest), hb rest hrest, Option.map_map]
  simp [Function.comp_def]

theorem scanFrom_cons {s t : Scan} {c : Char} {ts : List Token}
    (h : scanStep? s c = some (t, ts)) (cs : List Char) :
    scanFrom s (c :: cs) = (scanFrom t cs).map (ts ++ ·) := by
  rw [scanFrom, h, Option.map_eq_bind]
  rfl

theorem scanFrom_cons_of_silent {s t : Scan} {c : Char} (h : scanStep? s c = some (t, []))
    (cs : List Char) : scanFrom s (c :: cs) = scanFrom t cs := by
  rw [scanFrom_cons h]
  simp

theorem scanFrom_between_cons (c : Char) (cs : List Char) :
    scanFrom .between (c :: cs) =
      (scanFrom (scanBetween c).1 cs).map ((scanBetween c).2 ++ ·) :=
  scanFrom_cons rfl cs

theorem Scans.space {c : Char} {cs : List Char} {ts : List Token} (hc : isSpace c = true)
    (h : Scans cs ts) : Scans (c :: cs) ts := by
  have hquote : (c == '"') = false := by
    rw [beq_eq_false_iff_ne]
    rintro rfl
    exact absurd hc (by decide)
  intro rest hrest
  rw [List.cons_append, scanFrom_between_cons]
  simp [scanBetween, hquote, hc, h rest hrest, Function.comp_def]

theorem Scans.punctuation {c : Char} {t : Token} {cs : List Char} {ts : List Token}
    (hc : scanBetween c = (.between, [t])) (h : Scans cs ts) : Scans (c :: cs) (t :: ts) := by
  intro rest hrest
  rw [List.cons_append, scanFrom_between_cons, hc, h rest hrest, Option.map_map]
  rfl

theorem Scans.newLine {cs : List Char} {ts : List Token} (depth : Nat) (h : Scans cs ts) :
    Scans ((newLine depth).toList ++ cs) ts := by
  have hspaces : ∀ n, Scans (List.replicate n ' ' ++ cs) ts := by
    intro n
    induction n with
    | zero => exact h
    | succ n ih => exact ih.space rfl
  simpa [Json.newLine] using (hspaces (2 * depth)).space rfl

/-! ### Texts -/

theorem scanFrom_text_control {c : Char} (h : c.toNat < 0x20) (read rest : List Char) :
    scanFrom (.text read) ('\\' :: 'u' :: '0' :: '0' :: Text.hexDigit (c.toNat / 16) ::
      Text.hexDigit (c.toNat % 16) :: rest) = scanFrom (.text (c :: read)) rest := by
  have hhigh := Text.hexValue?_hexDigit (n := c.toNat / 16) (by omega)
  have hlow := Text.hexValue?_hexDigit (n := c.toNat % 16) (by omega)
  have hvalue : (0 * 16 + c.toNat / 16) * 16 + c.toNat % 16 = c.toNat := by omega
  have hunit : scanUnit? read none c.toNat = some (.text (c :: read)) := by
    have hlow : ¬ (0xDC00 ≤ c.toNat) := by omega
    have hhigh : ¬ (0xD800 ≤ c.toNat) := by omega
    simp [scanUnit?, hlow, hhigh]
  have hthird : scanStep? (.unit read none 2 0) (Text.hexDigit (c.toNat / 16)) =
      some (.unit read none 3 (c.toNat / 16), []) := by
    simp [scanStep?, hhigh]
  have hfourth : scanStep? (.unit read none 3 (c.toNat / 16)) (Text.hexDigit (c.toNat % 16)) =
      some (.text (c :: read), []) := by
    have : c.toNat / 16 * 16 + c.toNat % 16 = c.toNat := by omega
    simp [scanStep?, hlow, this, hunit]
  rw [scanFrom_cons_of_silent (t := .escape read) rfl,
    scanFrom_cons_of_silent (t := .unit read none 0 0) rfl,
    scanFrom_cons_of_silent (t := .unit read none 1 0) rfl,
    scanFrom_cons_of_silent (t := .unit read none 2 0) rfl,
    scanFrom_cons_of_silent hthird, scanFrom_cons_of_silent hfourth]

theorem scanFrom_text_escape (c : Char) (read rest : List Char) :
    scanFrom (.text read) (escape c ++ rest) = scanFrom (.text (c :: read)) rest := by
  have hletter : ∀ e : Char, escaped? e = some c → e ≠ 'u' →
      scanFrom (.text read) ('\\' :: e :: rest) = scanFrom (.text (c :: read)) rest := by
    intro e he hu
    have hstep : scanStep? (.escape read) e = some (.text (c :: read), []) := by
      simp [scanStep?, he, hu]
    rw [scanFrom_cons_of_silent (t := .escape read) rfl, scanFrom_cons_of_silent hstep]
  unfold escape
  split
  · exact hletter '"' rfl (by decide)
  · exact hletter '\\' rfl (by decide)
  · exact hletter 'b' rfl (by decide)
  · exact hletter 'f' rfl (by decide)
  · exact hletter 'n' rfl (by decide)
  · exact hletter 'r' rfl (by decide)
  · exact hletter 't' rfl (by decide)
  · next hquote hbackslash _ _ _ _ _ =>
    split
    · next hcontrol => exact scanFrom_text_control hcontrol read rest
    · next hcontrol =>
      have hstep : scanStep? (.text read) c = some (.text (c :: read), []) := by
        have hq : c ≠ '"' := fun h => hquote h
        have hb : c ≠ '\\' := fun h => hbackslash h
        simp [scanStep?, hq, hb, hcontrol]
      exact scanFrom_cons_of_silent hstep rest

theorem scanFrom_text_quoted (cs read rest : List Char) :
    scanFrom (.text read) (cs.flatMap escape ++ '"' :: rest) =
      (scanFrom .between rest).map (.text (String.ofList (read.reverse ++ cs)) :: ·) := by
  induction cs generalizing read with
  | nil =>
    have hclose : scanStep? (.text read) '"' =
        some (.between, [.text (String.ofList read.reverse)]) := rfl
    rw [List.append_nil]
    exact scanFrom_cons hclose rest
  | cons c cs ih =>
    rw [List.flatMap_cons, List.append_assoc, scanFrom_text_escape, ih]
    simp

theorem scans_quote (s : String) : Scans (quote s).toList [.text s] := by
  intro rest _
  have hquoted := scanFrom_text_quoted s.toList [] rest
  have hopen : scanFrom .between ('"' :: (s.toList.flatMap escape ++ '"' :: rest)) =
      scanFrom (.text []) (s.toList.flatMap escape ++ '"' :: rest) :=
    scanFrom_cons_of_silent rfl _
  rw [List.reverse_nil, List.nil_append, String.ofList_toList] at hquoted
  simp only [quote, String.toList_ofList, List.cons_append, List.append_assoc, List.nil_append]
  rw [hopen, hquoted]

/-! ### Words -/

theorem scanFrom_bare_append {cs : List Char} (hcs : ∀ c ∈ cs, isDelimiter c = false)
    (read rest : List Char) :
    scanFrom (.bare read) (cs ++ rest) = scanFrom (.bare (cs.reverse ++ read)) rest := by
  induction cs generalizing read with
  | nil => rfl
  | cons c cs ih =>
    have hc : isDelimiter c = false := hcs c List.mem_cons_self
    have hstep : scanStep? (.bare read) c = some (.bare (c :: read), []) := by
      unfold isDelimiter at hc
      simp [scanStep?, hc]
    rw [List.cons_append, scanFrom_cons_of_silent hstep,
      ih fun d hd => hcs d (List.mem_cons_of_mem _ hd)]
    simp

/-- A run of characters that are no token by themselves is a token where it ends. -/
theorem scanFrom_bare {word rest : List Char} {t : Token} (ht : bareToken? word = some t)
    (hrest : Ends rest) :
    scanFrom (.bare word.reverse) rest = (scanFrom .between rest).map (t :: ·) := by
  cases rest with
  | nil => simp [scanFrom, ht]
  | cons c rest =>
    have hc : isDelimiter c = true := hrest c rfl
    have hstep : scanStep? (.bare word.reverse) c =
        some ((scanBetween c).1, t :: (scanBetween c).2) := by
      unfold isDelimiter at hc
      simp only [scanStep?, hc, if_true, List.reverse_reverse, ht]
      rfl
    rw [scanFrom_cons hstep, scanFrom_between_cons, Option.map_map]
    rfl

theorem scans_word {c : Char} {cs : List Char} {t : Token}
    (hcs : (c :: cs).any isDelimiter = false) (ht : bareToken? (c :: cs) = some t) :
    Scans (c :: cs) [t] := by
  intro rest hrest
  have hplain : ∀ d ∈ c :: cs, isDelimiter d = false := fun d hd =>
    Bool.eq_false_iff.2 (List.any_eq_false.1 hcs d hd)
  have hc : isDelimiter c = false := hplain c List.mem_cons_self
  have hstart : scanStep? .between c = some (.bare [c], []) := by
    simp only [isDelimiter, Bool.or_eq_false_iff, Option.isSome_eq_false_iff,
      Option.isNone_iff_eq_none] at hc
    simp [scanStep?, scanBetween, hc]
  have hword : cs.reverse ++ [c] = (c :: cs).reverse := List.reverse_cons.symm
  rw [List.cons_append, scanFrom_cons_of_silent hstart,
    scanFrom_bare_append fun d hd => hplain d (List.mem_cons_of_mem _ hd), hword,
    scanFrom_bare ht hrest]
  rfl

/-! ### Lists -/

/-- Pieces with commas between them. -/
theorem scans_intercalate {pieces : List (List Char)} {tss : List (List Token)}
    (h : List.Forall₂ (fun p ts => Scans p ts) pieces tss) :
    Scans ([','].intercalate pieces) ([Token.comma].intercalate tss) := by
  induction h with
  | nil => exact scans_nil
  | @cons p ts pieces tss hp hps ih =>
    cases hps with
    | nil => simpa using hp
    | cons =>
      rw [List.intercalate_cons_cons, List.intercalate_cons_cons, List.append_assoc,
        List.append_assoc]
      apply hp.append
      · exact Scans.punctuation rfl ih
      · intro rest _
        exact ends_cons _ rfl

/-- Pieces in brackets, each on a line of its own. -/
theorem Scans.bracketed {opening closing : Char} {first last : Token}
    (hfirst : scanBetween opening = (.between, [first]))
    (hlast : scanBetween closing = (.between, [last])) {cs : List Char} {ts : List Token}
    (h : Scans cs ts) (depth : Nat) :
    Scans (opening :: (cs ++ ((Json.newLine depth).toList ++ [closing])))
      (first :: (ts ++ [last])) := by
  apply Scans.punctuation hfirst
  apply h.append
  · exact (scans_nil.punctuation hlast).newLine depth
  · intro rest _
    have hfeed : isDelimiter '\n' = true := rfl
    simpa [Json.newLine] using ends_cons _ hfeed

/-! ## Reading -/

/-- The reader that takes the tokens in comes to the value. -/
def Spells (ts : List Token) (d : Data) : Prop :=
  ∀ r : Reader, r.expect = .value ∨ r.expect = .valueOrEnd →
    ts.foldlM Reader.step r = r.addValue d

theorem Reader.addValue_array {r : Reader} {items : List Data} {stack : List Open}
    (h : r.stack = .array items :: stack) (d : Data) :
    r.addValue d = some { r with expect := .next, stack := .array (d :: items) :: stack } := by
  simp [addValue, h]

theorem Reader.addValue_object {r : Reader} {entries : List (Data × Data)} {key : String}
    {stack : List Open} (h : r.stack = .object entries key :: stack) (d : Data) :
    r.addValue d =
      some { r with expect := .next, stack := .object ((.text key, d) :: entries) "" :: stack } := by
  simp [addValue, h]

theorem spells_items {tss : List (List Token)} {items : List Data}
    (h : List.Forall₂ Spells tss items) (hne : items ≠ []) {r : Reader}
    (hr : r.expect = .value ∨ r.expect = .valueOrEnd) {before : List Data} {stack : List Open}
    (hstack : r.stack = .array before :: stack) :
    ([Token.comma].intercalate tss).foldlM Reader.step r =
      some { r with expect := .next, stack := .array (items.reverse ++ before) :: stack } := by
  induction h generalizing r before with
  | nil => exact absurd rfl hne
  | @cons ts d tss items hd hitems ih =>
    have hfirst := (hd r hr).trans (Reader.addValue_array hstack d)
    cases hitems with
    | nil => simpa using hfirst
    | cons =>
      rw [List.intercalate_cons_cons, List.append_assoc, List.foldlM_append, hfirst]
      have hrest := ih (by simp) (r := { r with
        expect := .value, stack := .array (d :: before) :: stack }) (Or.inl rfl) rfl
      simpa [List.foldlM_cons, Reader.step] using hrest

theorem spells_entries {tss : List (List Token)} {fields : List (String × Data)}
    (h : List.Forall₂ (fun ts e => ∃ us, ts = .text e.1 :: .colon :: us ∧ Spells us e.2) tss fields)
    (hne : fields ≠ []) {r : Reader} (hr : r.expect = .key ∨ r.expect = .keyOrEnd)
    {before : List (Data × Data)} {key : String} {stack : List Open}
    (hstack : r.stack = .object before key :: stack) :
    ([Token.comma].intercalate tss).foldlM Reader.step r =
      some { r with
        expect := .next
        stack := .object ((fields.map fun e => (.text e.1, e.2)).reverse ++ before) "" :: stack } := by
  induction h generalizing r before key with
  | nil => exact absurd rfl hne
  | @cons ts e tss fields he hfields ih =>
    obtain ⟨us, rfl, hus⟩ := he
    have hkey : r.step (.text e.1) =
        some { r with expect := .colon, stack := .object before e.1 :: stack } := by
      rcases hr with hr | hr <;> simp [Reader.step, hr, hstack]
    have hvalue : us.foldlM Reader.step { r with
          expect := .value, stack := .object before e.1 :: stack } =
        some { r with
          expect := .next, stack := .object ((.text e.1, e.2) :: before) "" :: stack } :=
      (hus _ (Or.inl rfl)).trans (Reader.addValue_object rfl e.2)
    have hfirst : (Token.text e.1 :: .colon :: us).foldlM Reader.step r =
        some { r with
          expect := .next, stack := .object ((.text e.1, e.2) :: before) "" :: stack } := by
      rw [List.foldlM_cons, hkey, Option.bind_eq_bind, Option.bind_some, List.foldlM_cons]
      exact hvalue
    cases hfields with
    | nil => simpa using hfirst
    | cons =>
      rw [List.intercalate_cons_cons, List.append_assoc, List.foldlM_append, hfirst]
      have hrest := ih (by simp) (r := { r with
        expect := .key, stack := .object ((.text e.1, e.2) :: before) "" :: stack }) (Or.inl rfl) rfl
      simpa [List.foldlM_cons, Reader.step] using hrest

/-! ## Both -/

theorem renderItems_eq (depth : Nat) (items : List Data) :
    renderItems depth items = items.map fun d => newLine depth ++ render depth d := by
  induction items with
  | nil => rfl
  | cons d items ih => rw [renderItems, ih, List.map_cons]

theorem renderEntries_eq (depth : Nat) (entries : List (Data × Data)) :
    renderEntries depth entries =
      entries.map fun e => newLine depth ++ render depth e.1 ++ ": " ++ render depth e.2 := by
  induction entries with
  | nil => rfl
  | cons e entries ih => rw [renderEntries, ih, List.map_cons]

theorem scans_array {items : List Data} {f : Data → List Token}
    (h : ∀ d ∈ items, ∀ depth, Scans (render depth d).toList (f d)) (depth : Nat) :
    Scans (render depth (.tuple items)).toList
      (.beginArray :: ([Token.comma].intercalate (items.map f) ++ [.endArray])) := by
  have hfirst : scanBetween '[' = (.between, [.beginArray]) := rfl
  have hlast : scanBetween ']' = (.between, [.endArray]) := rfl
  by_cases hne : items = []
  · subst hne
    simpa [render] using (scans_nil.punctuation hlast).punctuation hfirst
  have hitems : Scans ([','].intercalate ((renderItems (depth + 1) items).map String.toList))
      ([Token.comma].intercalate (items.map f)) := by
    apply scans_intercalate
    rw [renderItems_eq, List.map_map, List.forall₂_map_left_iff, List.forall₂_map_right_iff,
      List.forall₂_same]
    intro d hd
    simpa using (h d hd (depth + 1)).newLine (depth + 1)
  simpa [render, hne, Text.join, String.toList_intercalate] using
    hitems.bracketed hfirst hlast depth

theorem scans_object {fields : List (String × Data)} {f : Data → List Token}
    (h : ∀ e ∈ fields, ∀ depth, Scans (render depth e.2).toList (f e.2)) (depth : Nat) :
    Scans (render depth (.record fields)).toList (.beginObject ::
      ([Token.comma].intercalate (fields.map fun e => .text e.1 :: .colon :: f e.2) ++
        [.endObject])) := by
  have hfirst : scanBetween '\x7b' = (.between, [.beginObject]) := rfl
  have hlast : scanBetween '\x7d' = (.between, [.endObject]) := rfl
  have hcolon : scanBetween ':' = (.between, [.colon]) := rfl
  by_cases hne : fields = []
  · subst hne
    simpa [Data.record, render] using (scans_nil.punctuation hlast).punctuation hfirst
  have hentries : Scans ([','].intercalate ((renderEntries (depth + 1)
        (fields.map fun e => (.text e.1, e.2))).map String.toList))
      ([Token.comma].intercalate (fields.map fun e => .text e.1 :: .colon :: f e.2)) := by
    apply scans_intercalate
    rw [renderEntries_eq, List.map_map, List.map_map, List.forall₂_map_left_iff,
      List.forall₂_map_right_iff, List.forall₂_same]
    intro e he
    have hvalue := ((h e he (depth + 1)).space (c := ' ') rfl).punctuation hcolon
    have hentry := (scans_quote e.1).append hvalue fun rest _ => ends_cons _ rfl
    simpa [render] using hentry.newLine (depth + 1)
  simpa [Data.record, render, hne, Text.join, String.toList_intercalate] using
    hentries.bracketed hfirst hlast depth

theorem spells_array {items : List Data} {f : Data → List Token}
    (h : ∀ d ∈ items, Spells (f d) d) :
    Spells (.beginArray :: ([Token.comma].intercalate (items.map f) ++ [.endArray]))
      (.tuple items) := by
  intro r hr
  have hopen : r.step .beginArray =
      some { r with expect := .valueOrEnd, stack := .array [] :: r.stack } := by
    simp [Reader.step, hr]
  rw [List.foldlM_cons, hopen, Option.bind_eq_bind, Option.bind_some, List.foldlM_append]
  by_cases hne : items = []
  · subst hne
    simp [Reader.step, Reader.addValue]
  have hitems : List.Forall₂ Spells (items.map f) items := by
    rw [List.forall₂_map_left_iff, List.forall₂_same]
    exact h
  rw [spells_items hitems hne (Or.inr rfl) rfl]
  simp [Reader.step, Reader.addValue]

theorem spells_object {fields : List (String × Data)} {f : Data → List Token}
    (h : ∀ e ∈ fields, Spells (f e.2) e.2) :
    Spells (.beginObject ::
      ([Token.comma].intercalate (fields.map fun e => .text e.1 :: .colon :: f e.2) ++
        [.endObject])) (.record fields) := by
  intro r hr
  have hopen : r.step .beginObject =
      some { r with expect := .keyOrEnd, stack := .object [] "" :: r.stack } := by
    simp [Reader.step, hr]
  rw [List.foldlM_cons, hopen, Option.bind_eq_bind, Option.bind_some, List.foldlM_append]
  by_cases hne : fields = []
  · subst hne
    simp [Reader.step, Reader.addValue, Data.record]
  have hfields : List.Forall₂ (fun ts e => ∃ us, ts = .text e.1 :: .colon :: us ∧ Spells us e.2)
      (fields.map fun e => .text e.1 :: .colon :: f e.2) fields := by
    rw [List.forall₂_map_left_iff, List.forall₂_same]
    intro e he
    exact ⟨f e.2, rfl, h e he⟩
  rw [spells_entries hfields hne (Or.inr rfl) rfl]
  simp [Reader.step, Reader.addValue, Data.record]

/-- The tokens of a value, by which it is found in its text and from which it is read. -/
theorem exists_tokens {names : String → Prop} {d : Data} (h : d.Written names) :
    ∃ ts, (∀ depth, Scans (render depth d).toList ts) ∧ Spells ts d := by
  induction h with
  | null =>
    have hscans : Scans "null".toList [.null] := scans_word (by decide) (by decide)
    refine ⟨[.null], fun _ => hscans, ?_⟩
    rintro r (hr | hr) <;> simp [Reader.step, hr]
  | bool b =>
    have htrue : Scans "true".toList [.true] := scans_word (by decide) (by decide)
    have hfalse : Scans "false".toList [.false] := scans_word (by decide) (by decide)
    cases b with
    | true =>
      refine ⟨[.true], fun _ => htrue, ?_⟩
      rintro r (hr | hr) <;> simp [Reader.step, hr]
    | false =>
      refine ⟨[.false], fun _ => hfalse, ?_⟩
      rintro r (hr | hr) <;> simp [Reader.step, hr]
  | text s =>
    refine ⟨[.text s], fun _ => scans_quote s, ?_⟩
    rintro r (hr | hr) <;> simp [Reader.step, hr]
  | @tuple items h ih =>
    choose! f hscans hspells using ih
    exact ⟨_, scans_array hscans, spells_array hspells⟩
  | @record fields hnames h ih =>
    have ih : ∀ d, d ∈ fields.map Prod.snd →
        ∃ ts, (∀ depth, Scans (render depth d).toList ts) ∧ Spells ts d := by
      intro d hd
      obtain ⟨e, he, rfl⟩ := List.mem_map.1 hd
      exact ih e he
    choose! f hscans hspells using ih
    have hmem : ∀ e ∈ fields, e.2 ∈ fields.map Prod.snd := fun e he => List.mem_map_of_mem he
    exact ⟨_, scans_object fun e he => hscans e.2 (hmem e he),
      spells_object fun e he => hspells e.2 (hmem e he)⟩

/-- Reading a text that was written gives the data back. -/
theorem parse?_text {names : String → Prop} {d : Data} (h : d.Written names) :
    parse? (text d) = some d := by
  obtain ⟨ts, hscans, hspells⟩ := exists_tokens h
  have htokens : tokens? (text d) = some ts := by
    have := hscans 0 [] (by simp [Ends])
    simpa [scanFrom, tokens?, text] using this
  have hread : ts.foldlM Reader.step {} =
      some { expect := .next, stack := [], result := some d } := hspells {} (Or.inl rfl)
  rw [parse?, htokens, Option.bind_eq_bind, Option.bind_some, hread]
  rfl

end Json

end PipelineSync
