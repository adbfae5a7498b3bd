/-!
# Punycode

The encoding of RFC 3492, by which a label of a domain name is written in ASCII: its ASCII
characters, a `-`, and the other characters as a series of generalized variable-length integers.
-/

namespace PipelineSync.Url.Punycode

/-- The digit of a number below 36: `a` to `z`, then `0` to `9`. -/
def digit (n : Nat) : Char :=
  if n < 26 then Char.ofNat (0x61 + n) else Char.ofNat (0x16 + n)

/-- The value of a digit. -/
def digitValue? (c : Char) : Option Nat :=
  if 'a' ≤ c ∧ c ≤ 'z' then some (c.toNat - 0x61)
  else if 'A' ≤ c ∧ c ≤ 'Z' then some (c.toNat - 0x41)
  else if '0' ≤ c ∧ c ≤ '9' then some (c.toNat - 0x16)
  else none

/-- Divides by 35 until at most 455 is left, and counts 36 for each division. -/
def settle (delta k : Nat) : Nat :=
  if 455 < delta then settle (delta / 35) (k + 36) else k + 36 * delta / (delta + 38)
termination_by delta

/-- The bias after a delta, when `count` characters are in place. -/
def adapt (delta count : Nat) (first : Bool) : Nat :=
  let scaled := if first then delta / 700 else delta / 2
  settle (scaled + scaled / count) 0

/-- The threshold of the digit at weight position `k`. -/
def threshold (k bias : Nat) : Nat :=
  if k ≤ bias then 1 else if bias + 26 ≤ k then 26 else k - bias

/-- The digits of a number, least significant first. -/
def writeNumber (q k bias : Nat) : List Char :=
  let t := threshold k bias
  if t ≤ q ∧ t < 36 ∧ 0 < t then
    digit (t + (q - t) % (36 - t)) :: writeNumber ((q - t) / (36 - t)) (k + 36) bias
  else [digit q]
termination_by q
decreasing_by
  have h1 : (q - threshold k bias) / (36 - threshold k bias) ≤ q - threshold k bias :=
    Nat.div_le_self _ _
  omega

/-- The progress of an encoder: the code points below `next` and the `placed` characters are
written. -/
structure Progress where
  next : Nat
  delta : Nat
  bias : Nat
  placed : Nat
  output : List Char

/-- Goes past a character of the input, and writes it if it is the next code point. -/
def Progress.visit (input : List Char) (p : Progress) (c : Char) : Progress :=
  if c.toNat < p.next then { p with delta := p.delta + 1 }
  else if c.toNat = p.next then
    { p with
      output := p.output ++ writeNumber p.delta 36 p.bias
      bias := adapt p.delta (p.placed + 1) (p.placed == (input.filter (·.toNat < 0x80)).length)
      delta := 0
      placed := p.placed + 1 }
  else p

/-- Writes all occurrences of the code point `m`. -/
def Progress.write (input : List Char) (p : Progress) (m : Nat) : Progress :=
  let start := { p with delta := p.delta + (m - p.next) * (p.placed + 1), next := m }
  let done := input.foldl (visit input) start
  { done with delta := done.delta + 1, next := m + 1 }

/-- The ASCII form of a label, without its `xn--`. -/
def encode (label : List Char) : List Char :=
  let basic := label.filter (·.toNat < 0x80)
  let points := ((label.map Char.toNat).filter (0x80 ≤ ·)).mergeSort.eraseDups
  let front := if basic.isEmpty then [] else basic ++ ['-']
  front ++ (points.foldl (Progress.write label) ⟨0x80, 0, 72, basic.length, []⟩).output

/-- Reads one number: its value and the rest. -/
def readNumber? (k w bias i : Nat) : List Char → Option (Nat × List Char)
  | [] => none
  | c :: rest => do
    let d ← digitValue? c
    let t := threshold k bias
    if d < t then some (i + d * w, rest)
    else readNumber? (k + 36) (w * (36 - t)) bias (i + d * w) rest

theorem readNumber?_length {k w bias i n : Nat} {cs rest : List Char}
    (h : readNumber? k w bias i cs = some (n, rest)) : rest.length < cs.length := by
  induction cs generalizing k w i with
  | nil => simp [readNumber?] at h
  | cons c cs ih =>
    simp only [readNumber?, Option.bind_eq_bind] at h
    cases hd : digitValue? c with
    | none => simp [hd] at h
    | some d =>
      simp only [hd, Option.bind_some] at h
      split at h
      · simp at h
        simp [← h.2]
      · have := ih h
        simp
        omega

/-- Reads the numbers and puts each character they stand for in place. -/
def insertAll? (i n bias : Nat) (output : List Char) : List Char → Option (List Char)
  | [] => some output
  | c :: cs =>
    match hr : readNumber? 36 1 bias i (c :: cs) with
    | none => none
    | some (j, rest) =>
      have : rest.length ≤ cs.length := Nat.le_of_lt_succ (readNumber?_length hr)
      let count := output.length + 1
      let point := n + j / count
      let place := j % count
      if point.isValidChar then
        insertAll? (place + 1) point (adapt (j - i) count (i == 0))
          (output.take place ++ Char.ofNat point :: output.drop place) rest
      else none
termination_by cs => cs.length

/-- The label behind an `xn--`. A `-` in front of everything else marks no ASCII characters off. -/
def decode? (label : List Char) : Option (List Char) :=
  let back := label.reverse
  let tail := (back.takeWhile (· != '-')).reverse
  let basic := ((back.dropWhile (· != '-')).drop 1).reverse
  if basic.isEmpty then insertAll? 0 0x80 72 [] label
  else insertAll? 0 0x80 72 basic tail

end PipelineSync.Url.Punycode
