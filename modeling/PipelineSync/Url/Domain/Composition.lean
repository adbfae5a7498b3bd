import PipelineSync.Url.Domain.Mark

/-!
# Composed characters

A letter with marks can be written as one character or as several. `compose` gives the form in which
as much as possible is one character (form C of UAX 15): everything is taken apart, the marks of each
character are put in the order of their classes, and what belongs together is put together again.
-/

namespace PipelineSync.Url.Domain

/-- The parts of composed characters, as far as domain names hold such characters. -/
def partLines : List (Nat × String) :=
  [(0xe0, "61.300 61.301 61.302 61.303 61.308 61.30a - 63.327 65.300 65.301 65.302 65.308 69.300"),
  (0xed, "69.301 69.302 69.308 - 6e.303 6f.300 6f.301 6f.302 6f.303 6f.308 - - 75.300 75.301"),
  (0xfb, "75.302 75.308 79.301 - 79.308 - 61.304 - 61.306 - 61.328 - 63.301 - 63.302 - 63.307"),
  (0x10d, "63.30c - 64.30c - - - 65.304 - 65.306 - 65.307 - 65.328 - 65.30c - 67.302 - 67.306"),
  (0x121, "67.307 - 67.327 - 68.302 - - - 69.303 - 69.304 - 69.306 - 69.328 - - - - - 6a.302"),
  (0x137, "6b.327 - - 6c.301 - 6c.327 - 6c.30c - - - - - 6e.301 - 6e.327 - 6e.30c - - - - 6f.304"),
  (0x14f, "6f.306 - 6f.30b - - - 72.301 - 72.327 - 72.30c - 73.301 - 73.302 - 73.327 - 73.30c"),
  (0x163, "74.327 - 74.30c - - - 75.303 - 75.304 - 75.306 - 75.30a - 75.30b - 75.328 - 77.302"),
  (0x177, "79.302 - - 7a.301 - 7a.307 - 7a.30c"),
  (0x1a1, "6f.31b"),
  (0x1b0, "75.31b"),
  (0x1ce, "61.30c - 69.30c - 6f.30c - 75.30c - 75.308.304 - 75.308.301 - 75.308.30c - 75.308.300"),
  (0x1df, "61.308.304 - 61.307.304 - e6.304 - - - 67.30c - 6b.30c - 6f.328 - 6f.328.304 - 292.30c"),
  (0x1f0, "6a.30c - - - - 67.301 - - - 6e.300 - 61.30a.301 - e6.301 - f8.301 - 61.30f - 61.311"),
  (0x205, "65.30f - 65.311 - 69.30f - 69.311 - 6f.30f - 6f.311 - 72.30f - 72.311 - 75.30f"),
  (0x217, "75.311 - 73.326 - 74.326 - - - 68.30c - - - - - - - 61.307 - 65.327 - 6f.308.304"),
  (0x22d, "6f.303.304 - 6f.307 - 6f.307.304 - 79.304"),
  (0x390, "3b9.308.301"),
  (0x3ac, "3b1.301 3b5.301 3b7.301 3b9.301 3c5.308.301"),
  (0x3ca, "3b9.308 3c5.308 3bf.301 3c5.301 3c9.301"),
  (0x439, "438.306"),
  (0x450, "435.300 435.308 - 433.301 - - - 456.308 - - - - 43a.301 438.300 443.306"),
  (0x477, "475.30f"),
  (0x4c2, "436.306"),
  (0x4d1, "430.306 - 430.308 - - - 435.306 - - - 4d9.308 - 436.308 - 437.308 - - - 438.304"),
  (0x4e5, "438.308 - 43e.308 - - - 4e9.308 - 44d.308 - 443.304 - 443.308 - 443.30b - 447.308"),
  (0x4f9, "44b.308"),
  (0x622, "627.653 627.654 648.654 627.655 64a.654"),
  (0x6c0, "6d5.654 - 6c1.654"),
  (0x6d3, "6d2.654"),
  (0x929, "928.93c - - - - - - - 930.93c - - 933.93c"),
  (0x9cb, "9c7.9be 9c7.9d7"),
  (0xb48, "b47.b56 - - b47.b3e b47.b57"),
  (0xb94, "b92.bd7"),
  (0xbca, "bc6.bbe bc7.bbe bc6.bd7"),
  (0xc48, "c46.c56"),
  (0xcc0, "cbf.cd5 - - - - - - cc6.cd5 cc6.cd6 - cc6.cc2 cc6.cc2.cd5"),
  (0xd4a, "d46.d3e d47.d3e d46.d57"),
  (0xdda, "dd9.dca - dd9.dcf dd9.dcf.dca dd9.ddf"),
  (0x1026, "1025.102e"),
  (0x1b06, "1b05.1b35 - 1b07.1b35 - 1b09.1b35 - 1b0b.1b35 - 1b0d.1b35 - - - 1b11.1b35"),
  (0x1b3b, "1b3a.1b35 - 1b3c.1b35 - - 1b3e.1b35 1b3f.1b35 - 1b42.1b35"),
  (0x1e01, "61.325 - 62.307 - 62.323 - 62.331 - 63.327.301 - 64.307 - 64.323 - 64.331 - 64.327"),
  (0x1e13, "64.32d - 65.304.300 - 65.304.301 - 65.32d - 65.330 - 65.327.306 - 66.307 - 67.304"),
  (0x1e23, "68.307 - 68.323 - 68.308 - 68.327 - 68.32e - 69.330 - 69.308.301 - 6b.301 - 6b.323"),
  (0x1e35, "6b.331 - 6c.323 - 6c.323.304 - 6c.331 - 6c.32d - 6d.301 - 6d.307 - 6d.323 - 6e.307"),
  (0x1e47, "6e.323 - 6e.331 - 6e.32d - 6f.303.301 - 6f.303.308 - 6f.304.300 - 6f.304.301 - 70.301"),
  (0x1e57, "70.307 - 72.307 - 72.323 - 72.323.304 - 72.331 - 73.307 - 73.323 - 73.301.307"),
  (0x1e67, "73.30c.307 - 73.323.307 - 74.307 - 74.323 - 74.331 - 74.32d - 75.324 - 75.330"),
  (0x1e77, "75.32d - 75.303.301 - 75.304.308 - 76.303 - 76.323 - 77.300 - 77.301 - 77.308"),
  (0x1e87, "77.307 - 77.323 - 78.307 - 78.308 - 79.307 - 7a.302 - 7a.323 - 7a.331 68.331 74.308"),
  (0x1e98, "77.30a 79.30a - - - - - - - 61.323 - 61.309 - 61.302.301 - 61.302.300 - 61.302.309"),
  (0x1eab, "61.302.303 - 61.323.302 - 61.306.301 - 61.306.300 - 61.306.309 - 61.306.303"),
  (0x1eb7, "61.323.306 - 65.323 - 65.309 - 65.303 - 65.302.301 - 65.302.300 - 65.302.309"),
  (0x1ec5, "65.302.303 - 65.323.302 - 69.309 - 69.323 - 6f.323 - 6f.309 - 6f.302.301 - 6f.302.300"),
  (0x1ed5, "6f.302.309 - 6f.302.303 - 6f.323.302 - 6f.31b.301 - 6f.31b.300 - 6f.31b.309"),
  (0x1ee1, "6f.31b.303 - 6f.31b.323 - 75.323 - 75.309 - 75.31b.301 - 75.31b.300 - 75.31b.309"),
  (0x1eef, "75.31b.303 - 75.31b.323 - 79.300 - 79.323 - 79.309 - 79.303 - - - - - - 3b1.313"),
  (0x1f01, "3b1.314 3b1.313.300 3b1.314.300 3b1.313.301 3b1.314.301 3b1.313.342 3b1.314.342"),
  (0x1f10, "3b5.313 3b5.314 3b5.313.300 3b5.314.300 3b5.313.301 3b5.314.301"),
  (0x1f20, "3b7.313 3b7.314 3b7.313.300 3b7.314.300 3b7.313.301 3b7.314.301 3b7.313.342"),
  (0x1f27, "3b7.314.342 - - - - - - - - 3b9.313 3b9.314 3b9.313.300 3b9.314.300 3b9.313.301"),
  (0x1f35, "3b9.314.301 3b9.313.342 3b9.314.342 - - - - - - - - 3bf.313 3bf.314 3bf.313.300"),
  (0x1f43, "3bf.314.300 3bf.313.301 3bf.314.301"),
  (0x1f50, "3c5.313 3c5.314 3c5.313.300 3c5.314.300 3c5.313.301 3c5.314.301 3c5.313.342"),
  (0x1f57, "3c5.314.342 - - - - - - - - 3c9.313 3c9.314 3c9.313.300 3c9.314.300 3c9.313.301"),
  (0x1f65, "3c9.314.301 3c9.313.342 3c9.314.342 - - - - - - - - 3b1.300 - 3b5.300 - 3b7.300"),
  (0x1f76, "3b9.300 - 3bf.300 - 3c5.300 - 3c9.300"),
  (0x1fb0, "3b1.306 3b1.304 - - - - 3b1.342"),
  (0x1fc6, "3b7.342"),
  (0x1fd0, "3b9.306 3b9.304 3b9.308.300 - - - 3b9.342 3b9.308.342 - - - - - - - - 3c5.306 3c5.304"),
  (0x1fe2, "3c5.308.300 - 3c1.313 3c1.314 3c5.342 3c5.308.342"),
  (0x1ff6, "3c9.342"),
  (0x219a, "2190.338 2192.338"),
  (0x21ae, "2194.338"),
  (0x21cd, "21d0.338 21d4.338 21d2.338"),
  (0x2204, "2203.338 - - - - 2208.338 - - 220b.338"),
  (0x2224, "2223.338 - 2225.338"),
  (0x2241, "223c.338 - - 2243.338 - - 2245.338 - 2248.338"),
  (0x2260, "3d.338 - 2261.338"),
  (0x226d, "224d.338 3c.338 3e.338 2264.338 2265.338 - - 2272.338 2273.338 - - 2276.338 2277.338"),
  (0x2280, "227a.338 227b.338 - - 2282.338 2283.338 - - 2286.338 2287.338"),
  (0x22ac, "22a2.338 22a8.338 22a9.338 22ab.338"),
  (0x22e0, "227c.338 227d.338 2291.338 2292.338 - - - - - - 22b2.338 22b3.338 22b4.338 22b5.338"),
  (0x304c, "304b.3099 - 304d.3099 - 304f.3099 - 3051.3099 - 3053.3099 - 3055.3099 - 3057.3099"),
  (0x305a, "3059.3099 - 305b.3099 - 305d.3099 - 305f.3099 - 3061.3099 - - 3064.3099 - 3066.3099"),
  (0x3069, "3068.3099 - - - - - - 306f.3099 306f.309a - 3072.3099 3072.309a - 3075.3099 3075.309a"),
  (0x3079, "3078.3099 3078.309a - 307b.3099 307b.309a"),
  (0x3094, "3046.3099"),
  (0x309e, "309d.3099"),
  (0x30ac, "30ab.3099 - 30ad.3099 - 30af.3099 - 30b1.3099 - 30b3.3099 - 30b5.3099 - 30b7.3099"),
  (0x30ba, "30b9.3099 - 30bb.3099 - 30bd.3099 - 30bf.3099 - 30c1.3099 - - 30c4.3099 - 30c6.3099"),
  (0x30c9, "30c8.3099 - - - - - - 30cf.3099 30cf.309a - 30d2.3099 30d2.309a - 30d5.3099 30d5.309a"),
  (0x30d9, "30d8.3099 30d8.309a - 30db.3099 30db.309a"),
  (0x30f4, "30a6.3099 - - 30ef.3099 30f0.3099 30f1.3099 30f2.3099 - - - 30fd.3099"),
  (0x105c9, "105d2.307"),
  (0x105e4, "105da.307"),
  (0x1109a, "11099.110ba - 1109b.110ba"),
  (0x110ab, "110a5.110ba"),
  (0x1112e, "11131.11127 11132.11127"),
  (0x1134b, "11347.1133e 11347.11357"),
  (0x11383, "11382.113c9 - 11384.113bb - - - - - - - - 1138b.113c2 - - 11390.113c9"),
  (0x113c5, "113c2.113c2 - 113c2.113b8 113c2.113c9"),
  (0x114bb, "114b9.114ba 114b9.114b0 - 114b9.114bd"),
  (0x115ba, "115b8.115af 115b9.115af"),
  (0x11938, "11935.11930"),
  (0x16121, "1611e.1611e 1611e.16129 1611e.1611f 16129.1611f 1611e.16120 1611e.1611e.1611f"),
  (0x16127, "1611e.16129.1611f 1611e.1611e.16120"),
  (0x16d68, "16d67.16d67 16d63.16d67 16d63.16d67.16d67")]

/-- Composed characters with their parts. -/
def composites : List (Char × List Char) := Text.lineEntries partLines

/-! ## Syllables of Hangul -/

/-- The parts of a syllable: a consonant, a vowel, and often a consonant at the end. -/
def syllableParts (c : Char) : List Char :=
  let i := c.toNat - 0xAC00
  let front := [Char.ofNat (0x1100 + i / 588), Char.ofNat (0x1161 + i % 588 / 28)]
  if i % 28 = 0 then front else front ++ [Char.ofNat (0x11A7 + i % 28)]

/-- Whether a character is a syllable. -/
def isSyllable (c : Char) : Bool :=
  0xAC00 ≤ c.toNat && c.toNat ≤ 0xD7A3

/-- The syllable of two parts, of which the first may be a syllable that is not closed. -/
def syllable? (a b : Char) : Option Char :=
  let a := a.toNat
  let b := b.toNat
  if 0x1100 ≤ a ∧ a ≤ 0x1112 ∧ 0x1161 ≤ b ∧ b ≤ 0x1175 then
    some (Char.ofNat (0xAC00 + ((a - 0x1100) * 21 + (b - 0x1161)) * 28))
  else if 0xAC00 ≤ a ∧ a ≤ 0xD7A3 ∧ (a - 0xAC00) % 28 = 0 ∧ 0x11A8 ≤ b ∧ b ≤ 0x11C2 then
    some (Char.ofNat (a + (b - 0x11A7)))
  else none

/-! ## Taking apart -/

/-- The parts of a character, or the character itself. -/
def parts (c : Char) : List Char :=
  if isSyllable c then syllableParts c else (composites.lookup c).getD [c]

/-- Puts a character in front of others, a mark behind the marks of lower classes. -/
def insertMark (c : Char) : List Char → List Char
  | [] => [c]
  | d :: ds =>
    if 0 < combiningClass d && combiningClass d < combiningClass c then d :: insertMark c ds
    else c :: d :: ds

/-- The parts of all characters, marks in the order of their classes. -/
def decompose (cs : List Char) : List Char :=
  (cs.flatMap parts).foldr insertMark []

/-! ## Putting together -/

/-- The character that two characters make up: one whose parts are those of the first and then the
second. -/
def pair? (a b : Char) : Option Char :=
  match syllable? a b with
  | some s => some s
  | none => (composites.find? fun e => e.2 == parts a ++ [b]).map (·.1)

/-- Puts what follows a character together with it, where nothing stands between: `held` are the
marks that stay behind the character, and `last` is the class of the last of them. -/
def composeFrom (base : Char) (held : List Char) (last : Nat) : List Char → List Char
  | [] => base :: held
  | c :: cs =>
    let k := combiningClass c
    match if held.isEmpty || last < k then pair? base c else none with
    | some d => composeFrom d held last cs
    | none =>
      if k = 0 then base :: held ++ composeFrom c [] 0 cs
      else composeFrom base (held ++ [c]) k cs

/-- The composed form of a text. -/
def compose (cs : List Char) : List Char :=
  match decompose cs with
  | [] => []
  | c :: cs => composeFrom c [] 0 cs

end PipelineSync.Url.Domain
