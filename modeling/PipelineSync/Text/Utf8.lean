/-!
# Text from bytes

The text that bytes hold in UTF-8, with one replacement character for every part that is no text.
A part ends where the next byte can no longer belong to it.
-/

namespace PipelineSync.Text.Utf8

/-- A character that is not complete: the value so far, the number of bytes that are missing, and
the bounds of the next of them. -/
structure Pending where
  value : Nat
  missing : Nat
  low : Nat := 0x80
  high : Nat := 0xBF
deriving DecidableEq, Repr

/-- What stands for bytes that are no text. -/
def replacement : Char := '\uFFFD'

/-- Begins with a byte. -/
def start (b : Nat) : Option Pending × List Char :=
  if b < 0x80 then (none, [Char.ofNat b])
  else if 0xC2 ≤ b ∧ b ≤ 0xDF then (some { value := b % 32, missing := 1 }, [])
  else if b = 0xE0 then (some { value := 0, missing := 2, low := 0xA0 }, [])
  else if b = 0xED then (some { value := 0xD, missing := 2, high := 0x9F }, [])
  else if 0xE1 ≤ b ∧ b ≤ 0xEF then (some { value := b % 16, missing := 2 }, [])
  else if b = 0xF0 then (some { value := 0, missing := 3, low := 0x90 }, [])
  else if 0xF1 ≤ b ∧ b ≤ 0xF3 then (some { value := b % 8, missing := 3 }, [])
  else if b = 0xF4 then (some { value := 4, missing := 3, high := 0x8F }, [])
  else (none, [replacement])

/-- Goes on with a byte. -/
def step : Option Pending → Nat → Option Pending × List Char
  | none, b => start b
  | some p, b =>
    if p.low ≤ b ∧ b ≤ p.high then
      let value := p.value * 64 + b % 64
      if p.missing = 1 then (none, [Char.ofNat value])
      else (some { value, missing := p.missing - 1 }, [])
    else
      let (pending, cs) := start b
      (pending, replacement :: cs)

/-- The characters from here to the end. -/
def decodeFrom (pending : Option Pending) : List UInt8 → List Char
  | [] => if pending.isSome then [replacement] else []
  | b :: rest =>
    let (pending, cs) := step pending b.toNat
    cs ++ decodeFrom pending rest

/-- The text that bytes hold. -/
def decode (bytes : List UInt8) : String :=
  String.ofList (decodeFrom none bytes)

end PipelineSync.Text.Utf8
