/-!
# Hexadecimal digits

Digits of base sixteen and the numbers that they write. Letters are read in both cases and written in
lower case; `hexValue?_hexDigit` says that a digit that is written is read back.
-/

namespace PipelineSync.Text

/-- The value of a digit. -/
def hexValue? (c : Char) : Option Nat :=
  if c.isDigit then some (c.toNat - '0'.toNat)
  else if 'a' ≤ c && c ≤ 'f' then some (c.toNat - 'a'.toNat + 10)
  else if 'A' ≤ c && c ≤ 'F' then some (c.toNat - 'A'.toNat + 10)
  else none

/-- The digit of a number below 16. -/
def hexDigit (n : Nat) : Char :=
  if n < 10 then Char.ofNat ('0'.toNat + n) else Char.ofNat ('a'.toNat + (n - 10))

/-- The number that digits write; none of them write zero. -/
def hexNumber? (cs : List Char) : Option Nat :=
  cs.foldlM (fun n c => (hexValue? c).map (16 * n + ·)) 0

theorem hexValue?_hexDigit {n : Nat} (h : n < 16) : hexValue? (hexDigit n) = some n := by
  have key : ∀ m ∈ List.range 16, hexValue? (hexDigit m) = some m := by decide
  exact key n (List.mem_range.2 h)

/-- Digits are decimal digits and the letters `a` to `f`. -/
theorem hexDigit_mem {n : Nat} (h : n < 16) : hexDigit n ∈ "0123456789abcdef".toList := by
  have key : ∀ m ∈ List.range 16, hexDigit m ∈ "0123456789abcdef".toList := by decide
  exact key n (List.mem_range.2 h)

end PipelineSync.Text
