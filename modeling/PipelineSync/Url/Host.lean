import PipelineSync.Text.Split
import PipelineSync.Url.Domain.Name
import PipelineSync.Url.Percent

/-!
# Hosts

The host of a URL is an IPv6 address in brackets, an IPv4 address, a domain name or, for schemes
that give hosts no structure, opaque text. `readHost?` checks a host and gives its normal form:
addresses in their shortest form, domain names in lower case and in ASCII.
-/

namespace PipelineSync.Url

/-- The value of a nonempty text of digits in the given base. -/
def numeral? (base : Nat) (cs : List Char) : Option Nat :=
  if cs.isEmpty then none
  else cs.foldlM (fun n c => do
    let d ← Text.hexValue? c
    if d < base then some (base * n + d) else none) 0

/-- A nonnegative number in decimal digits. -/
def decimal (n : Nat) : List Char := Nat.toDigits 10 n

/-! ## IPv4 -/

/-- A part of an IPv4 address: decimal, octal behind `0`, hexadecimal behind `0x`. -/
def ipv4Part? : List Char → Option Nat
  | [] => none
  | '0' :: 'x' :: cs | '0' :: 'X' :: cs => if cs.isEmpty then some 0 else numeral? 16 cs
  | '0' :: c :: cs => numeral? 8 (c :: cs)
  | cs => numeral? 10 cs

/-- Whether the last part of a domain, an empty one behind a final dot left out, is a number. Such
a domain has to be an IPv4 address. -/
def endsInNumber (domain : List Char) : Bool :=
  match (Text.splitAt (· == '.') domain).reverse with
  | [] :: last :: _ => isNumber last
  | [] :: [] => false
  | last :: _ => isNumber last
  | [] => false
where
  /-- All digits, or readable as a part. -/
  isNumber (part : List Char) : Bool :=
    (!part.isEmpty && part.all Char.isDigit) || (ipv4Part? part).isSome

/-- An IPv4 address as a number. The last part fills the bytes that the others leave. -/
def ipv4Value? (domain : List Char) : Option Nat := do
  let parts := Text.splitAt (· == '.') domain
  let parts := if parts.getLast? == some [] then parts.dropLast else parts
  guard (parts.length ≤ 4)
  let numbers ← parts.mapM ipv4Part?
  let last ← numbers.getLast?
  let front := numbers.dropLast
  guard (front.all (· ≤ 255) && last < Nat.pow 256 (4 - front.length))
  return front.zipIdx.foldl (fun sum (n, i) => sum + n * Nat.pow 256 (3 - i)) last

/-- Four decimal numbers with dots between them. -/
def ipv4Text (n : Nat) : List Char :=
  let byte i := decimal (n / Nat.pow 256 i % 256)
  byte 3 ++ '.' :: byte 2 ++ '.' :: byte 1 ++ '.' :: byte 0

/-! ## IPv6 -/

/-- An IPv4 address at the end of an IPv6 address: four decimal numbers without leading zeros. -/
def trailingIpv4? (cs : List Char) : Option (List Nat) := do
  let parts := Text.splitAt (· == '.') cs
  guard (parts.length == 4)
  let bytes ← parts.mapM fun part => do
    guard (part.length ≤ 3 && (part.length == 1 || part.head? != some '0') &&
      part.all Char.isDigit)
    let n ← numeral? 10 part
    guard (n ≤ 255)
    return n
  match bytes with
  | [a, b, c, d] => some [256 * a + b, 256 * c + d]
  | _ => none

/-- The pieces of an address between its colons. Only the last may be an IPv4 address. -/
def ipv6Pieces? : List (List Char) → Option (List Nat)
  | [] => some []
  | [last] => if last.contains '.' then trailingIpv4? last else piece last
  | part :: parts => do return (← piece part) ++ (← ipv6Pieces? parts)
where
  /-- One to four hexadecimal digits. -/
  piece (part : List Char) : Option (List Nat) := do
    guard (part.length ≤ 4)
    return [← numeral? 16 part]

/-- The text around the first `::`. -/
def splitDoubleColon? : List Char → Option (List Char × List Char)
  | ':' :: ':' :: rest => some ([], rest)
  | c :: rest => (splitDoubleColon? rest).map fun (a, b) => (c :: a, b)
  | [] => none

/-- The pieces of the part of an address in front of or behind `::`. -/
def ipv6Side? (cs : List Char) : Option (List Nat) :=
  if cs.isEmpty then some [] else ipv6Pieces? (Text.splitAt (· == ':') cs)

/-- The eight pieces of an address. A `::` stands for the zeros that are missing, at least one. -/
def ipv6Value? (cs : List Char) : Option (List Nat) :=
  match splitDoubleColon? cs with
  | none => do
    let pieces ← ipv6Pieces? (Text.splitAt (· == ':') cs)
    guard (pieces.length == 8)
    return pieces
  | some (front, back) => do
    guard (!front.contains '.')
    let a ← ipv6Side? front
    let b ← ipv6Side? back
    guard (a.length + b.length ≤ 7)
    return a ++ List.replicate (8 - a.length - b.length) 0 ++ b

/-- The start and the length of the first longest run of zeros. -/
def longestZeros (pieces : List Nat) : Nat × Nat :=
  let run i := ((pieces.drop i).takeWhile (· == 0)).length
  (List.range pieces.length).foldl (fun best i => if best.2 < run i then (i, run i) else best) (0, 0)

/-- An address with its first longest run of two or more zeros written as `::`. -/
def ipv6Text (pieces : List Nat) : List Char :=
  let write ps := List.intercalate [':'] (ps.map (Nat.toDigits 16))
  let (start, len) := longestZeros pieces
  if len < 2 then write pieces
  else write (pieces.take start) ++ [':', ':'] ++ write (pieces.drop (start + len))

/-! ## Any host -/

/-- Characters that no opaque host holds. -/
def isForbiddenInHost (c : Char) : Bool :=
  "\x00\t\n\r #/:<>?@[\\]^|".toList.contains c

/-- The normal form of a host. In a special scheme a host outside brackets is a domain name or an
IPv4 address, in others it is opaque. -/
def readHost? (special : Bool) (cs : List Char) : Option (List Char) :=
  if cs.head? == some '[' then do
    guard (1 < cs.length && cs.getLast? == some ']')
    let pieces ← ipv6Value? cs.tail.dropLast
    return '[' :: ipv6Text pieces ++ [']']
  else if special then do
    let name ← String.fromUTF8? (ByteArray.mk (decodeBytes cs).toArray)
    let domain ← Domain.ascii? name.toList
    if endsInNumber domain then return ipv4Text (← ipv4Value? domain) else return domain
  else if cs.any isForbiddenInHost then none
  else some (encode controlSet cs)

end PipelineSync.Url
