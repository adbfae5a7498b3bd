import PipelineSync.Text.Hexadecimal

/-!
# Percent encoding

A character outside the set a URL component admits is written as its UTF-8 bytes, each as `%` and
two uppercase hexadecimal digits. The sets grow from one component to the next.
-/

namespace PipelineSync.Url

/-- A set of characters that a component of a URL does not hold as they are. -/
abbrev EncodeSet := Char → Bool

/-- Control characters and everything outside ASCII. -/
def controlSet : EncodeSet := fun c => c.toNat < 0x20 || 0x7E < c.toNat

/-- What a fragment encodes. -/
def fragmentSet : EncodeSet := fun c => controlSet c || " \"<>`".toList.contains c

/-- What a query encodes. -/
def querySet : EncodeSet := fun c => controlSet c || " \"#<>".toList.contains c

/-- What the query of a special scheme encodes. -/
def specialQuerySet : EncodeSet := fun c => querySet c || c == '\''

/-- What a path encodes. -/
def pathSet : EncodeSet := fun c => fragmentSet c || "#?\x7b\x7d".toList.contains c

/-- What a user name or a password encodes. -/
def userinfoSet : EncodeSet := fun c => pathSet c || "/:;=@[\\]^|".toList.contains c

/-- A byte as `%` and two digits. -/
def percentByte (b : UInt8) : List Char :=
  ['%', (Text.hexDigit (b.toNat / 16)).toUpper, (Text.hexDigit (b.toNat % 16)).toUpper]

/-- A character in its encoded form. -/
def percentChar (c : Char) : List Char :=
  (String.singleton c).toUTF8.toList.flatMap percentByte

/-- Encodes the characters of a set and keeps the others. -/
def encode (set : EncodeSet) (cs : List Char) : List Char :=
  cs.flatMap fun c => if set c then percentChar c else [c]

/-- The bytes of a text in which `%` and two hexadecimal digits stand for a byte. -/
def decodeBytes : List Char → List UInt8
  | '%' :: a :: b :: rest =>
    match Text.hexValue? a, Text.hexValue? b with
    | some x, some y => (16 * x + y).toUInt8 :: decodeBytes rest
    | _, _ => 0x25 :: decodeBytes (a :: b :: rest)
  | c :: rest => (String.singleton c).toUTF8.toList ++ decodeBytes rest
  | [] => []

end PipelineSync.Url
