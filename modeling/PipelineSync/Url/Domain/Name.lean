import PipelineSync.Url.Domain.Composition
import PipelineSync.Url.Domain.Direction
import PipelineSync.Url.Domain.Form
import PipelineSync.Url.Domain.Joiner
import PipelineSync.Url.Punycode

/-!
# Domain names

A domain name is looked up in ASCII: all characters in their plain forms, composed, and each label
that holds more than ASCII in Punycode behind `xn--`. `Domain.ascii?` gives this form, after UTS 46,
unless the name breaks a rule. A label that is in Punycode already has to be one that would be
written so.
-/

namespace PipelineSync.Url.Domain

/-- Whether all characters are ASCII. -/
def isAscii (cs : List Char) : Bool :=
  cs.all (·.toNat < 0x80)

/-- The plain forms of the characters of a name, composed. -/
def plain? (cs : List Char) : Option (List Char) :=
  (cs.mapM form?).map fun forms => compose forms.flatten

/-- How the names of labels in Punycode start. -/
def codedFront : List Char := "xn--".toList

/-- The characters of a label, which may be in Punycode. Labels that are too long to be read are
refused. -/
def readLabel? (label : List Char) : Option (List Char) :=
  match Text.dropAffix? codedFront label with
  | none => some label
  | some code => do
    guard (isAscii code && code.length ≤ 2000)
    let decoded ← Punycode.decode? code
    guard (!isAscii decoded && plain? decoded == some decoded)
    return decoded

/-- A label in ASCII. Labels that are too long to be written in Punycode are refused. -/
def writeLabel? (label : List Char) : Option (List Char) :=
  if isAscii label then some label
  else if label.length ≤ 1000 then some (codedFront ++ Punycode.encode label)
  else none

/-- Characters that no domain name holds. -/
def isForbidden (c : Char) : Bool :=
  c.toNat ≤ 0x20 || c.toNat == 0x7F || "%#/:<>?@[\\]^|".toList.contains c

/-- A domain name in ASCII. -/
def ascii? (name : List Char) : Option (List Char) := do
  let labels ← (Text.splitAt (· == '.') (← plain? name)).mapM readLabel?
  guard (labels.all fun label => !label.head?.any isMark && joinersFit label)
  guard (!labels.any runsLeft || labels.all hasFirmDirection)
  let domain := List.intercalate ['.'] (← labels.mapM writeLabel?)
  guard (!domain.isEmpty && !domain.any isForbidden)
  return domain

end PipelineSync.Url.Domain
