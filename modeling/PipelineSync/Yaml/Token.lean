import PipelineSync.Text.Utf8
import PipelineSync.Yaml.Fault
import PipelineSync.Yaml.Scalar.Quoted

/-!
# YAML tokens

The tokens of a YAML text, and the reading of those that are no scalars: anchors, tags and
directives.
-/

namespace PipelineSync.Yaml

/-- A token. -/
inductive Token where
  | versionDirective (major minor : Nat)
  | tagDirective (handle lead : String)
  | documentStart
  | documentEnd
  | blockSequenceStart
  | blockMappingStart
  | blockEnd
  | flowSequenceStart
  | flowSequenceEnd
  | flowMappingStart
  | flowMappingEnd
  | blockEntry
  | flowEntry
  | key
  | value
  | reference (name : String)
  | anchor (name : String)
  | tag (handle suffix : String)
  | scalar (text : String) (isPlain : Bool)
  | streamEnd
deriving DecidableEq, Repr

/-- A token with its place. -/
structure Lexeme where
  token : Token
  start : Mark
  stop : Mark
deriving DecidableEq, Repr

/-! ## Anchors -/

/-- The characters that may follow an anchor without a gap. -/
def mayFollowAnchor (c : Char) : Bool :=
  ['?', ':', ',', ']', '\x7d', '%', '@', '\x60'].contains c

/-- The name behind the sign of an anchor or an alias. -/
def anchorName (context : Context) (c : Cursor) : Except Fault (String × Cursor) := do
  let (name, behind) := (c.advance 1).span isWordChar
  if name.isEmpty || !(gapAhead behind.rest || behind.next?.any mayFollowAnchor) then
    throw (.within context c.mark .anchorName behind.mark)
  return (.ofList name, behind)

/-! ## Tags -/

/-- The characters of a tag. Brackets and commas are among them only if the tag is written in
full. -/
def isTagChar (isVerbatim : Bool) (c : Char) : Bool :=
  isWordChar c || ";/?:@&=+$.%!~*'()".toList.contains c
    || (isVerbatim && [',', '[', ']'].contains c)

/-- How many octets follow a first octet of a character. -/
def trailingOctets? (octet : Nat) : Option Nat :=
  if octet < 0x80 then some 0
  else if 0xC0 ≤ octet && octet < 0xE0 then some 1
  else if 0xE0 ≤ octet && octet < 0xF0 then some 2
  else if 0xF0 ≤ octet && octet < 0xF8 then some 3
  else none

/-- The octets of a tag, in which a percent sign and two digits stand for an octet; `pending` more
of them belong to the character that is being read. -/
def tagOctets (context : Context) (start : Mark) (isVerbatim : Bool) (pending : Nat) (mark : Mark) :
    List Char → Except Fault (List UInt8 × Cursor)
  | '%' :: a :: b :: cs =>
    let next := ((mark.after '%').after a).after b
    match Text.hexValue? a, Text.hexValue? b with
    | some high, some low =>
      let octet := high * 16 + low
      if pending = 0 then
        match trailingOctets? octet with
        | some n => do
          let (more, c) ← tagOctets context start isVerbatim n next cs
          return (octet.toUInt8 :: more, c)
        | none => .error (.within context start .leadingOctet mark)
      else if octet / 0x40 = 2 then do
        let (more, c) ← tagOctets context start isVerbatim (pending - 1) next cs
        return (octet.toUInt8 :: more, c)
      else .error (.within context start .trailingOctet mark)
    | _, _ => .error (.within context start .uriOctet mark)
  | c :: cs =>
    if pending ≠ 0 || c == '%' then .error (.within context start .uriOctet mark)
    else if isTagChar isVerbatim c then do
      let (more, last) ← tagOctets context start isVerbatim 0 (mark.after c) cs
      return (c.toNat.toUInt8 :: more, last)
    else .ok ([], ⟨c :: cs, mark⟩)
  | [] =>
    if pending ≠ 0 then .error (.within context start .uriOctet mark) else .ok ([], ⟨[], mark⟩)

/-- The text of a tag. -/
def tagText (context : Context) (start : Mark) (isVerbatim : Bool) (c : Cursor) :
    Except Fault (String × Cursor) := do
  let (octets, behind) ← tagOctets context start isVerbatim 0 c.mark c.rest
  return (Text.Utf8.decode octets, behind)

/-- Text that is not empty. -/
def fullTagText (context : Context) (start : Mark) (isVerbatim : Bool) (c : Cursor) :
    Except Fault (String × Cursor) := do
  let (text, behind) ← tagText context start isVerbatim c
  if text.isEmpty then throw (.within context start .tagUri behind.mark)
  return (text, behind)

/-- A handle: an exclamation mark, and if it has a name the name and another one. What only starts
like a handle is the first part of a tag. -/
def handle (c : Cursor) : List Char × Cursor :=
  let (name, behind) := (c.advance 1).span isWordChar
  if behind.isAt '!' then ('!' :: name ++ ['!'], behind.advance 1) else ('!' :: name, behind)

/-- Whether a handle has its second exclamation mark. -/
def isFullHandle (cs : List Char) : Bool :=
  1 < cs.length && cs.getLast? == some '!'

/-- The handle and the suffix of a tag. -/
def tagParts (c : Cursor) : Except Fault (String × String × Cursor) := do
  let start := c.mark
  if c.rest.take 2 == ['!', '<'] then
    let (suffix, behind) ← fullTagText .tagText start true (c.advance 2)
    if !behind.isAt '>' then throw (.within .tag start .tagClose behind.mark)
    return ("", suffix, behind.advance 1)
  let (lead, behind) := handle c
  if isFullHandle lead then
    let (suffix, behind) ← fullTagText .tagText start false behind
    return (.ofList lead, suffix, behind)
  let (more, behind) ← tagText .tagText start false behind
  let suffix := String.ofList (lead.drop 1) ++ more
  return if suffix.isEmpty then ("", "!", behind) else ("!", suffix, behind)

/-- A tag, which ends in front of a gap, or in a flow collection in front of a comma. -/
def tag (inFlow : Bool) (c : Cursor) : Except Fault (String × String × Cursor) := do
  let (handle, suffix, behind) ← tagParts c
  if !(inFlow && behind.isAt ',') && !gapAhead behind.rest then
    throw (.within .tag c.mark .tagEnd behind.mark)
  return (handle, suffix, behind)

/-! ## Directives -/

/-- A number of a version. -/
def versionNumber (start : Mark) (c : Cursor) : Except Fault (Nat × Cursor) := do
  let (digits, behind) := c.span Char.isDigit
  if digits.isEmpty then throw (.within .versionDirective start .versionNumber c.mark)
  if 9 < digits.length then
    throw (.within .versionDirective start .longVersionNumber (c.advance 9).mark)
  return (digits.foldl (fun n d => n * 10 + (d.toNat - '0'.toNat)) 0, behind)

/-- What follows the name of the directive for the version. -/
def versionDirective (start : Mark) (c : Cursor) : Except Fault (Token × Cursor) := do
  let (major, c) ← versionNumber start (c.skip isBlank)
  if !c.isAt '.' then throw (.within .versionDirective start .versionPoint c.mark)
  let (minor, c) ← versionNumber start (c.advance 1)
  return (.versionDirective major minor, c)

/-- What follows the name of the directive for a handle. -/
def tagDirective (start : Mark) (c : Cursor) : Except Fault (Token × Cursor) := do
  let c := c.skip isBlank
  if !c.isAt '!' then throw (.within .tagDirectiveStart start .tagStart c.mark)
  let (name, c) := handle c
  if 1 < name.length && !isFullHandle name then
    throw (.within .tagDirectiveHandle start .tagStart c.mark)
  if !c.next?.any isBlank then throw (.within .tagDirective start .tagDirectiveGap c.mark)
  let (lead, c) ← fullTagText .tagDirectiveText start true (c.skip isBlank)
  if !gapAhead c.rest then throw (.within .tagDirective start .tagEnd c.mark)
  return (.tagDirective (.ofList name) lead, c)

/-- A directive up to the end of its line. The second part is the cursor behind the directive, the
third the one behind the line. -/
def directive (c : Cursor) : Except Fault (Token × Cursor × Cursor) := do
  let start := c.mark
  let (name, behind) := (c.advance 1).span isWordChar
  if name.isEmpty then throw (.within .directive start .directiveName behind.mark)
  if !gapAhead behind.rest then throw (.within .directive start .directiveNameEnd behind.mark)
  let (token, last) ← match String.ofList name with
    | "YAML" => versionDirective start behind
    | "TAG" => tagDirective start behind
    | _ => throw (.within .directive start .unknownDirective behind.mark)
  let lineEnd := (last.skip isBlank).skipComment
  if !(lineEnd.rest.head?.all isBreak) then throw (.within .directive start .lineEnd lineEnd.mark)
  return (token, last, lineEnd.advance 1)

end PipelineSync.Yaml
