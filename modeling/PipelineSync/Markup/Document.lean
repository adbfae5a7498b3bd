import PipelineSync.Error
import PipelineSync.Markup.Element
import PipelineSync.Markup.Token

/-!
# Documents

`loadDocument` makes a tree of elements out of the tokens of a text. Names are resolved in their
namespaces: an end tag has to have the name of the element it ends, whatever the qualifiers, and
only attributes outside any namespace belong to the vocabulary. References in text and in attribute
values are replaced by the characters they stand for.

A fault has a wording and a place, and is reported with the line of the place.
-/

namespace PipelineSync.Markup

/-- What can be wrong with a document. -/
inductive Fault where
  /-- The text breaks the rules for tokens. -/
  | badToken
  | unclosedTag
  | badEndTag (name : QName)
  | unclosedReference (rest : List Char)
  | unknownReference (name : List Char)
  | unknownQualifier (qualifier : List Char)
  | duplicateAttribute (name : QName)
  | unsupportedVersion (version : List Char)
  | doctype
  | noRoot
  | duplicateId (id : List Char)

/-- The wording of a fault. -/
def Fault.text : Fault → String
  | badToken => "Parser error"
  | unclosedTag => "Unclosed tag"
  | badEndTag name =>
    "Invalid close tag: " ++ String.ofList name.qualifier ++ " " ++ String.ofList name.local_
  | unclosedReference rest => "Unclosed entity: " ++ String.ofList rest
  | unknownReference name => "Invalid entity: " ++ String.ofList name
  | unknownQualifier qualifier => "Unknown prefix: " ++ String.ofList qualifier
  | duplicateAttribute name =>
    "Duplicate attribute: "
      ++ (if name.qualifier.isEmpty then "" else String.ofList name.qualifier ++ ":")
      ++ String.ofList name.local_
  | unsupportedVersion version => "Unsupported version: " ++ String.ofList version
  | doctype => "DTD is not supported"
  | noRoot => "No element at top level"
  | duplicateId id => "Duplicate xml:id: " ++ String.ofList id

/-- A fault and its place. -/
abbrev Failure := Fault × Place

/-! ## References -/

/-- The number that digits of a base stand for. A sign in front is allowed. -/
def codePoint? (base : Nat) (cs : List Char) : Option Nat :=
  let digits := match cs with
    | '+' :: rest => rest
    | _ => cs
  if digits.isEmpty then none
  else digits.foldlM (fun n c =>
    let value :=
      if c.isDigit then c.toNat - 0x30
      else if 'a' ≤ c && c ≤ 'f' then c.toNat - 0x57
      else if 'A' ≤ c && c ≤ 'F' then c.toNat - 0x37
      else base
    if value < base then some (base * n + value) else none) 0

/-- The character with a number. -/
def charOfCode? (n : Nat) : Option Char :=
  if n.isValidChar then some (.ofNat n) else none

/-- The character that a reference stands for, by what is between its `&` and `;`. -/
def resolveReference (name : List Char) : Except Fault Char :=
  let numbered (digits : List Char) (n : Option Nat) : Except Fault Char :=
    match n.bind charOfCode? with
    | some c => .ok c
    | none => .error (.unknownReference digits)
  match name with
  | '#' :: 'x' :: digits => numbered ('x' :: digits) (codePoint? 16 digits)
  | '#' :: digits => numbered digits (codePoint? 10 digits)
  | _ =>
    if name == "amp".toList then .ok '&'
    else if name == "lt".toList then .ok '<'
    else if name == "gt".toList then .ok '>'
    else if name == "quot".toList then .ok '"'
    else if name == "apos".toList then .ok '\''
    else .error (.unknownReference name)

/-- How line ends and other white space of raw text are taken: in text each line end is a line
feed, in attribute values each is a blank, and so is a tab. -/
def blankOut (inAttribute : Bool) : List Char → List Char
  | '\r' :: '\n' :: rest => (if inAttribute then ' ' else '\n') :: blankOut inAttribute rest
  | c :: rest =>
    (if c == '\r' || c == '\n' then (if inAttribute then ' ' else '\n')
      else if c == '\t' && inAttribute then ' '
      else c) :: blankOut inAttribute rest
  | [] => []

/-- Raw text up to the first reference, the name of the reference, and the raw text behind it. -/
def splitReference (raw : List Char) : List Char × Option (List Char × List Char) :=
  let front := raw.takeWhile (· != '&')
  match raw.dropWhile (· != '&') with
  | [] => (front, none)
  | _ :: rest => (front, some (rest.takeWhile (· != ';'), rest.dropWhile (· != ';')))

/-- Raw text with its references replaced. `place` is where the raw text starts; the length of the
raw text bounds the number of references. -/
def expandFrom (inAttribute : Bool) : Nat → List Char → Place → Except Failure (List Char)
  | 0, _, _ => .ok []
  | fuel + 1, raw, place =>
    let (front, reference) := splitReference raw
    let text := blankOut inAttribute front
    match reference with
    | none => .ok text
    | some (name, behind) =>
      let here := place.drop front.length
      match behind with
      | [] => .error (.unclosedReference name, here)
      | _ :: rest =>
        match resolveReference name with
        | .error fault => .error (fault, here)
        | .ok c => do
          let more ← expandFrom inAttribute fuel rest (here.drop (name.length + 2))
          return text ++ c :: more

/-- Raw text with its references replaced and its line ends in one form. -/
def expand (inAttribute : Bool) (raw : List Char) (place : Place) : Except Failure (List Char) :=
  expandFrom inAttribute (raw.length + 1) raw place

/-! ## Namespaces -/

/-- Namespaces by qualifier, the innermost first. -/
abbrev Bindings := List (List Char × List Char)

/-- The namespace of the qualifier `xml`, which is always bound. -/
def xmlNamespace : List Char := "http://www.w3.org/XML/1998/namespace".toList

/-- A name in its namespace, which is empty if it is in none. -/
structure ExpandedName where
  space : List Char
  local_ : List Char
deriving DecidableEq

/-- The namespace of a qualifier. -/
def namespace? (bindings : Bindings) (qualifier : List Char) : Option (List Char) :=
  if qualifier == "xml".toList then some xmlNamespace else bindings.lookup qualifier

/-- The name of an element. Without a qualifier it is in the default namespace. -/
def elementName (bindings : Bindings) (name : QName) (place : Place) :
    Except Failure ExpandedName :=
  match namespace? bindings name.qualifier with
  | some space => .ok ⟨space, name.local_⟩
  | none =>
    if name.qualifier.isEmpty then .ok ⟨[], name.local_⟩
    else .error (.unknownQualifier name.qualifier, place)

/-- The name of an attribute. Without a qualifier it is in no namespace. -/
def attributeName (bindings : Bindings) (name : QName) (place : Place) :
    Except Failure ExpandedName :=
  if name.qualifier.isEmpty then .ok ⟨[], name.local_⟩ else elementName bindings name place

/-! ## The tree -/

/-- A node below an element. -/
inductive Node where
  | element (e : Element)
  | text (cs : List Char)
  /-- A comment or a processing instruction. -/
  | aside

/-- An attribute of a start tag, with its value expanded. -/
structure Attribute where
  name : QName
  place : Place
  value : List Char
  valuePlace : Place

/-- A start tag of which the end is not reached. -/
structure OpenTag where
  name : QName
  place : Place
  /-- The namespaces that the tag declares, the last first. -/
  declared : Bindings := []
  /-- The attributes, the last first. -/
  attributes : List Attribute := []

/-- An element of which the end tag is not reached. -/
structure OpenElement where
  name : ExpandedName
  place : Place
  bindings : Bindings
  attributes : List (String × String)
  /-- The nodes below the element, the last first. -/
  nodes : List Node := []

/-- The tree as far as the tokens have been taken in. -/
structure Builder where
  /-- The elements that are open, the innermost first. -/
  opened : List OpenElement := []
  tag : Option OpenTag := none
  root : Option Element := none
  /-- The identifiers that elements have. -/
  ids : List (List Char) := []

namespace Builder

/-- Puts a node behind others. Text behind text joins it. -/
def pushNode (node : Node) : List Node → List Node
  | .text front :: rest =>
    match node with
    | .text cs => .text (front ++ cs) :: rest
    | _ => node :: .text front :: rest
  | nodes => node :: nodes

/-- Puts a node below the innermost open element. -/
def addNode (b : Builder) (node : Node) : Builder :=
  match b.opened with
  | [] => b
  | e :: rest => { b with opened := { e with nodes := pushNode node e.nodes } :: rest }

/-- An element with all its nodes. -/
def finish (e : OpenElement) : Element where
  name := String.ofList e.name.local_
  attributes := e.attributes
  children := e.nodes.reverse.filterMap fun
    | .element child => some child
    | _ => none
  text := match e.nodes with
    | [] => some ""
    | [.text cs] => some (Text.trim (String.ofList cs))
    | _ => none

/-- Ends the innermost open element. -/
def close (b : Builder) : Builder :=
  match b.opened with
  | [] => b
  | [e] => { b with opened := [], root := some (finish e) }
  | e :: rest => { b with opened := rest }.addNode (.element (finish e))

/-- The namespaces in effect at the innermost open element. -/
def bindings (b : Builder) : Bindings :=
  match b.opened with
  | [] => []
  | e :: _ => e.bindings

/-- An identifier without white space around it, and with single blanks in it. -/
def normalizeId (value : List Char) : List Char :=
  List.intercalate [' '] (Text.runsWithout (· == ' ') value)

/-- Takes in the attributes of a start tag, in their order: the values of the vocabulary, and the
identifiers of the document. -/
def takeAttributes (bindings : Bindings) :
    List Attribute → List (String × String) × List (List Char) →
      Except Failure (List (String × String) × List (List Char))
  | [], taken => .ok taken
  | a :: rest, (values, ids) => do
    let name ← attributeName bindings a.name a.place
    if name = ⟨xmlNamespace, "id".toList⟩ then
      let id := normalizeId a.value
      if ids.contains id then .error (.duplicateId id, a.valuePlace)
      else takeAttributes bindings rest (values, id :: ids)
    else
      let key := String.ofList name.local_
      if name.space.isEmpty && Element.attributeNames.contains key then
        let kept := values.filter fun v => v.1 != key
        takeAttributes bindings rest (kept ++ [(key, String.ofList a.value)], ids)
      else takeAttributes bindings rest (values, ids)

/-- Opens the element of a start tag that is complete. -/
def openElement (b : Builder) (tag : OpenTag) : Except Failure Builder := do
  let bindings := tag.declared ++ b.bindings
  let name ← elementName bindings tag.name tag.place
  let (values, ids) ← takeAttributes bindings tag.attributes.reverse ([], b.ids)
  return { b with
    tag := none
    ids
    opened := { name, place := tag.place, bindings, attributes := values } :: b.opened }

/-- Adds an attribute to a start tag. -/
def addAttribute (tag : OpenTag) (name : QName) (place : Place) (value : List Char)
    (valuePlace : Place) : Except Failure OpenTag :=
  if name.qualifier == "xmlns".toList then
    .ok { tag with declared := (name.local_, value) :: tag.declared }
  else if name.local_ == "xmlns".toList then
    .ok { tag with declared := ([], value) :: tag.declared }
  else if tag.attributes.any fun a => a.name == name then
    .error (.duplicateAttribute name, place)
  else do
    let expanded ← expand true value valuePlace
    return { tag with attributes := ⟨name, place, expanded, valuePlace⟩ :: tag.attributes }

/-- Takes in a token. -/
def step (b : Builder) : Token → Except Failure Builder
  | .declaration version place =>
    if version == "1.0".toList then .ok b else .error (.unsupportedVersion version, place)
  | .doctype place => .error (.doctype, place)
  | .aside => .ok (b.addNode .aside)
  | .text raw place => do return b.addNode (.text (← expand false raw place))
  | .literalText raw => .ok (b.addNode (.text (blankOut false raw)))
  | .tagStart name place => .ok { b with tag := some { name, place } }
  | .attribute name place value valuePlace =>
    match b.tag with
    | some tag => do
      return { b with tag := some (← addAttribute tag name place value valuePlace) }
    | none => .ok b
  | .tagEnd empty =>
    match b.tag with
    | some tag => do
      let b ← b.openElement tag
      return if empty then b.close else b
    | none => .ok b
  | .endTag name place => do
    let resolved ← elementName b.bindings name place
    match b.opened with
    | e :: _ => if e.name = resolved then return b.close else .error (.badEndTag name, place)
    | [] => .error (.badEndTag name, place)

end Builder

/-- The tree of a text. -/
def loadTree (text : List Char) : Except Failure Element := do
  let (tokens, broken) := Token.scan text
  let b ← tokens.foldlM Builder.step {}
  match broken with
  | some place => .error (.badToken, place)
  | none =>
    match b.opened, b.root with
    | e :: _, _ => .error (.unclosedTag, e.place)
    | [], some root => .ok root
    | [], none => .error (.noRoot, [])

/-- The line of a place, counted from 1. -/
def lineOf (text : List Char) (place : Place) : Nat :=
  1 + (text.count '\n' - place.count '\n')

/-- The tree of the text of a file. -/
def loadDocument (file text : String) : Except Error Element :=
  (loadTree text.toList).mapError fun (fault, place) =>
    .malformedDocument file (some (lineOf text.toList place)) fault.text

end PipelineSync.Markup
