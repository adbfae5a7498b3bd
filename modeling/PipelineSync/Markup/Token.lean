import PipelineSync.Text.Split

/-!
# Tokens of markup

The pieces that a document consists of: start tags and their attributes, end tags, runs of text,
comments, processing instructions and declarations. `Token.scan` cuts a text into tokens. It stops
at the first place where the text is not well-formed, and remembers the place.

A place in a text is the text from there on. The scanner knows where a document may hold what: a
declaration only at its start, elements and text only inside the root element, and around it only
comments, instructions and white space.
-/

namespace PipelineSync.Markup

/-- A place in a text, by what follows it. -/
abbrev Place := List Char

/-- A name with the qualifier in front of its colon, which is empty if there is none. -/
structure QName where
  qualifier : List Char
  local_ : List Char
deriving DecidableEq, Repr

/-- A piece of a document. -/
inductive Token where
  /-- A declaration, by the version that it states. -/
  | declaration (version : List Char) (place : Place)
  | doctype (place : Place)
  /-- A comment or a processing instruction. -/
  | aside
  /-- Text as it is written, with references in it. -/
  | text (raw : List Char) (place : Place)
  /-- Text that stands for itself. -/
  | literalText (raw : List Char)
  /-- The start of a tag up to its name. -/
  | tagStart (name : QName) (place : Place)
  /-- An attribute with its value as it is written. -/
  | attribute (name : QName) (place : Place) (value : List Char) (valuePlace : Place)
  /-- The end of a start tag, of an element with content or without. -/
  | tagEnd (empty : Bool)
  | endTag (name : QName) (place : Place)

namespace Token

/-! ## Characters -/

/-- White space between the parts of a tag. -/
def isSpace (c : Char) : Bool :=
  c == ' ' || c == '\t' || c == '\n' || c == '\r'

/-- Characters that a document may hold. -/
def isAllowed (c : Char) : Bool :=
  let n := c.toNat
  if n < 0x20 then isSpace c else n != 0xFFFE && n != 0xFFFF

/-- Characters that a name may start with. -/
def isNameStart (c : Char) : Bool :=
  let n := c.toNat
  if n ≤ 0x80 then c.isAlpha || c == ':' || c == '_'
  else
    (0xC0 ≤ n && n ≤ 0xD6) || (0xD8 ≤ n && n ≤ 0xF6) || (0xF8 ≤ n && n ≤ 0x2FF) ||
    (0x370 ≤ n && n ≤ 0x37D) || (0x37F ≤ n && n ≤ 0x1FFF) || (0x200C ≤ n && n ≤ 0x200D) ||
    (0x2070 ≤ n && n ≤ 0x218F) || (0x2C00 ≤ n && n ≤ 0x2FEF) || (0x3001 ≤ n && n ≤ 0xD7FF) ||
    (0xF900 ≤ n && n ≤ 0xFDCF) || (0xFDF0 ≤ n && n ≤ 0xFFFD) || (0x10000 ≤ n && n ≤ 0xEFFFF)

/-- Characters that a name may hold. -/
def isNameChar (c : Char) : Bool :=
  let n := c.toNat
  isNameStart c || c.isDigit || c == '-' || c == '.' || n == 0xB7 ||
    (0x300 ≤ n && n ≤ 0x36F) || n == 0x203F || n == 0x2040

/-! ## Parts of tokens

Each part is read from the front of a text and gives what it read and the rest. -/

/-- Drops white space. -/
def skipSpaces (cs : List Char) : List Char := cs.dropWhile isSpace

/-- Takes one given character off. -/
def expect? (c : Char) : List Char → Option (List Char)
  | d :: rest => if c = d then some rest else none
  | [] => none

/-- Takes white space off, at least one character of it. -/
def spaces? (cs : List Char) : Option (List Char) :=
  if cs.head?.any isSpace then some (skipSpaces cs) else none

/-- An `=` with white space around it. -/
def equals? (cs : List Char) : Option (List Char) :=
  (expect? '=' (skipSpaces cs)).map skipSpaces

/-- A quotation mark of either kind. -/
def quote? : List Char → Option (Char × List Char)
  | c :: rest => if c == '"' || c == '\'' then some (c, rest) else none
  | [] => none

/-- Allowed characters up to the first place where `stop` holds, or to the end. -/
def until? (stop : List Char → Bool) : List Char → Option (List Char × List Char)
  | [] => some ([], [])
  | c :: rest =>
    if !isAllowed c then none
    else if stop (c :: rest) then some ([], c :: rest)
    else (until? stop rest).map fun (front, rest) => (c :: front, rest)

/-- Allowed characters up to a closing mark, and the text behind the mark. -/
def upTo? (mark : String) (cs : List Char) : Option (List Char × List Char) := do
  let (front, rest) ← until? (fun cs => mark.toList.isPrefixOf cs) cs
  return (front, ← Text.dropAffix? mark.toList rest)

/-- A name without regard to colons. -/
def name? (cs : List Char) : Option (List Char × List Char) :=
  if cs.head?.any isNameStart then some (cs.takeWhile isNameChar, cs.dropWhile isNameChar)
  else none

/-- A name with at most one colon; both parts start like a name, and the second is not empty. -/
def qname? (cs : List Char) : Option (QName × List Char) :=
  let word := cs.takeWhile isNameChar
  let rest := cs.dropWhile isNameChar
  match Text.splitAt (· == ':') word with
  | [name] => if name.head?.any isNameStart then some (⟨[], name⟩, rest) else none
  | [qualifier, name] =>
    if qualifier.head?.all isNameStart && name.head?.any isNameStart then
      some (⟨qualifier, name⟩, rest)
    else none
  | _ => none

/-! ## Tokens -/

/-- The rest of a declaration behind its version. -/
def declarationRest? (cs : List Char) : Option (List Char) := do
  let gap? (cs : List Char) : Option (List Char) :=
    if cs.isEmpty || "?>".toList.isPrefixOf cs then some cs else spaces? cs
  let cs ← gap? cs
  let cs ← match Text.dropAffix? "encoding".toList cs with
    | none => some cs
    | some cs => do
      let (quote, cs) ← quote? (← equals? cs)
      let cs ← expect? quote (cs.dropWhile fun c =>
        c.isAlphanum || c == '.' || c == '-' || c == '_')
      gap? cs
  let cs ← match Text.dropAffix? "standalone".toList cs with
    | none => some cs
    | some cs => do
      let (quote, cs) ← quote? (← equals? cs)
      let (flag, cs) ← name? cs
      if flag == "yes".toList || flag == "no".toList then expect? quote cs else none
  Text.dropAffix? "?>".toList (skipSpaces cs)

/-- A declaration, behind its `<?xml `. -/
def declaration? (cs : List Char) : Option (Token × List Char) := do
  let cs ← equals? (← Text.dropAffix? "version".toList (skipSpaces cs))
  let (quote, place) ← quote? cs
  let cs ← Text.dropAffix? "1.".toList place
  let version := "1.".toList ++ cs.takeWhile Char.isDigit
  let cs ← expect? quote (cs.dropWhile Char.isDigit)
  return (.declaration version place, ← declarationRest? cs)

/-- A document type up to its `>` or `[`, behind its `<!DOCTYPE`. -/
def doctype? (place cs : List Char) : Option (Token × List Char) := do
  let quoted? (cs : List Char) : Option (List Char) := do
    let (quote, cs) ← quote? (← spaces? cs)
    expect? quote (cs.dropWhile (· != quote))
  let (_, cs) ← name? (← spaces? cs)
  let cs := skipSpaces cs
  let cs ← match Text.dropAffix? "SYSTEM".toList cs, Text.dropAffix? "PUBLIC".toList cs with
    | some cs, _ => quoted? cs
    | none, some cs => do quoted? (← quoted? cs)
    | none, none => some cs
  match skipSpaces cs with
  | '[' :: rest | '>' :: rest => some (.doctype place, rest)
  | _ => none

/-- A comment, behind its `<!--`. -/
def comment? (cs : List Char) : Option (Token × List Char) := do
  let (body, rest) ← upTo? "-->" cs
  if Text.occursIn "--".toList body || body.getLast? == some '-' then none else some (.aside, rest)

/-- A processing instruction, behind its `<?`. -/
def instruction? (cs : List Char) : Option (Token × List Char) := do
  let (_, cs) ← name? cs
  let (_, rest) ← upTo? "?>" (skipSpaces cs)
  return (.aside, rest)

/-- A run of text up to the next `<`. -/
def text? (cs : List Char) : Option (Token × List Char) := do
  let (raw, rest) ← until? (·.head? == some '<') cs
  if Text.occursIn "]]>".toList raw then none else some (.text raw cs, rest)

/-- Text that stands for itself, behind its `<![CDATA[`. -/
def literalText? (cs : List Char) : Option (Token × List Char) := do
  let (raw, rest) ← upTo? "]]>" cs
  return (.literalText raw, rest)

/-- The start of a tag, behind its `<`. -/
def tagStart? (cs : List Char) : Option (Token × List Char) := do
  let (name, rest) ← qname? cs
  return (.tagStart name cs, rest)

/-- An end tag, behind its `</`. -/
def endTag? (cs : List Char) : Option (Token × List Char) := do
  let (name, rest) ← qname? cs
  return (.endTag name cs, ← expect? '>' (skipSpaces rest))

/-- What follows inside a start tag: its end, or an attribute behind white space. -/
def tagPart? (cs : List Char) : Option (Token × List Char) :=
  match skipSpaces cs with
  | '/' :: rest => do return (.tagEnd true, ← expect? '>' rest)
  | '>' :: rest => some (.tagEnd false, rest)
  | place => do
    let _ ← spaces? cs
    let (name, rest) ← qname? place
    let (quote, valuePlace) ← quote? (← equals? rest)
    let (value, rest) ← until? (fun cs => cs.head? == some quote || cs.head? == some '<') valuePlace
    return (.attribute name place value valuePlace, ← expect? quote rest)

/-! ## Scanning -/

/-- Where in a document the scanner is. -/
inductive Region where
  /-- In front of the root element. -/
  | prologue
  /-- Inside a start tag, with this many elements open around it. -/
  | tag (depth : Nat)
  /-- Inside this many open elements. -/
  | content (depth : Nat)
  /-- Behind the root element. -/
  | epilogue

/-- The region behind an element that was nested in this many others. -/
def Region.behind (depth : Nat) : Region :=
  if depth = 0 then .epilogue else .content depth

/-- The next token of a region that has elements only once or not at all. -/
def nextAround? (inFront : Bool) (cs : List Char) : Option (Token × Region × List Char) :=
  let region := if inFront then Region.prologue else .epilogue
  let stay (r : Option (Token × List Char)) := r.map fun (t, rest) => (t, region, rest)
  match skipSpaces cs with
  | '<' :: '!' :: '-' :: '-' :: rest => stay (comment? rest)
  | '<' :: '?' :: rest => if "xml ".toList.isPrefixOf rest then none else stay (instruction? rest)
  | '<' :: rest =>
    if !inFront then none
    else match Text.dropAffix? "!DOCTYPE".toList rest with
      | some behind => stay (doctype? ('<' :: rest) behind)
      | none => (tagStart? rest).map fun (t, rest) => (t, .tag 0, rest)
  | _ => none

/-- The next token inside an element. -/
def nextInside? (depth : Nat) (cs : List Char) : Option (Token × Region × List Char) :=
  let stay (r : Option (Token × List Char)) := r.map fun (t, rest) => (t, .content depth, rest)
  match cs with
  | '<' :: '!' :: '-' :: '-' :: rest => stay (comment? rest)
  | '<' :: '!' :: rest => do stay (literalText? (← Text.dropAffix? "[CDATA[".toList rest))
  | '<' :: '?' :: rest => if "xml ".toList.isPrefixOf rest then none else stay (instruction? rest)
  | '<' :: '/' :: rest => (endTag? rest).map fun (t, rest) => (t, Region.behind (depth - 1), rest)
  | '<' :: rest => (tagStart? rest).map fun (t, rest) => (t, .tag depth, rest)
  | _ => stay (text? cs)

/-- The next token of a region. -/
def next? : Region → List Char → Option (Token × Region × List Char)
  | .prologue, cs => nextAround? true cs
  | .epilogue, cs => nextAround? false cs
  | .content depth, cs => nextInside? depth cs
  | .tag depth, cs => (tagPart? cs).map fun (t, rest) =>
    match t with
    | .tagEnd false => (t, .content (depth + 1), rest)
    | .tagEnd true => (t, Region.behind depth, rest)
    | _ => (t, .tag depth, rest)

/-- Whether nothing but white space is left where white space has no meaning. -/
def isDone : Region → List Char → Bool
  | .prologue, cs | .epilogue, cs => cs.all isSpace
  | _, cs => cs.isEmpty

/-- The tokens of a text from a region on, and the place where the text is not well-formed. Each
token takes at least one character, so the length of the text bounds their number. -/
def scanFrom : Nat → Region → List Char → List Token × Option Place
  | 0, _, cs => ([], if cs.isEmpty then none else some cs)
  | fuel + 1, region, cs =>
    if isDone region cs then ([], none)
    else match next? region cs with
      | none => ([], some cs)
      | some (token, region, rest) =>
        let (tokens, fault) := scanFrom fuel region rest
        (token :: tokens, fault)

/-- The tokens of a document, and the place where it is not well-formed, if there is one. A byte
order mark in front does not count. -/
def scan (text : List Char) : List Token × Option Place :=
  let cs := (Text.dropAffix? ['\uFEFF'] text).getD text
  match Text.dropAffix? "<?xml ".toList cs with
  | none => scanFrom cs.length .prologue cs
  | some behind =>
    match declaration? behind with
    | none => ([], some cs)
    | some (token, rest) =>
      let (tokens, fault) := scanFrom rest.length .prologue rest
      (token :: tokens, fault)

end Token

end PipelineSync.Markup
