import PipelineSync.Yaml.Cursor

/-!
# Faults of YAML texts

What can be wrong with a text before anyone asks what it holds, and how messages word it.
-/

namespace PipelineSync.Yaml

/-- What is wrong. -/
inductive Problem where
  /-- A character that no text may hold, behind this many bytes. -/
  | controlCharacter (offset : Nat)
  | noToken
  | blockEntry
  | blockKey
  | blockValue
  | missingColon
  | unexpectedColon
  | tabIndentation
  | tabInBlock
  | zeroIndentation
  | lineEnd
  | boundaryInQuotes
  | unclosedQuotes
  | unknownEscape
  | hexDigits
  | codePoint
  | anchorName
  | tagStart
  | tagClose
  | tagUri
  | tagEnd
  | tagDirectiveGap
  | uriOctet
  | leadingOctet
  | trailingOctet
  | directiveName
  | directiveNameEnd
  | unknownDirective
  | versionNumber
  | longVersionNumber
  | versionPoint
  | duplicateVersion
  | otherVersion
  | duplicateHandle
  | unknownHandle
  | documentStart
  | nodeContent
  | sequenceEntry
  | mappingKey
  | flowSequenceEnd
  | flowMappingEnd
  | unknownAnchor
  | manyDocuments
  | nesting
deriving DecidableEq, Repr

/-- The wording of a problem. -/
def Problem.text : Problem → String
  | controlCharacter _ => "control characters are not allowed"
  | noToken => "found character that cannot start any token"
  | blockEntry => "block sequence entries are not allowed in this context"
  | blockKey => "mapping keys are not allowed in this context"
  | blockValue => "mapping values are not allowed in this context"
  | missingColon => "could not find expected ':'"
  | unexpectedColon => "found unexpected ':'"
  | tabIndentation => "found a tab character that violates indentation"
  | tabInBlock => "found a tab character where an indentation space is expected"
  | zeroIndentation => "found an indentation indicator equal to 0"
  | lineEnd => "did not find expected comment or line break"
  | boundaryInQuotes => "found unexpected document indicator"
  | unclosedQuotes => "found unexpected end of stream"
  | unknownEscape => "found unknown escape character"
  | hexDigits => "did not find expected hexdecimal number"
  | codePoint => "found invalid Unicode character escape code"
  | anchorName => "did not find expected alphabetic or numeric character"
  | tagStart => "did not find expected '!'"
  | tagClose => "did not find the expected '>'"
  | tagUri => "did not find expected tag URI"
  | tagEnd => "did not find expected whitespace or line break"
  | tagDirectiveGap => "did not find expected whitespace"
  | uriOctet => "did not find URI escaped octet"
  | leadingOctet => "found an incorrect leading UTF-8 octet"
  | trailingOctet => "found an incorrect trailing UTF-8 octet"
  | directiveName => "could not find expected directive name"
  | directiveNameEnd => "found unexpected non-alphabetical character"
  | unknownDirective => "found unknown directive name"
  | versionNumber => "did not find expected version number"
  | longVersionNumber => "found extremely long version number"
  | versionPoint => "did not find expected digit or '.' character"
  | duplicateVersion => "found duplicate %YAML directive"
  | otherVersion => "found incompatible YAML document"
  | duplicateHandle => "found duplicate %TAG directive"
  | unknownHandle => "found undefined tag handle"
  | documentStart => "did not find expected <document start>"
  | nodeContent => "did not find expected node content"
  | sequenceEntry => "did not find expected '-' indicator"
  | mappingKey => "did not find expected key"
  | flowSequenceEnd => "did not find expected ',' or ']'"
  | flowMappingEnd => "did not find expected ',' or '\x7d'"
  | unknownAnchor => "unknown anchor"
  | manyDocuments =>
    "deserializing from YAML containing more than one document is not supported"
  | nesting => "recursion limit exceeded"

/-- What was being read when the problem turned up. -/
inductive Context where
  | nextToken
  | simpleKey
  | plainScalar
  | quotedScalar
  | escape
  | blockScalar
  | anchor
  | reference
  | tag
  | tagText
  | directive
  | versionDirective
  | tagDirective
  | tagDirectiveStart
  | tagDirectiveHandle
  | tagDirectiveText
  | node
  | blockNode
  | flowNode
  | blockSequence
  | blockMapping
  | flowSequence
  | flowMapping
deriving DecidableEq, Repr

/-- The wording of a context. -/
def Context.text : Context → String
  | nextToken => "while scanning for the next token"
  | simpleKey => "while scanning a simple key"
  | plainScalar => "while scanning a plain scalar"
  | quotedScalar => "while scanning a quoted scalar"
  | escape => "while parsing a quoted scalar"
  | blockScalar => "while scanning a block scalar"
  | anchor => "while scanning an anchor"
  | reference => "while scanning an alias"
  | tag => "while scanning a tag"
  | tagText => "while parsing a tag"
  | directive => "while scanning a directive"
  | versionDirective => "while scanning a %YAML directive"
  | tagDirective => "while scanning a %TAG directive"
  | tagDirectiveStart => "while scanning a tag directive"
  | tagDirectiveHandle => "while parsing a tag directive"
  | tagDirectiveText => "while parsing a %TAG directive"
  | node => "while parsing a node"
  | blockNode => "while parsing a block node"
  | flowNode => "while parsing a flow node"
  | blockSequence => "while parsing a block collection"
  | blockMapping => "while parsing a block mapping"
  | flowSequence => "while parsing a flow sequence"
  | flowMapping => "while parsing a flow mapping"

/-- A problem, its place, and what it turned up in. -/
structure Fault where
  problem : Problem
  mark : Mark := {}
  context : Option (Context × Mark) := none
deriving DecidableEq, Repr

namespace Fault

/-- A fault with a context. -/
def within (context : Context) (start : Mark) (problem : Problem) (mark : Mark) : Fault :=
  ⟨problem, mark, some (context, start)⟩

/-- The wording of a fault. A place is named unless it is the start of the text, and the place of the
context only if it is another one. -/
def message (f : Fault) : String :=
  let place (m : Mark) : String := " at " ++ m.text
  let here := match f.problem with
    | .controlCharacter offset => if offset = 0 then "" else " at position " ++ toString offset
    | _ => if f.mark.isStart then "" else place f.mark
  let around := match f.context with
    | none => ""
    | some (context, start) =>
      let same := start.line = f.mark.line ∧ start.column = f.mark.column
      ", " ++ context.text ++ (if start.isStart ∨ same then "" else place start)
  f.problem.text ++ here ++ around

end Fault

end PipelineSync.Yaml
