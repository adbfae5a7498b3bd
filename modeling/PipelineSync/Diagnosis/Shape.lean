import PipelineSync.Data.Basic
import PipelineSync.Text.Quoted
import PipelineSync.Text.Split
import PipelineSync.Time

/-!
# Shapes

What data has to look like to hold a value of a type. Readers only tell whether data holds a value;
why it does not is found out by going through the text once more with the shape in hand.
-/

namespace PipelineSync

/-- What data has to look like. -/
inductive Shape where
  /-- Text, called so in messages. -/
  | text (expected : String)
  /-- Text that names a time. -/
  | time
  | bool
  /-- One word of a vocabulary. -/
  | word (typeName : String) (words : List String)
  /-- Something, or the sign that there is nothing. -/
  | optional (shape : Shape)
  | list (item : Shape)
  /-- Two texts. -/
  | pair
  /-- A record: of each field the names it goes by, whether it has to be there, and its shape. -/
  | record (typeName : String) (fields : List (List String × Bool × Shape))
  /-- Whatever it may be. -/
  | any
deriving Inhabited

namespace Shape

/-- A field of a record. -/
abbrev Field := List String × Bool × Shape

/-- A field that has to be there. -/
def required (name : String) (shape : Shape) : Field := ([name], true, shape)

/-- A field that can be left out. -/
def defaulted (name : String) (shape : Shape) : Field := ([name], false, shape)

/-- A text. -/
def string : Shape := .text "a string"

/-- The field that a name means. -/
def findField? (fields : List Field) (name : String) : Option Field :=
  fields.find? fun f => f.1.contains name

/-- The name under which a field is declared. -/
def fieldName (f : Field) : String := f.1.headD ""

/-- How messages name what is wanted. -/
def expected : Shape → String
  | text e => e
  | time => "an RFC 3339 formatted date and time string"
  | bool => "a boolean"
  | word typeName _ => "enum " ++ typeName
  | optional s => s.expected
  | list _ => "a sequence"
  | pair => "a tuple of size 2"
  | record typeName _ => "struct " ++ typeName
  | any => "anything"

/-- The shape without the sign that there may be nothing. -/
def present : Shape → Shape
  | optional s => s
  | s => s

/-- Whether there may be nothing. -/
def isOptional : Shape → Bool
  | optional _ => true
  | _ => false

/-! ## Messages -/

/-- Data of another kind than wanted. -/
def wrongKind (found expected : String) : String :=
  "invalid type: " ++ found ++ ", expected " ++ expected

/-- A field that is not there. -/
def missingField (name : String) : String := "missing field \x60" ++ name ++ "\x60"

/-- A field that is there twice. -/
def duplicateField (name : String) : String := "duplicate field \x60" ++ name ++ "\x60"

/-- A list of another length than wanted. -/
def wrongLength (length : Nat) (expected : String) : String :=
  "invalid length " ++ toString length ++ ", expected " ++ expected

/-- A word out of another vocabulary. -/
def unknownWord (word : String) (words : List String) : String :=
  let quoted := words.map fun w => "\x60" ++ w ++ "\x60"
  "unknown variant \x60" ++ word ++ "\x60, expected " ++ match quoted with
    | [only] => only
    | [a, b] => a ++ " or " ++ b
    | many => "one of " ++ Text.join ", " many

/-- How messages show a text. -/
def showText (s : String) : String := "string " ++ Text.quote s

/-- How messages show a truth value. -/
def showBool (b : Bool) : String := "boolean \x60" ++ (if b then "true" else "false") ++ "\x60"

/-- How messages show a number. -/
def showNumber (digits : String) : String :=
  let kind := if digits.toList.all fun c => c.isDigit || c == '-' then "integer" else "floating point"
  kind ++ " \x60" ++ digits ++ "\x60"

/-- The first declared field that is needed and not among those seen. -/
def missing? (fields : List Field) (seen : List String) : Option String :=
  (fields.find? fun f => f.2.1 && !seen.contains (fieldName f)).map fieldName

end Shape

namespace Time

/-- Why a text names no time. -/
def faultText (s : String) : String :=
  let cs := s.toList
  let model := "2000-01-01T00:00:00Z".toList
  let kind (c : Char) : Char := if c.isDigit then '0' else c
  if (List.range cs.length).any fun n => (ofText? (String.ofList (cs.take n))).isSome then
    "trailing input"
  else if (ofText? (String.ofList (cs ++ model.drop cs.length))).isSome then
    "premature end of input"
  else if (cs.map kind).isPrefixOf (model.map kind) || (model.map kind).isPrefixOf (cs.map kind) then
    "input is out of range"
  else "input contains invalid characters"

end Time

end PipelineSync
