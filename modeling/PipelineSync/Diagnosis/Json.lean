import PipelineSync.Diagnosis.Shape
import PipelineSync.Json.Token

/-!
# What is wrong with a JSON text

The first place, in the order of the text, where a text is no JSON or departs from a shape. Places
are counted in bytes within a line.
-/

namespace PipelineSync.Json

/-- What is left of a text, and where it starts. -/
structure Cursor where
  rest : List Char
  line : Nat := 1
  column : Nat := 0

namespace Cursor

/-- The cursor behind the next character. -/
def next (c : Cursor) : Cursor :=
  match c.rest with
  | [] => c
  | x :: rest =>
    if x == '\n' then ⟨rest, c.line + 1, 0⟩ else ⟨rest, c.line, c.column + x.utf8Size⟩

/-- The cursor behind white space. -/
def skipSpace : Cursor → Cursor
  | ⟨x :: rest, line, column⟩ =>
    if x == '\n' then skipSpace ⟨rest, line + 1, 0⟩
    else if isSpace x then skipSpace ⟨rest, line, column + 1⟩
    else ⟨x :: rest, line, column⟩
  | c => c
termination_by c => c.rest.length

/-- The next character. -/
def head? (c : Cursor) : Option Char := c.rest.head?

end Cursor

/-- Why the reading stopped: with a message that names its place, or with one that gets the place
where the enclosing list or record is left. -/
inductive Stop where
  | placed (message : String)
  | open (message : String) (at_ : Cursor)

/-- A complaint with the place of a cursor. -/
def placedAt (c : Cursor) (message : String) : Stop :=
  .placed (message ++ " at line " ++ toString c.line ++ " column " ++ toString c.column)

/-- A complaint about the next character. -/
def aboutNext (c : Cursor) (message : String) : Stop :=
  match c.rest with
  | [] => placedAt c message
  | x :: _ =>
    if x == '\n' then placedAt { c with line := c.line + 1, column := 0 } message
    else placedAt { c with column := c.column + 1 } message

/-- A complaint that gets the place of a cursor, unless it has one. -/
def Stop.settle (place : Cursor → Cursor) : Stop → Stop
  | .placed message => .placed message
  | .open message c => placedAt (place c) message

/-- A step through a text. -/
abbrev Walk := Except Stop Cursor

/-! ## Scalars -/

/-- The rest of a word. -/
def walkWord (c : Cursor) : List Char → Walk
  | [] => .ok c
  | x :: rest =>
    match c.head? with
    | none => .error (placedAt c "EOF while parsing a value")
    | some y => if x == y then walkWord c.next rest else .error (placedAt c.next "expected ident")

/-- Four hexadecimal digits. -/
def walkUnit (c : Cursor) : Except Stop (Nat × Cursor) :=
  let behind := c.next.next.next.next
  if c.rest.length < 4 then
    .error (placedAt (c.rest.foldl (fun c _ => c.next) c) "EOF while parsing a string")
  else match Text.hexNumber? (c.rest.take 4) with
    | some unit => .ok (unit, behind)
    | none => .error (placedAt behind "invalid escape")

/-- Whether a code unit is the first of two. -/
def isHigh (unit : Nat) : Bool := 0xD800 ≤ unit && unit ≤ 0xDBFF

/-- Whether a code unit is the second of two. -/
def isLow (unit : Nat) : Bool := 0xDC00 ≤ unit && unit ≤ 0xDFFF

/-- The character of an escape, behind its backslash. -/
def walkEscape (c : Cursor) : Except Stop (Char × Cursor) := do
  match c.head? with
  | none => throw (placedAt c "EOF while parsing a string")
  | some 'u' =>
    let (unit, c) ← walkUnit c.next
    if isLow unit then throw (placedAt c "lone leading surrogate in hex escape")
    if !isHigh unit then return (.ofNat unit, c)
    match c.rest with
    | '\\' :: 'u' :: _ =>
      let (low, c) ← walkUnit c.next.next
      if !isLow low then throw (placedAt c "lone leading surrogate in hex escape")
      return (.ofNat (0x10000 + (unit - 0xD800) * 0x400 + (low - 0xDC00)), c)
    | [] => throw (placedAt c "EOF while parsing a string")
    | '\\' :: _ => throw (placedAt c.next.next "unexpected end of hex escape")
    | _ => throw (placedAt c.next "unexpected end of hex escape")
  | some e =>
    match escaped? e with
    | some x => return (x, c.next)
    | none => throw (placedAt c.next "invalid escape")

/-- The rest of a text, behind its opening quote. -/
def walkText (fuel : Nat) (c : Cursor) : Except Stop (List Char × Cursor) := do
  match fuel, c.head? with
  | 0, _ | _, none => throw (placedAt c "EOF while parsing a string")
  | fuel + 1, some x =>
    if x == '"' then return ([], c.next)
    if x == '\\' then
      let (e, c) ← walkEscape c.next
      let (more, c) ← walkText fuel c
      return (e :: more, c)
    if x.toNat < 0x20 then
      throw (placedAt c.next
        "control character (\\u0000-\\u001F) found while parsing a string")
    let (more, c) ← walkText fuel c.next
    return (x :: more, c)

/-- The cursor behind digits. -/
def walkDigits : Cursor → Cursor
  | ⟨x :: rest, line, column⟩ =>
    if x.isDigit then walkDigits ⟨rest, line, column + 1⟩ else ⟨x :: rest, line, column⟩
  | c => c
termination_by c => c.rest.length

/-- At least one digit. -/
def walkSomeDigits (c : Cursor) : Walk :=
  match c.head? with
  | none => .error (placedAt c "EOF while parsing a value")
  | some x => if x.isDigit then .ok (walkDigits c) else .error (aboutNext c "invalid number")

/-- A number. -/
def walkNumber (c : Cursor) : Walk := do
  let c := if c.head? == some '-' then c.next else c
  let c ← match c.head? with
    | some '0' =>
      let c := c.next
      if c.head?.any Char.isDigit then throw (aboutNext c "invalid number") else pure c
    | _ => walkSomeDigits c
  let c ← if c.head? == some '.' then walkSomeDigits c.next else pure c
  if c.head? == some 'e' || c.head? == some 'E' then
    let c := c.next
    walkSomeDigits (if c.head? == some '+' || c.head? == some '-' then c.next else c)
  else return c

/-- The characters between two cursors of one text. -/
def textBetween (first last : Cursor) : String :=
  String.ofList (first.rest.take (first.rest.length - last.rest.length))

/-- The complaint that what comes next is of another kind than wanted. -/
def wrongKind (c : Cursor) (expected : String) : Stop :=
  let complain (found : String) (behind : Cursor) : Stop :=
    placedAt behind (Shape.wrongKind found expected)
  let scalar (r : Walk) (found : Cursor → String) : Stop :=
    match r with
    | .ok behind => complain (found behind) behind
    | .error stop => stop
  match c.head? with
  | some 'n' => scalar (walkWord c "null".toList) fun _ => "null"
  | some 't' => scalar (walkWord c "true".toList) fun _ => Shape.showBool Bool.true
  | some 'f' => scalar (walkWord c "false".toList) fun _ => Shape.showBool Bool.false
  | some '"' =>
    match walkText c.rest.length c.next with
    | .ok (s, behind) => complain (Shape.showText (String.ofList s)) behind
    | .error stop => stop
  | some '[' => complain "sequence" c
  | some '\x7b' => complain "map" c
  | some x =>
    if x == '-' || x.isDigit then
      scalar (walkNumber c) fun behind => Shape.showNumber (textBetween c behind)
    else aboutNext c "expected value"
  | none => aboutNext c "EOF while parsing a value"

/-! ## Lists and records -/

/-- The next item of a list, if there is one. -/
def nextItem? (isFirst : Bool) (c : Cursor) : Except Stop (Option Cursor) :=
  let c := c.skipSpace
  match c.head? with
  | none => .error (aboutNext c "EOF while parsing a list")
  | some ']' => .ok none
  | some ',' =>
    if isFirst then .ok (some c)
    else
      let c := c.next.skipSpace
      match c.head? with
      | some ']' => .error (aboutNext c "trailing comma")
      | some _ => .ok (some c)
      | none => .error (aboutNext c "EOF while parsing a value")
  | some _ => if isFirst then .ok (some c) else .error (aboutNext c "expected \x60,\x60 or \x60]\x60")

/-- The end of a list. -/
def endList (c : Cursor) : Walk :=
  let c := c.skipSpace
  match c.head? with
  | some ']' => .ok c.next
  | some ',' =>
    let c := c.next.skipSpace
    .error (aboutNext c (if c.head? == some ']' then "trailing comma" else "trailing characters"))
  | some _ => .error (aboutNext c "trailing characters")
  | none => .error (aboutNext c "EOF while parsing a list")

/-- The next key of a record, if there is one, and the cursor behind it. -/
def nextKey? (isFirst : Bool) (c : Cursor) : Except Stop (Option (String × Cursor)) :=
  let c := c.skipSpace
  let key (c : Cursor) : Except Stop (Option (String × Cursor)) :=
    match c.head? with
    | some '"' => do
      let (s, c) ← walkText c.rest.length c.next
      return some (String.ofList s, c)
    | some '\x7d' => .error (aboutNext c "trailing comma")
    | some _ => .error (aboutNext c "key must be a string")
    | none => .error (aboutNext c "EOF while parsing a value")
  match c.head? with
  | none => .error (aboutNext c "EOF while parsing an object")
  | some '\x7d' => .ok none
  | some x =>
    if isFirst then key c
    else if x == ',' then key c.next.skipSpace
    else .error (aboutNext c "expected \x60,\x60 or \x60\x7d\x60")

/-- The cursor behind the colon of an entry. -/
def walkColon (c : Cursor) : Walk :=
  let c := c.skipSpace
  match c.head? with
  | some ':' => .ok c.next
  | some _ => .error (aboutNext c "expected \x60:\x60")
  | none => .error (aboutNext c "EOF while parsing an object")

/-- The end of a record. -/
def endRecord (c : Cursor) : Walk :=
  let c := c.skipSpace
  match c.head? with
  | some '\x7d' => .ok c.next
  | some ',' => .error (aboutNext c "trailing comma")
  | some _ => .error (aboutNext c "trailing characters")
  | none => .error (aboutNext c "EOF while parsing an object")

/-- Goes through what is within brackets and then to their end. A complaint without a place gets the
one behind the end, or where the end should be. -/
def walkWithin (close : Cursor → Walk) (r : Walk) : Walk :=
  match r with
  | .ok c => close c
  | .error stop =>
    .error (stop.settle fun c =>
      match close c with
      | .ok behind => behind
      | .error _ => c.skipSpace)

mutual

/-- Goes through a value of a shape. -/
def walkValue (fuel : Nat) (shape : Shape) (c : Cursor) : Walk := do
  match fuel with
  | 0 => throw (placedAt c "recursion limit exceeded")
  | fuel + 1 =>
    let c := c.skipSpace
    let some x := c.head? | throw (aboutNext c "EOF while parsing a value")
    if shape.isOptional && x == 'n' then return ← walkWord c "null".toList
    match shape.present, x with
    | .text _, '"' => return (← walkText c.rest.length c.next).2
    | .time, '"' =>
      let (s, c) ← walkText c.rest.length c.next
      let s := String.ofList s
      if (Time.ofText? s).isSome then return c else throw (placedAt c (Time.faultText s))
    | .bool, 't' => walkWord c "true".toList
    | .bool, 'f' => walkWord c "false".toList
    | .word _ words, '"' =>
      let (s, c) ← walkText c.rest.length c.next
      let s := String.ofList s
      if words.contains s then return c else throw (placedAt c (Shape.unknownWord s words))
    | .word .., _ => throw (aboutNext c "expected value")
    | .list item, '[' => walkWithin endList (walkItems fuel item true c.next)
    | .pair, '[' => walkWithin endList (walkPair fuel c.next)
    | .record _ fields, '\x7b' => walkWithin endRecord (walkEntries fuel fields true [] c.next)
    | .record typeName fields, '[' =>
      walkWithin endList (walkFields fuel typeName fields.length 0 fields c.next)
    | .any, '[' => walkWithin endList (walkItems fuel .any true c.next)
    | .any, '\x7b' => walkWithin endRecord (walkEntries fuel [] true [] c.next)
    | .any, 'n' => walkWord c "null".toList
    | .any, 't' => walkWord c "true".toList
    | .any, 'f' => walkWord c "false".toList
    | .any, '"' => return (← walkText c.rest.length c.next).2
    | .any, x =>
      if x == '-' || x.isDigit then walkNumber c else throw (aboutNext c "expected value")
    | shape, _ => throw (wrongKind c shape.expected)

/-- Goes through the rest of a list. -/
def walkItems (fuel : Nat) (item : Shape) (isFirst : Bool) (c : Cursor) : Walk := do
  match fuel with
  | 0 => throw (placedAt c "recursion limit exceeded")
  | fuel + 1 =>
    match ← nextItem? isFirst c with
    | none => return c
    | some c => walkItems fuel item false (← walkValue fuel item c)

/-- Goes through two texts. -/
def walkPair (fuel : Nat) (c : Cursor) : Walk := do
  match fuel with
  | 0 => throw (placedAt c "recursion limit exceeded")
  | fuel + 1 =>
    match ← nextItem? true c with
    | none => throw (.open (Shape.wrongLength 0 "a tuple of size 2") c)
    | some c =>
      let c ← walkValue fuel .string c
      match ← nextItem? false c with
      | none => throw (.open (Shape.wrongLength 1 "a tuple of size 2") c)
      | some c => walkValue fuel .string c

/-- Goes through a record that is written as the list of its fields. -/
def walkFields (fuel : Nat) (typeName : String) (count i : Nat) (fields : List Shape.Field)
    (c : Cursor) : Walk := do
  match fuel, fields with
  | 0, _ => throw (placedAt c "recursion limit exceeded")
  | _ + 1, [] => return c
  | fuel + 1, f :: rest =>
    match ← nextItem? (i == 0) c with
    | none =>
      if f.2.1 then
        let expected := "struct " ++ typeName ++ " with " ++ toString count ++ " elements"
        throw (.open (Shape.wrongLength i expected) c)
      else walkFields fuel typeName count (i + 1) rest c
    | some c => walkFields fuel typeName count (i + 1) rest (← walkValue fuel f.2.2 c)

/-- Goes through the rest of a record of which some fields were seen. -/
def walkEntries (fuel : Nat) (fields : List Shape.Field) (isFirst : Bool) (seen : List String)
    (c : Cursor) : Walk := do
  match fuel with
  | 0 => throw (placedAt c "recursion limit exceeded")
  | fuel + 1 =>
    match ← nextKey? isFirst c with
    | none =>
      match Shape.missing? fields seen with
      | some name => throw (.open (Shape.missingField name) c)
      | none => return c
    | some (key, c) =>
      match Shape.findField? fields key with
      | some f =>
        let name := Shape.fieldName f
        if seen.contains name then throw (.open (Shape.duplicateField name) c)
        walkEntries fuel fields false (name :: seen) (← walkValue fuel f.2.2 (← walkColon c))
      | none => walkEntries fuel fields false seen (← walkValue fuel .any (← walkColon c))

end

/-- Goes through a whole text. -/
def walkWhole (shape : Shape) (s : String) : Walk := do
  let c ← walkValue (2 * s.length + 2) shape ⟨s.toList, 1, 0⟩
  let c := c.skipSpace
  if c.rest.isEmpty then return c else throw (aboutNext c "trailing characters")

/-- Why a text does not hold data of a shape. -/
def complaint? (shape : Shape) (s : String) : Option String :=
  match walkWhole shape s with
  | .ok _ => none
  | .error (.placed message) | .error (.open message _) => some message

end PipelineSync.Json
