import PipelineSync.Data.Basic
import PipelineSync.Json.Token
import PipelineSync.Text.Split

/-!
# JSON texts

Reading and writing data as JSON. Texts are written with two spaces of indentation a level, every
entry on a line of its own.
-/

namespace PipelineSync.Json

/-! ## Reading -/

/-- A list or an object that is not closed yet; its items are kept in reverse. -/
inductive Open where
  | array (items : List Data)
  /-- An object, and the key whose value comes next. -/
  | object (entries : List (Data × Data)) (key : String)

/-- What may come next. -/
inductive Expect where
  | value
  /-- A value or the end of an empty list. -/
  | valueOrEnd
  | key
  /-- A key or the end of an empty object. -/
  | keyOrEnd
  | colon
  /-- A comma or the end of what is open. -/
  | next
deriving DecidableEq, Repr

/-- A reader that has seen some tokens. -/
structure Reader where
  expect : Expect := .value
  stack : List Open := []
  /-- The outermost value, once it is complete. -/
  result : Option Data := none

namespace Reader

/-- Takes a complete value. -/
def addValue (r : Reader) (d : Data) : Option Reader :=
  match r.stack with
  | [] => if r.result.isNone then some { r with expect := .next, result := some d } else none
  | .array items :: rest => some { r with expect := .next, stack := .array (d :: items) :: rest }
  | .object entries key :: rest =>
    some { r with expect := .next, stack := .object ((.text key, d) :: entries) "" :: rest }

/-- The reader behind one more token. -/
def step (r : Reader) (t : Token) : Option Reader :=
  let isValue := r.expect = .value ∨ r.expect = .valueOrEnd
  match t with
  | .beginObject =>
    if isValue then some { r with expect := .keyOrEnd, stack := .object [] "" :: r.stack } else none
  | .beginArray =>
    if isValue then some { r with expect := .valueOrEnd, stack := .array [] :: r.stack } else none
  | .endObject =>
    match r.stack with
    | .object entries _ :: rest =>
      if r.expect = .next ∨ r.expect = .keyOrEnd then
        addValue { r with stack := rest } (.map entries.reverse)
      else none
    | _ => none
  | .endArray =>
    match r.stack with
    | .array items :: rest =>
      if r.expect = .next ∨ r.expect = .valueOrEnd then
        addValue { r with stack := rest } (.tuple items.reverse)
      else none
    | _ => none
  | .comma =>
    match r.expect, r.stack with
    | .next, .array _ :: _ => some { r with expect := .value }
    | .next, .object .. :: _ => some { r with expect := .key }
    | _, _ => none
  | .colon => if r.expect = .colon then some { r with expect := .value } else none
  | .text s =>
    match r.expect, r.stack with
    | .key, .object entries _ :: rest | .keyOrEnd, .object entries _ :: rest =>
      some { r with expect := .colon, stack := .object entries s :: rest }
    | _, _ => if isValue then r.addValue (.text s) else none
  | .number digits => if isValue then r.addValue (.number digits) else none
  | .true => if isValue then r.addValue (.bool Bool.true) else none
  | .false => if isValue then r.addValue (.bool Bool.false) else none
  | .null => if isValue then r.addValue .null else none

end Reader

/-- The data that a JSON text holds. -/
def parse? (s : String) : Option Data := do
  let r ← (← tokens? s).foldlM Reader.step {}
  if r.stack.isEmpty then r.result else none

/-! ## Writing -/

/-- A character within quotes. -/
def escape (c : Char) : List Char :=
  match c with
  | '"' => ['\\', '"']
  | '\\' => ['\\', '\\']
  | '\x08' => ['\\', 'b']
  | '\x0c' => ['\\', 'f']
  | '\n' => ['\\', 'n']
  | '\r' => ['\\', 'r']
  | '\t' => ['\\', 't']
  | c =>
    if c.toNat < 0x20 then ['\\', 'u', '0', '0', Text.hexDigit (c.toNat / 16),
      Text.hexDigit (c.toNat % 16)]
    else [c]

/-- A text in quotes. -/
def quote (s : String) : String :=
  String.ofList ('"' :: s.toList.flatMap escape ++ ['"'])

/-- The start of a line at a depth. -/
def newLine (depth : Nat) : String :=
  "\n" ++ String.ofList (List.replicate (2 * depth) ' ')

mutual

/-- Writes data that stands at a depth. -/
def render (depth : Nat) : Data → String
  | .null | .unreadable => "null"
  | .bool b => if b then "true" else "false"
  | .number digits => digits
  | .text s | .plain s => quote s
  | .tuple items | .list items =>
    if items.isEmpty then "[]"
    else "[" ++ Text.join "," (renderItems (depth + 1) items) ++ newLine depth ++ "]"
  | .tagged _ d => render depth d
  | .map entries =>
    if entries.isEmpty then "\x7b\x7d"
    else "\x7b" ++ Text.join "," (renderEntries (depth + 1) entries) ++ newLine depth ++ "\x7d"

/-- Writes items, each on a line of its own. -/
def renderItems (depth : Nat) : List Data → List String
  | [] => []
  | d :: rest => (newLine depth ++ render depth d) :: renderItems depth rest

/-- Writes entries, each on a line of its own. -/
def renderEntries (depth : Nat) : List (Data × Data) → List String
  | [] => []
  | (k, d) :: rest =>
    (newLine depth ++ render depth k ++ ": " ++ render depth d) :: renderEntries depth rest

end

/-- The JSON text of data. -/
def text (d : Data) : String := render 0 d

end PipelineSync.Json
