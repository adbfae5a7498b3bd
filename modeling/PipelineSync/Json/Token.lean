import PipelineSync.Text.Hexadecimal

/-!
# JSON tokens

The tokens of a JSON text, found one character after the other: punctuation, texts with their
escapes resolved, numbers and words.
-/

namespace PipelineSync.Json

/-- A token. -/
inductive Token where
  | beginObject
  | endObject
  | beginArray
  | endArray
  | comma
  | colon
  | text (s : String)
  | number (digits : String)
  | true
  | false
  | null
deriving DecidableEq, Repr

/-- Where the scanner stands. What was read of a token is kept in reverse. -/
inductive Scan where
  | between
  | text (read : List Char)
  /-- Behind the backslash of an escape. -/
  | escape (read : List Char)
  /-- Among the four digits of a code unit; a high surrogate may stand before it. -/
  | unit (read : List Char) (high : Option Nat) (count value : Nat)
  /-- Behind a high surrogate. -/
  | afterHigh (read : List Char) (high : Nat)
  /-- Behind a high surrogate and a backslash. -/
  | escapeAfterHigh (read : List Char) (high : Nat)
  /-- Within a number or a word. -/
  | bare (read : List Char)
deriving Repr

/-- The characters that may stand between tokens. -/
def isSpace (c : Char) : Bool :=
  c == ' ' || c == '\n' || c == '\t' || c == '\r'

/-- The token that a character is. -/
def punctuation? : Char → Option Token
  | '\x7b' => some .beginObject
  | '\x7d' => some .endObject
  | '[' => some .beginArray
  | ']' => some .endArray
  | ',' => some .comma
  | ':' => some .colon
  | _ => none

/-- The character that a letter behind a backslash stands for. -/
def escaped? : Char → Option Char
  | '"' => some '"'
  | '\\' => some '\\'
  | '/' => some '/'
  | 'b' => some '\x08'
  | 'f' => some '\x0c'
  | 'n' => some '\n'
  | 'r' => some '\r'
  | 't' => some '\t'
  | _ => none

/-- Whether digits, a point and digits, and an exponent form a number. -/
def isNumber (cs : List Char) : Bool :=
  let unsigned := match cs with
    | '-' :: cs => cs
    | cs => cs
  let whole := unsigned.takeWhile Char.isDigit
  let (fractionOk, rest) := match unsigned.dropWhile Char.isDigit with
    | '.' :: cs => (!(cs.takeWhile Char.isDigit).isEmpty, cs.dropWhile Char.isDigit)
    | cs => (Bool.true, cs)
  let exponentOk := match rest with
    | [] => Bool.true
    | e :: cs =>
      let digits := match cs with
        | '+' :: cs | '-' :: cs => cs
        | cs => cs
      (e == 'e' || e == 'E') && !digits.isEmpty && digits.all Char.isDigit
  !whole.isEmpty && (whole.length == 1 || whole.head? != some '0') && fractionOk && exponentOk

/-- The token that a run of other characters is. -/
def bareToken? (cs : List Char) : Option Token :=
  if cs = "true".toList then some .true
  else if cs = "false".toList then some .false
  else if cs = "null".toList then some .null
  else if isNumber cs then some (.number (String.ofList cs))
  else none

/-- The scanner behind a character that stands between tokens. -/
def scanBetween (c : Char) : Scan × List Token :=
  if c == '"' then (.text [], [])
  else if isSpace c then (.between, [])
  else match punctuation? c with
    | some token => (.between, [token])
    | none => (.bare [c], [])

/-- The scanner behind a complete code unit. -/
def scanUnit? (read : List Char) (high : Option Nat) (unit : Nat) : Option Scan :=
  let isLow := 0xDC00 ≤ unit && unit ≤ 0xDFFF
  match high with
  | some high =>
    if isLow then
      some (.text (Char.ofNat (0x10000 + (high - 0xD800) * 0x400 + (unit - 0xDC00)) :: read))
    else none
  | none =>
    if isLow then none
    else if 0xD800 ≤ unit && unit ≤ 0xDBFF then some (.afterHigh read unit)
    else some (.text (Char.ofNat unit :: read))

/-- The scanner behind one more character, and the tokens that end there. -/
def scanStep? (s : Scan) (c : Char) : Option (Scan × List Token) :=
  match s with
  | .between => some (scanBetween c)
  | .text read =>
    if c == '"' then some (.between, [.text (String.ofList read.reverse)])
    else if c == '\\' then some (.escape read, [])
    else if c.toNat < 0x20 then none
    else some (.text (c :: read), [])
  | .escape read =>
    if c == 'u' then some (.unit read none 0 0, [])
    else (escaped? c).map fun e => (.text (e :: read), [])
  | .unit read high count value => do
    let value := value * 16 + (← Text.hexValue? c)
    if count = 3 then return (← scanUnit? read high value, [])
    else return (.unit read high (count + 1) value, [])
  | .afterHigh read high => if c == '\\' then some (.escapeAfterHigh read high, []) else none
  | .escapeAfterHigh read high => if c == 'u' then some (.unit read (some high) 0 0, []) else none
  | .bare read =>
    if c == '"' || isSpace c || (punctuation? c).isSome then do
      let token ← bareToken? read.reverse
      let (s, tokens) := scanBetween c
      return (s, token :: tokens)
    else some (.bare (c :: read), [])

/-- The tokens from here to the end. -/
def scanFrom (s : Scan) : List Char → Option (List Token)
  | [] =>
    match s with
    | .between => some []
    | .bare read => (bareToken? read.reverse).map ([·])
    | _ => none
  | c :: cs => do
    let (s, tokens) ← scanStep? s c
    return tokens ++ (← scanFrom s cs)

/-- The tokens of a text. -/
def tokens? (s : String) : Option (List Token) :=
  scanFrom .between s.toList

end PipelineSync.Json
