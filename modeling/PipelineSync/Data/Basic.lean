/-!
# Structured data

`Data` is what a record or a settings text holds before a type is asked of it: a tree of scalars,
lists and maps. A reader of a type asks the tree for text, a list or the fields of a record, and
fails with `none` if the tree holds something else.

The scalars of a settings text that stand without quotes have no type of their own: they are
`plain`, and each reader takes them as what it wants. Tags in such a text matter to few readers.
-/

namespace PipelineSync

/-- A tree of scalars, lists and maps. -/
inductive Data where
  | null
  | bool (b : Bool)
  /-- A number, by its digits. -/
  | number (digits : String)
  /-- Text in quotes. -/
  | text (s : String)
  /-- A scalar without quotes. -/
  | plain (s : String)
  /-- A list that may also stand for a record, field by field. -/
  | tuple (items : List Data)
  /-- A list of items. -/
  | list (items : List Data)
  /-- Entries in the order in which they were written. -/
  | map (entries : List (Data × Data))
  /-- Data with a tag. -/
  | tagged (tag : String) (data : Data)
  /-- A place that holds nothing that could be read. -/
  | unreadable
deriving Inhabited

namespace Data

/-- Data without its tag. -/
def untagged : Data → Data
  | .tagged _ d => d
  | d => d

/-! ## Scalars -/

/-- Whether a plain scalar says that there is no value. -/
def isNullWord (s : String) : Bool :=
  ["", "~", "null", "Null", "NULL"].contains s

/-- The truth value that a plain scalar names. -/
def boolWord? (s : String) : Option Bool :=
  if ["true", "True", "TRUE"].contains s then some true
  else if ["false", "False", "FALSE"].contains s then some false
  else none

/-- Text; a plain scalar is text however it looks. -/
def asText? (d : Data) : Option String :=
  match d.untagged with
  | .text s | .plain s => some s
  | _ => none

/-- A natural number. -/
def asNat? (d : Data) : Option Nat :=
  match d.untagged with
  | .number digits | .plain digits => digits.toNat?
  | _ => none

/-- A truth value. -/
def asBool? (d : Data) : Option Bool :=
  match d.untagged with
  | .bool b => some b
  | .plain s => boolWord? s
  | _ => none

/-- The tag of a missing value. -/
def nullTag : String := "tag:yaml.org,2002:null"

/-- A value that may be missing. A scalar with a tag is there, unless the tag says otherwise. -/
def asOption? {α : Type} (read : Data → Option α) (d : Data) : Option (Option α) :=
  match d with
  | .null => some none
  | .plain s => if isNullWord s then some none else (read d).map some
  | .tagged tag (.plain s) =>
    if tag = nullTag then if isNullWord s && !s.isEmpty then some none else none
    else (read d).map some
  | d => (read d).map some

/-- A list. An empty plain scalar is an empty list. -/
def asList? {α : Type} (read : Data → Option α) (d : Data) : Option (List α) :=
  match d.untagged with
  | .tuple items | .list items => items.mapM read
  | .plain s => if s.isEmpty then some [] else none
  | _ => none

/-- A word out of a fixed vocabulary. A map from the word to nothing is another form of it, and so is
nothing with the word as its own tag. -/
def asWord? : Data → Option String
  | .text s | .plain s => some s
  | .map [(.text s, .null)] => some s
  | .tagged tag d =>
    match tag.toList, d with
    | '!' :: word, .plain s => if isNullWord s then some (String.ofList word) else none
    | '!' :: _, _ => none
    | _, d => d.asText?
  | _ => none

/-- The entries of a map with text as keys. An empty plain scalar is an empty map. -/
def asEntries? {α : Type} (read : Data → Option α) (d : Data) : Option (List (String × α)) :=
  match d.untagged with
  | .map entries => entries.mapM fun e => do return (← e.1.asText?, ← read e.2)
  | .plain s => if s.isEmpty then some [] else none
  | _ => none

/-! ## Records -/

/-- The fields of a record: each name at most once. -/
abbrev Fields := List (String × Data)

/-- The name of a field as a record declares it, by that name or another it goes by. -/
def declaredName? (declared : List (List String)) (name : String) : Option String :=
  (declared.find? (·.contains name)).bind List.head?

/-- The fields of a record whose declared names are given, each with the other names it goes by.
Fields with other names do not count; a field that is given twice is a fault, and so is a key that
is no text. -/
def asFields? (declared : List (List String)) (d : Data) : Option Fields :=
  match d.untagged with
  | .map entries => do
    let named ← entries.mapM fun e => do return (← e.1.asText?, e.2)
    let fields := named.filterMap fun e => (declaredName? declared e.1).map (·, e.2)
    if (fields.map Prod.fst).Nodup then some fields else none
  | .tuple items =>
    if declared.length < items.length then none
    else some (((declared.map fun names => names.headD "").zip items))
  | .plain s => if s.isEmpty then some [] else none
  | _ => none

/-- The value of a field that has to be there. -/
def Fields.required? {α : Type} (fs : Fields) (name : String) (read : Data → Option α) :
    Option α :=
  (fs.lookup name).bind read

/-- The value of a field, or another value if the field is not there. -/
def Fields.getD? {α : Type} (fs : Fields) (name : String) (default : α)
    (read : Data → Option α) : Option α :=
  match fs.lookup name with
  | some d => read d
  | none => some default

/-- The value of a field that may be missing or say that there is no value. -/
def Fields.optional? {α : Type} (fs : Fields) (name : String) (read : Data → Option α) :
    Option (Option α) :=
  fs.getD? name none (asOption? read)

/-! ## Writing -/

/-- A record with the given fields, in their order. -/
def record (fields : List (String × Data)) : Data :=
  .map (fields.map fun e => (.text e.1, e.2))

/-- A field that is left out when there is no value. -/
def optionalField (name : String) (value : Option Data) : List (String × Data) :=
  match value with
  | some d => [(name, d)]
  | none => []

/-- A value, or the sign that there is none. -/
def ofOption {α : Type} (write : α → Data) : Option α → Data
  | some a => write a
  | none => .null

/-- A number. -/
def ofNat (n : Nat) : Data := .number (toString n)

/-- A list of values. -/
def ofList {α : Type} (write : α → Data) (items : List α) : Data :=
  .tuple (items.map write)

/-! ## Scalars with a type -/

/-- Whether a plain scalar reads as a number: an integer in one of four bases, or a decimal. -/
def isNumberWord (s : String) : Bool :=
  let unsigned := match s.toList with
    | '+' :: cs | '-' :: cs => cs
    | cs => cs
  let leadingZero := match unsigned with
    | '0' :: c :: cs => (c :: cs).all Char.isDigit
    | _ => false
  let isBased (isDigit : Char → Bool) (cs : List Char) : Bool := !cs.isEmpty && cs.all isDigit
  let isHex (c : Char) : Bool := c.isDigit || ('a' ≤ c && c ≤ 'f') || ('A' ≤ c && c ≤ 'F')
  let based := match unsigned with
    | '0' :: 'x' :: cs => isBased isHex cs
    | '0' :: 'o' :: cs => isBased (fun c => '0' ≤ c && c ≤ '7') cs
    | '0' :: 'b' :: cs => isBased (fun c => c == '0' || c == '1') cs
    | _ => false
  let special := [".inf", ".Inf", ".INF"].any fun w => w.toList == unsigned
  let notANumber := [".nan", ".NaN", ".NAN"].contains s
  !leadingZero && (based || special || notANumber || isDecimal unsigned)
where
  /-- Digits with an optional point among or around them, then an optional exponent. -/
  isDecimal (cs : List Char) : Bool :=
    let whole := cs.takeWhile Char.isDigit
    let rest := cs.dropWhile Char.isDigit
    let (fraction, rest) := match rest with
      | '.' :: rest => (rest.takeWhile Char.isDigit, rest.dropWhile Char.isDigit)
      | rest => ([], rest)
    let exponent := match rest with
      | [] => true
      | e :: rest =>
        let digits := match rest with
          | '+' :: ds | '-' :: ds => ds
          | ds => ds
        (e == 'e' || e == 'E') && !digits.isEmpty && digits.all Char.isDigit
    !(whole.isEmpty && fraction.isEmpty) && exponent

/-- A plain scalar with a type, where no reader says what it wants. -/
def typedWord (s : String) : Data :=
  if isNullWord s then .null
  else match boolWord? s with
    | some b => .bool b
    | none => if isNumberWord s then .number s else .text s

/-- A scalar with the type that its tag says. -/
def typedAs? (tag s : String) : Option Data :=
  match tag with
  | "tag:yaml.org,2002:null" => if isNullWord s && !s.isEmpty then some .null else none
  | "tag:yaml.org,2002:bool" => (boolWord? s).map .bool
  | "tag:yaml.org,2002:int" | "tag:yaml.org,2002:float" =>
    if isNumberWord s then some (.number s) else none
  | _ => some (.text s)

/-- Data with the types that it has by itself. Tags of other vocabularies have no meaning then. -/
def typed? : Data → Option Data
  | .plain s => some (typedWord s)
  | .tagged tag d =>
    if tag.toList.head? == some '!' then none
    else match d with
      | .plain s | .text s => typedAs? tag s
      | d => some d
  | .unreadable => none
  | d => some d

end Data

end PipelineSync
