import PipelineSync.Decoration
import PipelineSync.Directories
import PipelineSync.Text.Split

/-!
# Arguments

What is asked for on the command line. `Request.ofWords` reads the words of the command line; what
they leave open comes from the environment, or has a default.
-/

namespace PipelineSync.CommandLine

/-- Where the settings are, and which directories to use instead of theirs. -/
structure SettingsSource where
  file : String
  workingDirectory : Option String := none
  dataDirectory : Option String := none
deriving DecidableEq, Repr

/-- What is to be done. -/
inductive Command where
  /-- Updates repositories: those with the given ids, or all if none is given. -/
  | sync (source : SettingsSource) (only : List String) (force : Bool)
  /-- Checks the fragments below a directory. -/
  | validate (directory : String) (ignored : List String)
  /-- Lists the repositories with their fingerprints. -/
  | fingerprint (source : SettingsSource) (full : Bool)
  /-- Tells what is known of the repositories. -/
  | status (source : SettingsSource) (asJson : Bool)
deriving DecidableEq, Repr

/-- A command, and how it is to report. -/
structure Request where
  command : Command
  color : String
  logFilter : String
deriving DecidableEq, Repr

/-- Why words make no request. -/
inductive UsageFault where
  | unknownOption (word : String)
  | missingValue (name : String)
  | unexpectedValue (name : String)
  | repeatedOption (name : String)
  | unexpectedWord (word : String)
  | unknownCommand (word : String)
  | missingCommand
deriving DecidableEq, Repr

/-- The wording of a fault. -/
def UsageFault.message : UsageFault → String
  | unknownOption word => "unexpected argument '" ++ word ++ "' found"
  | missingValue name => "a value is required for '--" ++ name ++ "' but none was supplied"
  | unexpectedValue name => "unexpected value for '--" ++ name ++ "' found"
  | repeatedOption name => "the argument '--" ++ name ++ "' cannot be used multiple times"
  | unexpectedWord word => "unexpected argument '" ++ word ++ "' found"
  | unknownCommand word => "unrecognized subcommand '" ++ word ++ "'"
  | missingCommand => "a subcommand is required"

/-! ## Options -/

/-- An option. -/
structure OptionForm where
  name : String
  /-- The letter that stands for the name. -/
  letter : Option Char := none
  takesValue : Bool := true
  /-- Whether the option can be given more than once. -/
  repeats : Bool := false

/-- The options of every command. -/
def commonOptions : List OptionForm :=
  [{ name := "color" }, { name := "log-level" }]

/-- The options that say where the settings are. -/
def settingsOptions : List OptionForm :=
  [{ name := "config", letter := some 'c' }, { name := "working-dir" }, { name := "data-dir" }]

/-- The options of a command, and whether it takes a directory. -/
def formsOf? : String → Option (List OptionForm × Bool)
  | "sync" => some (settingsOptions
      ++ [{ name := "only", repeats := true }, { name := "force", takesValue := false }], false)
  | "validate" => some ([{ name := "ignore", repeats := true }], true)
  | "fingerprint" => some (settingsOptions ++ [{ name := "full", takesValue := false }], false)
  | "status" => some (settingsOptions ++ [{ name := "json", takesValue := false }], false)
  | _ => none

/-- A word as part of a command line. -/
inductive Word where
  /-- An option, with the value that is written into the same word. -/
  | option (form : OptionForm) (value : Option String)
  /-- The sign that no more options follow. -/
  | separator
  | plain

/-- What a word is, given the options there are. -/
def Word.of (forms : List OptionForm) (word : String) : Except UsageFault Word :=
  let find (p : OptionForm → Bool) (value : Option String) : Except UsageFault Word :=
    match forms.find? p with
    | some form => .ok (.option form value)
    | none => .error (.unknownOption word)
  match word.toList with
  | ['-', '-'] => .ok .separator
  | '-' :: '-' :: cs =>
    let name := String.ofList (cs.takeWhile (· != '='))
    let value := match cs.dropWhile (· != '=') with
      | _ :: value => some (String.ofList value)
      | [] => none
    find (·.name == name) value
  | '-' :: letter :: cs =>
    let value := match cs with
      | [] => none
      | '=' :: value => some (String.ofList value)
      | value => some (String.ofList value)
    find (·.letter == some letter) value
  | _ => .ok .plain

/-- Whether a word can be the value of an option. -/
def isValue (word : String) : Bool :=
  match word.toList with
  | '-' :: _ :: _ => false
  | _ => true

/-- The options and the other words of a command line. -/
structure Given where
  options : List (String × String) := []
  words : List String := []
deriving DecidableEq, Repr

namespace Given

/-- The values of an option, in their order. -/
def values (g : Given) (name : String) : List String :=
  (g.options.filter (·.1 == name)).map Prod.snd

/-- The value of an option, or else of a variable. -/
def value? (g : Given) (env : Variables) (name variableName : String) : Option String :=
  (g.values name).getLast?.or (env variableName)

/-- Whether an option is given. -/
def has (g : Given) (name : String) : Bool :=
  g.options.any (·.1 == name)

/-- Adds an option. -/
def addOption (g : Given) (form : OptionForm) (value : String) : Except UsageFault Given :=
  if g.has form.name && !form.repeats then .error (.repeatedOption form.name)
  else .ok { g with options := g.options ++ [(form.name, value)] }

/-- Adds a word that is no option. -/
def addWord (g : Given) (word : String) : Given := { g with words := g.words ++ [word] }

/-- What words give, behind what is given already. The value of an option may be `pending`. With
`toCommand` the reading ends behind the first word that is no option, and what follows is left. -/
def read (forms : List OptionForm) (toCommand : Bool) (g : Given) (pending : Option OptionForm) :
    List String → Except UsageFault (Given × List String)
  | [] =>
    match pending with
    | some form => .error (.missingValue form.name)
    | none => .ok (g, [])
  | word :: rest =>
    match pending with
    | some form =>
      if isValue word then do read forms toCommand (← g.addOption form word) none rest
      else .error (.missingValue form.name)
    | none => do
      match ← Word.of forms word with
      | .plain =>
        if toCommand then return (g.addWord word, rest)
        else read forms toCommand (g.addWord word) none rest
      | .separator => return (rest.foldl addWord g, [])
      | .option form (some value) =>
        if form.takesValue then read forms toCommand (← g.addOption form value) none rest
        else throw (.unexpectedValue form.name)
      | .option form none =>
        if form.takesValue then read forms toCommand g (some form) rest
        else read forms toCommand (← g.addOption form "") none rest

end Given

/-! ## Requests -/

/-- Where the settings are. -/
def SettingsSource.ofGiven (g : Given) (env : Variables) : SettingsSource :=
  { file := (g.value? env "config" "CONFIG_REPO_CONFIG").getD Directories.settingsFile
    workingDirectory := g.value? env "working-dir" "CONFIG_REPO_WORKING_DIR"
    dataDirectory := g.value? env "data-dir" "CONFIG_REPO_DATA_DIR" }

/-- The command with a name. -/
def Command.ofGiven (name : String) (g : Given) (env : Variables) : Command :=
  match name with
  | "sync" => .sync (.ofGiven g env) (g.values "only") (g.has "force")
  | "validate" => .validate (g.words.headD ".") (g.values "ignore")
  | "fingerprint" => .fingerprint (.ofGiven g env) (g.has "full")
  | _ => .status (.ofGiven g env) (g.has "json")

/-- The request that the words of a command line make. -/
def Request.ofWords (env : Variables) (words : List String) : Except UsageFault Request := do
  let (before, rest) ← Given.read commonOptions true {} none words
  let some name := before.words.head? | throw .missingCommand
  let some (forms, takesDirectory) := formsOf? name | throw (.unknownCommand name)
  let (given, _) ← Given.read (commonOptions ++ forms) false {} none rest
  if let some word := given.words[if takesDirectory then 1 else 0]? then
    throw (.unexpectedWord word)
  let common : Given := { options := before.options ++ given.options }
  return {
    command := .ofGiven name given env
    color := (common.values "color").getLastD "auto"
    logFilter := (common.value? env "log-level" "CONFIG_REPO_LOG_LEVEL").getD "warn" }

end PipelineSync.CommandLine
