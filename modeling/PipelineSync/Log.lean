/-!
# Log lines

What the program says on the side, with the part of the program that says it and a level. Both decide
whether it is shown.
-/

namespace PipelineSync

namespace Log

/-- How much a line matters. -/
inductive Level where
  | error
  | warn
  | info
  | debug
  | trace
deriving DecidableEq, Repr

namespace Level

/-- The rank of a level: the more it matters, the lower. -/
def rank : Level → Nat
  | error => 1
  | warn => 2
  | info => 3
  | debug => 4
  | trace => 5

/-- The level in capital letters, padded to the width of the longest. -/
def label : Level → String
  | error => "ERROR"
  | warn => "WARN "
  | info => "INFO "
  | debug => "DEBUG"
  | trace => "TRACE"

end Level

/-- The parts of the program that say something. -/
inductive Area where
  | materials
  | fragments
  | workingCopies
  | tracker
  | transactions
  | health
  | engine
  | records
  | sync
  | validation
deriving DecidableEq, Repr

/-- The name of an area, which those who choose what is shown use. -/
def Area.name (a : Area) : String :=
  "config_repo::" ++ match a with
    | materials => "material"
    | fragments => "fragment"
    | workingCopies => "checkout"
    | tracker => "tracker"
    | transactions => "transaction"
    | health => "health"
    | engine => "engine"
    | records => "engine::store"
    | sync => "commands::sync"
    | validation => "commands::validate"

/-- A line of the log. -/
structure Line where
  area : Area
  level : Level
  message : String
deriving DecidableEq, Repr

/-- A line as it is shown. -/
def Line.text (l : Line) : String := "[" ++ l.level.label ++ "] " ++ l.message

end Log

end PipelineSync
