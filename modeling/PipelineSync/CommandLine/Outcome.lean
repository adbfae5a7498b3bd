import PipelineSync.Error
import PipelineSync.Log.Filter
import PipelineSync.Text.Split

/-!
# What a run leaves

A run of the command line prints lines, logs others on the side, and may fail for a reason that has
causes of its own.
-/

namespace PipelineSync

/-- The causes behind a failure that its wording repeats. -/
def Error.causes : Error → List String
  | .io message | .json message | .yaml message => [message]
  | .glob e => [e.message]
  | _ => []

namespace CommandLine

/-- Why a run failed: the reason, and what caused it, the nearest cause first. -/
structure Failure where
  reason : String
  causes : List String := []
deriving DecidableEq, Repr

namespace Failure

/-- The failure that an error is. -/
def ofError (e : Error) : Failure := ⟨e.message, e.causes⟩

/-- The failure with a reason in front of it. -/
def because (reason : String) (f : Failure) : Failure := ⟨reason, f.reason :: f.causes⟩

/-- Text whose lines but the first are indented. -/
def indentLines (n : Nat) (s : String) : String :=
  s.replace "\n" ("\n" ++ String.ofList (List.replicate n ' '))

/-- A cause in a list of several. -/
def numbered (i : Nat) (cause : String) : String :=
  let digits := toString i
  String.ofList (List.replicate (5 - digits.length) ' ') ++ digits ++ ": " ++ indentLines 7 cause

/-- The report of a failure: its causes are numbered if there are several. -/
def report (f : Failure) : String :=
  let causes := match f.causes with
    | [] => ""
    | [cause] => "\n\nCaused by:\n    " ++ indentLines 4 cause
    | causes =>
      "\n\nCaused by:\n" ++ Text.join "\n" (causes.zipIdx.map fun (cause, i) => numbered i cause)
  "Error: " ++ f.reason ++ causes ++ "\n"

end Failure

/-! ## The log -/

/-- What made no sense in a filter, and the lines of the log that it lets through. -/
def shownLog (filter : Log.Filter) (lines : List Log.Line) : String :=
  let complaints := filter.complaints.map fun c => "warning: " ++ c ++ ", ignoring it"
  let shown := (lines.filter filter.admits).map fun line => Failure.indentLines 4 line.text
  String.join ((complaints ++ shown).map (· ++ "\n"))

/-! ## Outcomes -/

/-- What a command leaves: the lines it printed, and why it failed if it did. -/
structure Printed where
  lines : List String := []
  failure : Option Failure := none
deriving DecidableEq, Repr

/-- What a run leaves. -/
structure Outcome where
  exitCode : Nat
  output : String
  errors : String
deriving DecidableEq, Repr

/-- The outcome of a command whose log is shown through a filter. -/
def Outcome.ofPrinted (p : Printed) (filter : Log.Filter) (log : List Log.Line) : Outcome where
  exitCode := if p.failure.isSome then 1 else 0
  output := String.join (p.lines.map (· ++ "\n"))
  errors := shownLog filter log ++ (match p.failure with | some f => f.report | none => "")

end CommandLine

end PipelineSync
