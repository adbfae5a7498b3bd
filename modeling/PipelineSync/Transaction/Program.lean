import PipelineSync.Transaction.Basic

/-!
# Transaction programs

Programs of nested transactions, surroundings and registrations as data. A run gives the events in
the order in which they happen, so what a program does to its synchronizations can be read off, and
stated for all programs.
-/

namespace PipelineSync.Transaction

/-- Why a statement fails. -/
inductive Failure where
  /-- By its own decision. -/
  | application (name : String)
  | error (e : Error)
deriving DecidableEq, Repr

/-- The wording of a failure. -/
def Failure.text : Failure → String
  | application name => "app: " ++ name
  | error e => e.message

/-- A failure for callers that know only errors: what a body decides is an error of its
configuration. -/
def Failure.toError : Failure → Error
  | application name => .configParse (application name).text none
  | error e => e

/-- Callbacks to register. All of them note that they were called. -/
inductive Registration where
  /-- All callbacks; the one before the commit fails if a failure is given. -/
  | full (name : String) (failure : Option String)
  /-- No callbacks. -/
  | silent
  /-- The callback before the commit, which fails if a failure is given. -/
  | beforeCommit (name : String) (failure : Option String)
  /-- The callback after the commit. -/
  | afterCommit (name : String)
deriving DecidableEq, Repr

/-- A statement of a program. -/
inductive Statement where
  | log (name : String)
  /-- Notes the open boundaries. -/
  | probe
  | fail (name : String)
  | setRollbackOnly
  | register (registration : Registration)
  /-- A transaction that hands the failures of its body on. -/
  | execute (body : List Statement)
  /-- A transaction that hands the failures of its body on as errors. -/
  | executePlain (body : List Statement)
  | surround (body : List Statement)
  /-- A statement whose failure does not end the body. -/
  | caught (statement : Statement)

/-- The word for a statement. -/
def Statement.word : Statement → String
  | log _ => "log"
  | probe => "probe"
  | fail _ => "fail"
  | setRollbackOnly => "set_rollback_only"
  | register (.full ..) => "register"
  | register .silent => "register_silent"
  | register (.beforeCommit ..) => "before_commit"
  | register (.afterCommit _) => "after_commit"
  | execute _ => "execute"
  | executePlain _ => "execute_plain"
  | surround _ => "surrounding"
  | caught s => s.word

/-- What happens in a run. -/
inductive Event where
  | note (name : String)
  /-- The open boundaries, the outermost first. -/
  | probe (view : View) (kinds : List Boundary.Kind)
  | failed (word : String) (failure : Failure)
  /-- A body ended well after so many statements. -/
  | finished (word : String) (count : Nat)
  | beforeCommit (name : String) (view : View)
  | afterCommit (name : String) (view : View)
  | afterCompletion (name : String) (completion : Completion) (view : View)
deriving DecidableEq, Repr

/-- A session whose state is the list of events so far. -/
abbrev Trace := Session (List Event)

namespace Trace

/-- Adds an event. -/
def note (t : Trace) (e : Event) : Trace := { t with state := t.state ++ [e] }

end Trace

/-- The callback before a commit that notes its call and fails if a failure is given. -/
def noteBeforeCommit (name : String) (failure : Option String) (view : View) (events : List Event) :
    Except Error Unit × List Event :=
  (match failure with | some context => .error (.lockPoisoned context) | none => .ok (),
    events ++ [.beforeCommit name view])

/-- The callbacks that a registration stands for. -/
def Registration.toSynchronization : Registration → Synchronization (List Event)
  | full name failure =>
    { beforeCommit := noteBeforeCommit name failure
      afterCommit := fun view events => events ++ [.afterCommit name view]
      afterCompletion := fun view c events => events ++ [.afterCompletion name c view] }
  | silent => {}
  | beforeCommit name failure => { beforeCommit := noteBeforeCommit name failure }
  | afterCommit name => { afterCommit := fun view events => events ++ [.afterCommit name view] }

/-- Notes how a statement ended. -/
def conclude (word : String) : Except Failure Nat × Trace → Except Failure Unit × Trace
  | (.ok n, t) => (.ok (), t.note (.finished word n))
  | (.error f, t) => (.error f, t.note (.failed word f))

/-- Notes the failure of a statement that is an operation of the session. -/
def attempt (word : String) : Except Error Unit × Trace → Except Failure Unit × Trace
  | (.ok (), t) => (.ok (), t)
  | (.error e, t) => (.error (.error e), t.note (.failed word (.error e)))

mutual

/-- Runs a statement. -/
def Statement.run : Statement → Trace → Except Failure Unit × Trace
  | .log name, t => (.ok (), t.note (.note name))
  | .probe, t =>
    (.ok (), t.note (.probe t.boundaries.view (t.boundaries.reverse.map Boundary.kind)))
  | .fail name, t =>
    (.error (.application name), t.note (.failed "fail" (.application name)))
  | .setRollbackOnly, t => attempt "set_rollback_only" t.setRollbackOnly
  | .register r, t => attempt (Statement.register r).word (t.register r.toSynchronization)
  | .execute body, t =>
    conclude "execute" (Transaction.execute Failure.error (runBody 0 body) t)
  | .executePlain body, t =>
    let (result, t) := Transaction.execute id (fun t =>
      let (result, t) := runBody 0 body t
      (result.mapError Failure.toError, t)) t
    conclude "execute_plain" (result.mapError Failure.error, t)
  | .surround body, t => conclude "surrounding" (Transaction.surround (runBody 0 body) t)
  | .caught s, t => (.ok (), (s.run t).2)

/-- Runs statements up to the first failure, and counts those that ended well or were caught. -/
def runBody (count : Nat) : List Statement → Trace → Except Failure Nat × Trace
  | [], t => (.ok count, t)
  | s :: rest, t =>
    match s.run t with
    | (.ok (), t) => runBody (count + 1) rest t
    | (.error f, t) => (.error f, t)

end

/-- Runs a program where nothing is open. -/
def run (program : List Statement) : Except Failure Nat × Trace :=
  runBody 0 program { state := [] }

end PipelineSync.Transaction
