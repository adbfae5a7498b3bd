import PipelineSync.Error

/-!
# Transactions

A change of several steps runs inside a transaction, so that all of it takes effect or nothing.
What has to wait until the change is durable is registered as a `Synchronization` and runs when the
transaction ends.

The open boundaries form a stack. A transaction inside a transaction joins it. A surrounding that is
opened while no transaction is open admits one transaction, and hands it what was registered in the
surrounding before. A body that fails rolls back. If a joined body fails, or something asks for it,
the transaction can only roll back, even when its own body ends well.
-/

namespace PipelineSync

namespace Transaction

/-- How a transaction ended. -/
inductive Completion where
  | committed
  | rolledBack
deriving DecidableEq, Repr, Inhabited

/-- What synchronizations see of the open boundaries. -/
structure View where
  isBodyExecuting : Bool
  isInSurrounding : Bool
  isRollbackOnly : Bool
deriving DecidableEq, Repr, Inhabited

end Transaction

/-- Callbacks of a transaction on a state. -/
structure Synchronization (σ : Type) where
  /-- Runs when the body has ended well. A failure rolls back. -/
  beforeCommit : Transaction.View → σ → Except Error Unit × σ := fun _ s => (.ok (), s)
  /-- Runs when the transaction is committed. -/
  afterCommit : Transaction.View → σ → σ := fun _ s => s
  /-- Runs at the end, whatever it is. -/
  afterCompletion : Transaction.View → Transaction.Completion → σ → σ := fun _ _ s => s

namespace Transaction

variable {σ ε α : Type}

/-- An open boundary. -/
inductive Boundary (σ : Type) where
  /-- With what was registered in it and, whether a transaction has claimed it. -/
  | surrounding (pending : List (Synchronization σ)) (isClaimed : Bool)
  | transaction (synchronizations : List (Synchronization σ)) (isRollbackOnly : Bool)

/-- The kinds of boundaries. -/
inductive Boundary.Kind where
  | surrounding
  | transaction
deriving DecidableEq, Repr, Inhabited

/-- The kind of a boundary. -/
def Boundary.kind : Boundary σ → Kind
  | surrounding .. => .surrounding
  | transaction .. => .transaction

/-- Open boundaries, the innermost first. -/
abbrev Boundaries (σ : Type) := List (Boundary σ)

namespace Boundaries

/-- Whether a transaction is open. -/
def isBodyExecuting (bs : Boundaries σ) : Bool :=
  bs.any fun b => b.kind = .transaction

/-- Whether a surrounding is open. -/
def isInSurrounding (bs : Boundaries σ) : Bool :=
  bs.any fun b => b.kind = .surrounding

/-- Whether the open transaction can only roll back. -/
def isRollbackOnly (bs : Boundaries σ) : Bool :=
  bs.any fun
    | .transaction _ rollbackOnly => rollbackOnly
    | .surrounding .. => false

/-- What synchronizations see. -/
def view (bs : Boundaries σ) : View :=
  ⟨bs.isBodyExecuting, bs.isInSurrounding, bs.isRollbackOnly⟩

/-- Changes the outermost transaction, if one is open. -/
def changeTransaction?
    (change : List (Synchronization σ) → Bool → List (Synchronization σ) × Bool) :
    Boundaries σ → Option (Boundaries σ)
  | [] => none
  | b :: rest =>
    match changeTransaction? change rest, b with
    | some rest, _ => some (b :: rest)
    | none, .transaction syncs rollbackOnly =>
      let (syncs, rollbackOnly) := change syncs rollbackOnly
      some (.transaction syncs rollbackOnly :: rest)
    | none, .surrounding .. => none

/-- Registers with the open transaction, or else with the innermost surrounding. -/
def register (sync : Synchronization σ) (bs : Boundaries σ) : Except Error (Boundaries σ) :=
  match bs.changeTransaction? fun syncs rollbackOnly => (syncs ++ [sync], rollbackOnly) with
  | some bs => .ok bs
  | none =>
    match bs with
    | .surrounding pending isClaimed :: rest =>
      .ok (.surrounding (pending ++ [sync]) isClaimed :: rest)
    | _ => .error .synchronizationNotActive

/-- Forces the open transaction to roll back. -/
def setRollbackOnly (bs : Boundaries σ) : Except Error (Boundaries σ) :=
  match bs.changeTransaction? fun syncs _ => (syncs, true) with
  | some bs => .ok bs
  | none => .error .synchronizationNotActive

/-- Claims the innermost surrounding for a new transaction, and takes what is registered there. -/
def claim : Boundaries σ → Except Error (List (Synchronization σ) × Boundaries σ)
  | [] => .ok ([], [])
  | .surrounding _ true :: _ => .error .multipleTransactionsNotPermitted
  | .surrounding pending false :: rest => .ok (pending, .surrounding [] true :: rest)
  | .transaction syncs rollbackOnly :: rest =>
    (claim rest).map fun (pending, rest) => (pending, .transaction syncs rollbackOnly :: rest)

/-- Closes boundaries up to the innermost transaction: what was registered with it, and whether it
can only roll back. -/
def popTransaction : Boundaries σ → (List (Synchronization σ) × Bool) × Boundaries σ
  | [] => (([], false), [])
  | .transaction syncs rollbackOnly :: rest => ((syncs, rollbackOnly), rest)
  | .surrounding .. :: rest => popTransaction rest

/-- Closes boundaries up to the innermost surrounding. -/
def popSurrounding : Boundaries σ → Boundaries σ
  | [] => []
  | .surrounding .. :: rest => rest
  | .transaction .. :: rest => popSurrounding rest

end Boundaries

/-- The open boundaries, and the state that synchronizations work on. -/
structure Session (σ : Type) where
  boundaries : Boundaries σ := []
  state : σ

/-- Runs the callbacks before a commit, up to the first that fails. -/
def runBeforeCommit (view : View) : List (Synchronization σ) → σ → Except Error Unit × σ
  | [], s => (.ok (), s)
  | sync :: rest, s =>
    match sync.beforeCommit view s with
    | (.ok (), s) => runBeforeCommit view rest s
    | (.error e, s) => (.error e, s)

/-- Runs the callbacks after a commit. -/
def runAfterCommit (view : View) (syncs : List (Synchronization σ)) (s : σ) : σ :=
  syncs.foldl (fun s sync => sync.afterCommit view s) s

/-- Runs the callbacks at the end. -/
def runAfterCompletion (view : View) (completion : Completion)
    (syncs : List (Synchronization σ)) (s : σ) : σ :=
  syncs.foldl (fun s sync => sync.afterCompletion view completion s) s

/-- Ends a transaction whose boundary is closed already: commits if the body ended well, nothing
asked for a rollback and no callback objects. -/
def finish (ofError : Error → ε) (view : View) (syncs : List (Synchronization σ))
    (rollbackOnly : Bool) (result : Except ε α) (s : σ) : Except ε α × σ :=
  let rollBack (e : ε) (s : σ) : Except ε α × σ :=
    (.error e, runAfterCompletion view .rolledBack syncs s)
  match result with
  | .error e => rollBack e s
  | .ok a =>
    if rollbackOnly then rollBack (ofError .unexpectedRollback) s
    else match runBeforeCommit view syncs s with
      | (.error e, s) => rollBack (ofError e) s
      | (.ok (), s) =>
        (.ok a, runAfterCompletion view .committed syncs (runAfterCommit view syncs s))

/-- Runs a body in a transaction: in the open one, or else in one of its own. Failures of the
transaction itself are given to the caller as failures of the body are, by way of `ofError`. -/
def execute (ofError : Error → ε) (body : Session σ → Except ε α × Session σ) (s : Session σ) :
    Except ε α × Session σ :=
  if s.boundaries.isBodyExecuting then
    match body s with
    | (.ok a, s) => (.ok a, s)
    | (.error e, s) =>
      match s.boundaries.setRollbackOnly with
      | .ok boundaries => (.error e, { s with boundaries })
      | .error e => (.error (ofError e), s)
  else
    match s.boundaries.claim with
    | .error e => (.error (ofError e), s)
    | .ok (inherited, boundaries) =>
      let (result, s) := body { s with boundaries := .transaction inherited false :: boundaries }
      let ((syncs, rollbackOnly), boundaries) := s.boundaries.popTransaction
      let (result, state) :=
        finish ofError boundaries.view syncs rollbackOnly result s.state
      (result, { boundaries, state })

/-- Runs a body in a surrounding. What was registered there and claimed by no transaction is
dropped in the end. -/
def surround (body : Session σ → Except ε α × Session σ) (s : Session σ) :
    Except ε α × Session σ :=
  let (result, s) := body { s with boundaries := .surrounding [] false :: s.boundaries }
  (result, { s with boundaries := s.boundaries.popSurrounding })

/-- Registers callbacks with the session. -/
def Session.register (sync : Synchronization σ) (s : Session σ) : Except Error Unit × Session σ :=
  match s.boundaries.register sync with
  | .ok boundaries => (.ok (), { s with boundaries })
  | .error e => (.error e, s)

/-- Forces the open transaction of the session to roll back. -/
def Session.setRollbackOnly (s : Session σ) : Except Error Unit × Session σ :=
  match s.boundaries.setRollbackOnly with
  | .ok boundaries => (.ok (), { s with boundaries })
  | .error e => (.error e, s)

end Transaction

end PipelineSync
