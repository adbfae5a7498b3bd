import PipelineSync.Transaction.Basic

/-!
# Bodies of transactions

A `Body` is a program of nested transactions, surroundings and registrations. What it does next may
depend on how everything has gone so far, so it may hand a failure on, swallow it, or go on in any
other way. A run notes what bodies ask for, and which callbacks are called, in that order.

`Body.run_session` is what a body does where a transaction is open: whatever it registers, at any
depth, goes to that transaction, nothing is called, and what must not be committed is marked.
-/

namespace PipelineSync.Transaction

variable {σ τ ε α : Type}

/-! ## Programs -/

/-- What happens in a run. -/
inductive Note (τ : Type) where
  | register (sync : Synchronization τ)
  | rollbackAsked
  /-- The body of a transaction has ended, be it one of its own or one that has joined. -/
  | ended (isOk : Bool)
  | beforeCommit (sync : Synchronization τ) (view : View) (isOk : Bool)
  | afterCommit (sync : Synchronization τ) (view : View)
  | afterCompletion (sync : Synchronization τ) (completion : Completion) (view : View)

namespace Note

/-- Whether it is the call of a callback. -/
def isCall : Note τ → Bool
  | register _ | rollbackAsked | ended _ => false
  | beforeCommit .. | afterCommit .. | afterCompletion .. => true

/-- What is registered. -/
def registered? : Note τ → Option (Synchronization τ)
  | register sync => some sync
  | _ => none

/-- Whether a transaction in which it happens can only roll back. -/
def dooms : Note τ → Bool
  | rollbackAsked => true
  | ended isOk => !isOk
  | _ => false

theorem filterMap_registered?_eq_nil {n : Note τ} (h : n.registered? = none) :
    [n].filterMap registered? = [] :=
  List.filterMap_cons_none h

end Note

/-- A state, and what has happened so far. -/
structure Logged (τ : Type) where
  state : τ
  notes : List (Note τ) := []

/-- Notes what happens. -/
def Logged.note (st : Logged τ) (n : Note τ) : Logged τ := ⟨st.state, st.notes ++ [n]⟩

/-- Notes what happens in a session. -/
def Session.note (s : Session (Logged τ)) (n : Note τ) : Session (Logged τ) :=
  { s with state := s.state.note n }

/-- The same callbacks, which note that they are called. -/
def noting (sync : Synchronization τ) : Synchronization (Logged τ) where
  beforeCommit view st :=
    let (result, state) := sync.beforeCommit view st.state
    (result, ⟨state, st.notes ++ [.beforeCommit sync view result.isOk]⟩)
  afterCommit view st := ⟨sync.afterCommit view st.state, st.notes ++ [.afterCommit sync view]⟩
  afterCompletion view completion st :=
    ⟨sync.afterCompletion view completion st.state,
      st.notes ++ [.afterCompletion sync completion view]⟩

theorem noting_beforeCommit (sync : Synchronization τ) (view : View) (st : Logged τ) :
    (noting sync).beforeCommit view st =
      let asked := sync.beforeCommit view st.state
      (asked.1, ⟨asked.2, st.notes ++ [.beforeCommit sync view asked.1.isOk]⟩) := rfl

/-- A program. Each step but the last is followed by one that is chosen by how the step went. -/
inductive Body (τ : Type) : Type → Type → Type 1 where
  | done {ε α : Type} (result : Except ε α) : Body τ ε α
  /-- Works on the state, and may look at what is open. -/
  | work {ε α β : Type} (step : View → τ → β × τ) (next : β → Body τ ε α) : Body τ ε α
  | register {ε α : Type} (sync : Synchronization τ) (next : Except Error Unit → Body τ ε α) :
    Body τ ε α
  | setRollbackOnly {ε α : Type} (next : Except Error Unit → Body τ ε α) : Body τ ε α
  | execute {ε α δ β : Type} (ofError : Error → δ) (body : Body τ δ β)
      (next : Except δ β → Body τ ε α) : Body τ ε α
  | surround {ε α δ β : Type} (body : Body τ δ β) (next : Except δ β → Body τ ε α) :
    Body τ ε α

/-- Notes that a body has ended. -/
def noteEnd (x : Except ε α × Session (Logged τ)) : Except ε α × Session (Logged τ) :=
  (x.1, x.2.note (.ended x.1.isOk))

namespace Body

/-- Runs a program. -/
def run : {ε α : Type} → Body τ ε α → Session (Logged τ) →
    Except ε α × Session (Logged τ)
  | _, _, done result, s => (result, s)
  | _, _, work step next, s =>
    let (b, state) := step s.boundaries.view s.state.state
    (next b).run { s with state := { s.state with state } }
  | _, _, register sync next, s =>
    let (result, s) := (s.note (.register sync)).register (noting sync)
    (next result).run s
  | _, _, setRollbackOnly next, s =>
    let (result, s) := (s.note .rollbackAsked).setRollbackOnly
    (next result).run s
  | _, _, execute ofError body next, s =>
    let (result, s) := Transaction.execute ofError (fun s => noteEnd (body.run s)) s
    (next result).run s
  | _, _, surround body next, s =>
    let (result, s) := Transaction.surround body.run s
    (next result).run s

/-- Runs a program as the body of a transaction. -/
def transact (ofError : Error → ε) (body : Body τ ε α) (s : Session (Logged τ)) :
    Except ε α × Session (Logged τ) :=
  Transaction.execute ofError (fun s => noteEnd (body.run s)) s

end Body

/-! ## Open transactions -/

namespace Boundaries

theorem changeTransaction?_eq_none {bs : Boundaries σ} (h : bs.isBodyExecuting = false)
    (change : List (Synchronization σ) → Bool → List (Synchronization σ) × Bool) :
    bs.changeTransaction? change = none := by
  induction bs with
  | nil => rfl
  | cons b rest ih =>
    rw [isBodyExecuting, List.any_cons, Bool.or_eq_false_iff] at h
    cases b with
    | surrounding => simp only [changeTransaction?, ih h.2]
    | transaction => exact absurd h.1 (by simp [Boundary.kind])

end Boundaries

/-- Where a transaction is open: what is open in it, the innermost first, and around it. There is
no other transaction. -/
structure Place (σ : Type) where
  inside : Boundaries σ
  outside : Boundaries σ
  inside_idle : inside.isBodyExecuting = false
  outside_idle : outside.isBodyExecuting = false

namespace Place

/-- With another surrounding in the transaction. -/
def enter (p : Place σ) : Place σ where
  inside := .surrounding [] false :: p.inside
  outside := p.outside
  inside_idle := p.inside_idle
  outside_idle := p.outside_idle

/-- The open boundaries, with a transaction that owns these synchronizations. -/
def boundaries (p : Place σ) (syncs : List (Synchronization σ)) (rollbackOnly : Bool) :
    Boundaries σ :=
  p.inside ++ .transaction syncs rollbackOnly :: p.outside

variable (p : Place σ) (syncs : List (Synchronization σ)) (rollbackOnly : Bool)

theorem isBodyExecuting_boundaries :
    (p.boundaries syncs rollbackOnly).isBodyExecuting = true := by
  simp [boundaries, Boundaries.isBodyExecuting, Boundary.kind]

/-- The transaction that changes is the open one, whatever is open in it. -/
theorem changeTransaction?_boundaries
    (change : List (Synchronization σ) → Bool → List (Synchronization σ) × Bool) :
    (p.boundaries syncs rollbackOnly).changeTransaction? change =
      some (p.boundaries (change syncs rollbackOnly).1 (change syncs rollbackOnly).2) := by
  rw [boundaries, boundaries]
  induction p.inside with
  | nil =>
    have hnone := Boundaries.changeTransaction?_eq_none p.outside_idle change
    simp only [List.nil_append, Boundaries.changeTransaction?, hnone]
  | cons b inside ih => simp only [List.cons_append, Boundaries.changeTransaction?, ih]

theorem register_boundaries (sync : Synchronization σ) :
    (p.boundaries syncs rollbackOnly).register sync =
      .ok (p.boundaries (syncs ++ [sync]) rollbackOnly) := by
  simp only [Boundaries.register, changeTransaction?_boundaries]

theorem setRollbackOnly_boundaries :
    (p.boundaries syncs rollbackOnly).setRollbackOnly = .ok (p.boundaries syncs true) := by
  rw [Boundaries.setRollbackOnly, changeTransaction?_boundaries]

/-- A session in which a transaction with these callbacks is open. -/
def session (p : Place (Logged τ)) (owned : List (Synchronization τ)) (rollbackOnly : Bool)
    (st : Logged τ) : Session (Logged τ) :=
  ⟨p.boundaries (owned.map noting) rollbackOnly, st⟩

end Place

/-! ## What a body does in an open transaction -/

/-- A session has gone on in the transaction that was open: with what has been registered and noted
since, and no callback has been called. -/
def Place.Advances (p : Place (Logged τ)) (owned : List (Synchronization τ)) (rollbackOnly : Bool)
    (st : Logged τ) (s : Session (Logged τ)) : Prop :=
  ∃ (notes : List (Note τ)) (state : τ),
    s = p.session (owned ++ notes.filterMap Note.registered?)
      (rollbackOnly || notes.any Note.dooms) ⟨state, st.notes ++ notes⟩ ∧
    ∀ n ∈ notes, n.isCall = false

namespace Place.Advances

variable {p : Place (Logged τ)} {owned : List (Synchronization τ)} {rollbackOnly : Bool}
  {st : Logged τ} {s : Session (Logged τ)}

theorem refl (state : τ) : p.Advances owned rollbackOnly st
    (p.session owned rollbackOnly ⟨state, st.notes⟩) :=
  ⟨[], state, by simp, by simp⟩

theorem andThen (h : p.Advances owned rollbackOnly st s) {next : Body τ ε α}
    (hnext : ∀ owned rollbackOnly st,
      p.Advances owned rollbackOnly st (next.run (p.session owned rollbackOnly st)).2) :
    p.Advances owned rollbackOnly st (next.run s).2 := by
  obtain ⟨notes, state, rfl, hcalls⟩ := h
  obtain ⟨later, state', hs, hcalls'⟩ := hnext (owned ++ notes.filterMap Note.registered?)
    (rollbackOnly || notes.any Note.dooms) ⟨state, st.notes ++ notes⟩
  refine ⟨notes ++ later, state', ?_, List.forall_mem_append.2 ⟨hcalls, hcalls'⟩⟩
  simpa [List.append_assoc, Bool.or_assoc] using hs

theorem register (sync : Synchronization τ) : p.Advances owned rollbackOnly st
    (((p.session owned rollbackOnly st).note (.register sync)).register (noting sync)).2 := by
  refine ⟨[.register sync], st.state, ?_, by simp [Note.isCall]⟩
  have hregister := p.register_boundaries (owned.map noting) rollbackOnly (noting sync)
  simp [Session.register, Session.note, Place.session, hregister, Note.registered?, Note.dooms,
    Logged.note]

theorem setRollbackOnly : p.Advances owned rollbackOnly st
    ((p.session owned rollbackOnly st).note .rollbackAsked).setRollbackOnly.2 := by
  refine ⟨[.rollbackAsked], st.state, ?_, by simp [Note.isCall]⟩
  have hset := p.setRollbackOnly_boundaries (owned.map noting) rollbackOnly
  have hnone : [(.rollbackAsked : Note τ)].filterMap Note.registered? = [] :=
    Note.filterMap_registered?_eq_nil rfl
  simp [Session.setRollbackOnly, Session.note, Place.session, hset, hnone, Note.dooms, Logged.note]

/-- A body in an open transaction joins it, and dooms it by its failure. -/
theorem transact {body : Body τ ε α}
    (h : p.Advances owned rollbackOnly st (body.run (p.session owned rollbackOnly st)).2)
    (ofError : Error → ε) : p.Advances owned rollbackOnly st
      (body.transact ofError (p.session owned rollbackOnly st)).2 := by
  have hopen : (p.session owned rollbackOnly st).boundaries.isBodyExecuting = true :=
    p.isBodyExecuting_boundaries _ _
  obtain ⟨notes, state, hs, hcalls⟩ := h
  refine ⟨notes ++ [.ended (body.run (p.session owned rollbackOnly st)).1.isOk], state, ?_,
    List.forall_mem_append.2 ⟨hcalls, by simp [Note.isCall]⟩⟩
  rw [Body.transact, execute, if_pos hopen, noteEnd, hs]
  have hset := p.setRollbackOnly_boundaries
    ((owned ++ notes.filterMap Note.registered?).map noting) (rollbackOnly || notes.any Note.dooms)
  rw [List.filterMap_append, Note.filterMap_registered?_eq_nil rfl, List.append_nil]
  cases (body.run (p.session owned rollbackOnly st)).1 with
  | ok a => simp [Session.note, Place.session, Note.dooms, Logged.note, Except.isOk, Except.toBool]
  | error e =>
    simp only [Session.note, Place.session, hset]
    simp [Note.dooms, Logged.note, Except.isOk, Except.toBool]

theorem surround {body : Body τ ε α}
    (h : p.enter.Advances owned rollbackOnly st
      (body.run (p.enter.session owned rollbackOnly st)).2) :
    p.Advances owned rollbackOnly st
      (Transaction.surround body.run (p.session owned rollbackOnly st)).2 := by
  obtain ⟨notes, state, hs, hcalls⟩ := h
  refine ⟨notes, state, ?_, hcalls⟩
  have hleft : (Transaction.surround body.run (p.session owned rollbackOnly st)).2 =
      ⟨Boundaries.popSurrounding (body.run (p.enter.session owned rollbackOnly st)).2.boundaries,
        (body.run (p.enter.session owned rollbackOnly st)).2.state⟩ := rfl
  rw [hleft, hs]
  rfl

end Place.Advances

/-- What a body does where a transaction is open concerns that transaction alone. -/
theorem Body.run_session (body : Body τ ε α) (p : Place (Logged τ))
    (owned : List (Synchronization τ)) (rollbackOnly : Bool) (st : Logged τ) :
    p.Advances owned rollbackOnly st (body.run (p.session owned rollbackOnly st)).2 := by
  -- the place changes under surroundings, and what is owned grows from step to step
  induction body generalizing p owned rollbackOnly st with
  | done result => exact .refl st.state
  | work step next ih =>
    let view := (p.boundaries (owned.map noting) rollbackOnly).view
    have hnext := ih (step view st.state).1 p
    exact (Place.Advances.refl (step view st.state).2).andThen hnext
  | register sync next ih => exact (Place.Advances.register sync).andThen (ih _ p)
  | setRollbackOnly next ih => exact Place.Advances.setRollbackOnly.andThen (ih _ p)
  | execute ofError body next ihbody ih =>
    exact ((ihbody p owned rollbackOnly st).transact ofError).andThen (ih _ p)
  | surround body next ihbody ih =>
    exact (ihbody p.enter owned rollbackOnly st).surround.andThen (ih _ p)

end PipelineSync.Transaction
