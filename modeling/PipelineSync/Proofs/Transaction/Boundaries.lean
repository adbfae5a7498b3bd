import PipelineSync.Proofs.Transaction.Commit

/-!
# The stack of open boundaries

Boundaries are closed by popping up to the innermost one of a kind, whatever lies above it. That
this closes what the same call has opened, and nothing else, is because every body leaves the stack
as it was: the same boundaries are open after it as before, in the same order, but for what is
registered with them and how they are marked (`Body.kinds_run`).

`Visits` tells where a program comes to on its way, and which calls are open there. Of these calls
the stack has a boundary each, but for transactions that have joined another (`Visits.kinds_eq`).
-/

namespace PipelineSync.Transaction

variable {σ τ ε α δ β : Type}

/-! ## Operations on the stack -/

namespace Boundaries

/-- The kinds of open boundaries, the innermost first. -/
def kinds (bs : Boundaries σ) : List Boundary.Kind := bs.map Boundary.kind

theorem kinds_cons (b : Boundary σ) (rest : Boundaries σ) :
    kinds (b :: rest) = b.kind :: kinds rest := rfl

theorem isBodyExecuting_iff {bs : Boundaries σ} :
    bs.isBodyExecuting = true ↔ .transaction ∈ bs.kinds := by
  simp [isBodyExecuting, kinds]

theorem isBodyExecuting_congr {bs bs' : Boundaries σ} (h : bs.kinds = bs'.kinds) :
    bs.isBodyExecuting = bs'.isBodyExecuting := by
  rw [Bool.eq_iff_iff, isBodyExecuting_iff, isBodyExecuting_iff, h]

theorem kinds_changeTransaction? {bs bs' : Boundaries σ}
    {change : List (Synchronization σ) → Bool → List (Synchronization σ) × Bool}
    (h : bs.changeTransaction? change = some bs') : bs'.kinds = bs.kinds := by
  induction bs generalizing bs' with
  | nil => cases h
  | cons b rest ih =>
    cases hrest : changeTransaction? change rest with
    | some rest' =>
      simp only [changeTransaction?, hrest] at h
      obtain rfl := Option.some.inj h
      rw [kinds_cons, kinds_cons, ih hrest]
    | none =>
      cases b with
      | surrounding =>
        simp only [changeTransaction?, hrest] at h
        cases h
      | transaction syncs rollbackOnly =>
        simp only [changeTransaction?, hrest] at h
        obtain rfl := Option.some.inj h
        rfl

/-- An open transaction can be changed. -/
theorem exists_changeTransaction? {bs : Boundaries σ} (h : bs.isBodyExecuting = true)
    (change : List (Synchronization σ) → Bool → List (Synchronization σ) × Bool) :
    ∃ bs', bs.changeTransaction? change = some bs' := by
  induction bs with
  | nil => cases h
  | cons b rest ih =>
    cases hrest : changeTransaction? change rest with
    | some rest' => exact ⟨b :: rest', by simp only [changeTransaction?, hrest]⟩
    | none =>
      cases b with
      | transaction => exact ⟨_, by simp only [changeTransaction?, hrest]; rfl⟩
      | surrounding =>
        obtain ⟨rest', hchanged⟩ := ih h
        cases hrest.symm.trans hchanged

theorem kinds_register {bs bs' : Boundaries σ} {sync : Synchronization σ}
    (h : bs.register sync = .ok bs') : bs'.kinds = bs.kinds := by
  unfold register at h
  split at h
  · next hchanged =>
    obtain rfl := Except.ok.inj h
    exact kinds_changeTransaction? hchanged
  · split at h
    · obtain rfl := Except.ok.inj h
      rfl
    · cases h

theorem kinds_setRollbackOnly {bs bs' : Boundaries σ} (h : bs.setRollbackOnly = .ok bs') :
    bs'.kinds = bs.kinds := by
  rw [setRollbackOnly] at h
  split at h
  · next hchanged =>
    obtain rfl := Except.ok.inj h
    exact kinds_changeTransaction? hchanged
  · cases h

/-- An open transaction can be marked. -/
theorem exists_setRollbackOnly {bs : Boundaries σ} (h : bs.isBodyExecuting = true) :
    ∃ bs', bs.setRollbackOnly = .ok bs' := by
  obtain ⟨bs', hchanged⟩ := exists_changeTransaction? h fun syncs _ => (syncs, true)
  exact ⟨bs', by rw [setRollbackOnly, hchanged]⟩

theorem kinds_claim {bs bs' : Boundaries σ} {inherited : List (Synchronization σ)}
    (h : bs.claim = .ok (inherited, bs')) : bs'.kinds = bs.kinds := by
  induction bs generalizing bs' with
  | nil => cases h; rfl
  | cons b rest ih =>
    cases b with
    | surrounding pending isClaimed =>
      cases isClaimed with
      | true => cases h
      | false => cases h; rfl
    | transaction syncs rollbackOnly =>
      rw [claim] at h
      cases hrest : claim rest with
      | error e =>
        rw [hrest] at h
        cases h
      | ok claimed =>
        rw [hrest] at h
        cases h
        rw [kinds_cons, kinds_cons, ih hrest]

/-- A stack on which a boundary lies, by its kinds. -/
theorem exists_cons_of_kinds {bs : Boundaries σ} {kind : Boundary.Kind}
    {below : List Boundary.Kind} (h : bs.kinds = kind :: below) :
    ∃ b rest, bs = b :: rest ∧ b.kind = kind ∧ kinds rest = below := by
  cases bs with
  | nil => cases h
  | cons b rest =>
    obtain ⟨hkind, hrest⟩ := List.cons.inj h
    exact ⟨b, rest, rfl, hkind, hrest⟩

/-- Popping a transaction takes the boundary on the top, if that is one. -/
theorem popTransaction_cons {b : Boundary σ} (h : b.kind = .transaction) (rest : Boundaries σ) :
    (popTransaction (b :: rest)).2 = rest := by
  cases b with
  | surrounding => cases h
  | transaction => rfl

/-- Popping a surrounding takes the boundary on the top, if that is one. -/
theorem popSurrounding_cons {b : Boundary σ} (h : b.kind = .surrounding) (rest : Boundaries σ) :
    popSurrounding (b :: rest) = rest := by
  cases b with
  | surrounding => rfl
  | transaction => cases h

end Boundaries

open Boundaries

/-! ## What a body leaves -/

theorem kinds_sessionRegister (sync : Synchronization σ) (s : Session σ) :
    (s.register sync).2.boundaries.kinds = s.boundaries.kinds := by
  rw [Session.register]
  split
  · next h => exact kinds_register h
  · rfl

theorem kinds_sessionSetRollbackOnly (s : Session σ) :
    s.setRollbackOnly.2.boundaries.kinds = s.boundaries.kinds := by
  rw [Session.setRollbackOnly]
  split
  · next h => exact kinds_setRollbackOnly h
  · rfl

section Calls

variable {body : Session σ → Except ε α × Session σ}
  (hbody : ∀ s, (body s).2.boundaries.kinds = s.boundaries.kinds)
include hbody

theorem kinds_execute (ofError : Error → ε) (s : Session σ) :
    (execute ofError body s).2.boundaries.kinds = s.boundaries.kinds := by
  rw [execute]
  split
  · -- the body has joined, and is marked if it failed
    rcases hran : body s with ⟨e | a, s'⟩ <;> have hs := hbody s <;> rw [hran] at hs
    · dsimp only
      split
      · next hmarked => exact (kinds_setRollbackOnly hmarked).trans hs
      · exact hs
    · exact hs
  · cases hclaim : s.boundaries.claim with
    | error e => rfl
    | ok claimed =>
      -- the boundary that was pushed is on the top again when the body has ended
      have hs := hbody { s with boundaries := .transaction claimed.1 false :: claimed.2 }
      obtain ⟨b, rest, hended, hkind, hrest⟩ := exists_cons_of_kinds hs
      dsimp only
      rw [hended, popTransaction_cons hkind]
      exact hrest.trans (kinds_claim hclaim)

theorem kinds_surround (s : Session σ) :
    (surround body s).2.boundaries.kinds = s.boundaries.kinds := by
  have hs := hbody { s with boundaries := .surrounding [] false :: s.boundaries }
  obtain ⟨b, rest, hended, hkind, hrest⟩ := exists_cons_of_kinds hs
  rw [surround]
  dsimp only
  rw [hended, popSurrounding_cons hkind]
  exact hrest

end Calls

theorem Body.kinds_transact_of {body : Body τ ε α}
    (hbody : ∀ s, (body.run s).2.boundaries.kinds = s.boundaries.kinds) (ofError : Error → ε)
    (s : Session (Logged τ)) :
    (body.transact ofError s).2.boundaries.kinds = s.boundaries.kinds := by
  have hended : ∀ s, (noteEnd (body.run s)).2.boundaries.kinds = s.boundaries.kinds := hbody
  exact kinds_execute hended ofError s

/-- A body leaves the boundaries open that were open before it, in any session. -/
theorem Body.kinds_run (body : Body τ ε α) (s : Session (Logged τ)) :
    (body.run s).2.boundaries.kinds = s.boundaries.kinds := by
  induction body generalizing s with
  | done result => rfl
  | work step next ih => exact ih _ _
  | register sync next ih => exact (ih _ _).trans (kinds_sessionRegister _ _)
  | setRollbackOnly next ih => exact (ih _ _).trans (kinds_sessionSetRollbackOnly _)
  | execute ofError body next ihbody ih =>
    exact (ih _ _).trans (Body.kinds_transact_of ihbody ofError s)
  | surround body next ihbody ih => exact (ih _ _).trans (kinds_surround ihbody s)

/-- What was pushed before a body is on the top after it, and what was below is below. -/
theorem Body.exists_run_cons (body : Body τ ε α) (b : Boundary (Logged τ))
    (rest : Boundaries (Logged τ)) (st : Logged τ) :
    ∃ b' rest', (body.run ⟨b :: rest, st⟩).2.boundaries = b' :: rest' ∧ b'.kind = b.kind ∧
      kinds rest' = kinds rest :=
  exists_cons_of_kinds (body.kinds_run ⟨b :: rest, st⟩)

/-! ## Calls from a session -/

/-- The stack of a session is safe with the calls that are made there, whatever the bodies do. -/
structure Disciplined (s : Session (Logged τ)) : Prop where
  /-- A transaction leaves the boundaries open that were open before it. -/
  transact {δ β : Type} (ofError : Error → δ) (body : Body τ δ β) :
    (body.transact ofError s).2.boundaries.kinds = s.boundaries.kinds
  /-- So does a surrounding. -/
  surround {δ β : Type} (body : Body τ δ β) :
    (Transaction.surround body.run s).2.boundaries.kinds = s.boundaries.kinds
  /-- A transaction of its own pops the boundary that it has pushed. -/
  popTransaction {δ β : Type} (body : Body τ δ β) {inherited : List (Synchronization (Logged τ))}
    {boundaries : Boundaries (Logged τ)} (hidle : s.boundaries.isBodyExecuting = false)
    (hclaim : s.boundaries.claim = .ok (inherited, boundaries)) :
    ∃ syncs rollbackOnly rest,
      (body.run ⟨.transaction inherited false :: boundaries, s.state⟩).2.boundaries =
        .transaction syncs rollbackOnly :: rest ∧
      Boundaries.popTransaction (.transaction syncs rollbackOnly :: rest) =
        ((syncs, rollbackOnly), rest) ∧
      kinds rest = s.boundaries.kinds
  /-- A surrounding pops the boundary that it has pushed. -/
  popSurrounding {δ β : Type} (body : Body τ δ β) :
    ∃ pending isClaimed rest,
      (body.run ⟨.surrounding [] false :: s.boundaries, s.state⟩).2.boundaries =
        .surrounding pending isClaimed :: rest ∧
      Boundaries.popSurrounding (.surrounding pending isClaimed :: rest) = rest ∧
      kinds rest = s.boundaries.kinds
  /-- The failure of a body that has joined is marked, and is what the call fails with. -/
  mark {δ β : Type} (ofError : Error → δ) (body : Body τ δ β)
    (hopen : s.boundaries.isBodyExecuting = true) :
    (∃ boundaries, (body.run s).2.boundaries.setRollbackOnly = .ok boundaries) ∧
      (body.transact ofError s).1 = (body.run s).1

/-- The transaction that a body has joined is still open when the body has ended. -/
theorem Body.exists_marked (body : Body τ ε α) {s : Session (Logged τ)}
    (h : s.boundaries.isBodyExecuting = true) :
    ∃ boundaries, (body.run s).2.boundaries.setRollbackOnly = .ok boundaries :=
  exists_setRollbackOnly ((isBodyExecuting_congr (body.kinds_run s)).trans h)

theorem Body.transact_fst_of_executing (body : Body τ ε α) {s : Session (Logged τ)}
    (h : s.boundaries.isBodyExecuting = true) (ofError : Error → ε) :
    (body.transact ofError s).1 = (body.run s).1 := by
  obtain ⟨boundaries, hmarked⟩ := body.exists_marked h
  rw [Body.transact, Transaction.execute, if_pos h]
  cases hran : (body.run s).1 with
  | ok a => simp [noteEnd, hran]
  | error e => simp [noteEnd, hran, Session.note, hmarked]

/-- This takes nothing of the session, as bodies leave any stack as it was. -/
theorem disciplined (s : Session (Logged τ)) : Disciplined s where
  transact ofError body := Body.kinds_transact_of body.kinds_run ofError s
  surround body := kinds_surround body.kinds_run s
  popTransaction body inherited boundaries hidle hclaim := by
    obtain ⟨b, rest, hended, hkind, hrest⟩ :=
      body.exists_run_cons (.transaction inherited false) boundaries s.state
    cases b with
    | surrounding => cases hkind
    | transaction syncs rollbackOnly =>
      exact ⟨syncs, rollbackOnly, rest, hended, rfl, hrest.trans (kinds_claim hclaim)⟩
  popSurrounding body := by
    obtain ⟨b, rest, hended, hkind, hrest⟩ :=
      body.exists_run_cons (.surrounding [] false) s.boundaries s.state
    cases b with
    | surrounding pending isClaimed => exact ⟨pending, isClaimed, rest, hended, rfl, hrest⟩
    | transaction => cases hkind
  mark ofError body hopen :=
    ⟨body.exists_marked hopen, body.transact_fst_of_executing hopen ofError⟩

/-! ## Where a program comes to -/

/-- A call that is open while its body runs. -/
inductive Call where
  | execute
  | surround
deriving DecidableEq

namespace Call

/-- The kinds of the boundaries that open calls have pushed, the innermost first. A transaction in
another has joined it and has pushed none. -/
def kinds : List Call → List Boundary.Kind
  | [] => []
  | surround :: calls => .surrounding :: kinds calls
  | execute :: calls => if execute ∈ calls then kinds calls else .transaction :: kinds calls

theorem transaction_mem_kinds {calls : List Call} :
    .transaction ∈ kinds calls ↔ execute ∈ calls := by
  induction calls with
  | nil => simp [kinds]
  | cons call calls ih =>
    cases call with
    | surround => simp [kinds, ih]
    | execute =>
      by_cases h : execute ∈ calls
      · simp [kinds, h, ih]
      · simp [kinds, h]

theorem count_kinds_le_one (calls : List Call) : (kinds calls).count .transaction ≤ 1 := by
  induction calls with
  | nil => simp [kinds]
  | cons call calls ih =>
    cases call with
    | surround => simpa [kinds] using ih
    | execute =>
      by_cases h : execute ∈ calls
      · simpa [kinds, h] using ih
      · have hnone : (kinds calls).count .transaction = 0 :=
          List.count_eq_zero.2 (mt transaction_mem_kinds.1 h)
        simp [kinds, h, hnone]

/-- What outer calls have pushed lies below what inner ones have. -/
theorem kinds_suffix_append (inner outer : List Call) : kinds outer <:+ kinds (inner ++ outer) := by
  induction inner with
  | nil => exact List.suffix_refl _
  | cons call inner ih =>
    cases call with
    | surround => exact ih.trans (List.suffix_cons _ _)
    | execute =>
      rw [List.cons_append, kinds]
      split
      · exact ih
      · exact ih.trans (List.suffix_cons _ _)

end Call

/-- Where a program comes to on its way: what remains of a body, the session in which it goes on,
and the calls that are open around it, the innermost first. -/
inductive Visits (program : Body τ ε α) (start : Session (Logged τ)) :
    List Call → {δ β : Type} → Body τ δ β → Session (Logged τ) → Prop where
  | start : Visits program start [] program start
  | work {calls : List Call} {δ β γ : Type} {step : View → τ → γ × τ} {next : γ → Body τ δ β}
    {s : Session (Logged τ)} (h : Visits program start calls (.work step next) s) :
    Visits program start calls (next (step s.boundaries.view s.state.state).1)
      { s with state := { s.state with state := (step s.boundaries.view s.state.state).2 } }
  | register {calls : List Call} {δ β : Type} {sync : Synchronization τ}
    {next : Except Error Unit → Body τ δ β} {s : Session (Logged τ)}
    (h : Visits program start calls (.register sync next) s) :
    Visits program start calls (next ((s.note (.register sync)).register (noting sync)).1)
      ((s.note (.register sync)).register (noting sync)).2
  | setRollbackOnly {calls : List Call} {δ β : Type} {next : Except Error Unit → Body τ δ β}
    {s : Session (Logged τ)} (h : Visits program start calls (.setRollbackOnly next) s) :
    Visits program start calls (next (s.note .rollbackAsked).setRollbackOnly.1)
      (s.note .rollbackAsked).setRollbackOnly.2
  /-- Into the body of a transaction that joins the open one. -/
  | join {calls : List Call} {δ β δ' β' : Type} {ofError : Error → δ'} {body : Body τ δ' β'}
    {next : Except δ' β' → Body τ δ β} {s : Session (Logged τ)}
    (h : Visits program start calls (.execute ofError body next) s)
    (hopen : s.boundaries.isBodyExecuting = true) :
    Visits program start (.execute :: calls) body s
  /-- Into the body of a transaction of its own. -/
  | begin {calls : List Call} {δ β δ' β' : Type} {ofError : Error → δ'} {body : Body τ δ' β'}
    {next : Except δ' β' → Body τ δ β} {s : Session (Logged τ)}
    {inherited : List (Synchronization (Logged τ))} {boundaries : Boundaries (Logged τ)}
    (h : Visits program start calls (.execute ofError body next) s)
    (hidle : s.boundaries.isBodyExecuting = false)
    (hclaim : s.boundaries.claim = .ok (inherited, boundaries)) :
    Visits program start (.execute :: calls) body
      { s with boundaries := .transaction inherited false :: boundaries }
  /-- Past a transaction, or past one that was refused. -/
  | executed {calls : List Call} {δ β δ' β' : Type} {ofError : Error → δ'} {body : Body τ δ' β'}
    {next : Except δ' β' → Body τ δ β} {s : Session (Logged τ)}
    (h : Visits program start calls (.execute ofError body next) s) :
    Visits program start calls (next (body.transact ofError s).1) (body.transact ofError s).2
  /-- Into the body of a surrounding. -/
  | enter {calls : List Call} {δ β δ' β' : Type} {body : Body τ δ' β'}
    {next : Except δ' β' → Body τ δ β} {s : Session (Logged τ)}
    (h : Visits program start calls (.surround body next) s) :
    Visits program start (.surround :: calls) body
      { s with boundaries := .surrounding [] false :: s.boundaries }
  /-- Past a surrounding. -/
  | surrounded {calls : List Call} {δ β δ' β' : Type} {body : Body τ δ' β'}
    {next : Except δ' β' → Body τ δ β} {s : Session (Logged τ)}
    (h : Visits program start calls (.surround body next) s) :
    Visits program start calls (next (Transaction.surround body.run s).1)
      (Transaction.surround body.run s).2

namespace Visits

variable {program : Body τ ε α} {start s : Session (Logged τ)} {calls : List Call}
  {body : Body τ δ β}

/-- What a program comes to, it runs to the end. -/
theorem run (h : Visits program start calls body s) :
    Visits program start calls (.done (body.run s).1) (body.run s).2 := by
  induction body generalizing s with
  | done result => exact h
  | work step next ih => exact ih _ h.work
  | register sync next ih => exact ih _ h.register
  | setRollbackOnly next ih => exact ih _ h.setRollbackOnly
  | execute ofError body next ihbody ih => exact ih _ h.executed
  | surround body next ihbody ih => exact ih _ h.surrounded

/-- The boundaries on the stack are those of the open calls. -/
theorem kinds_eq (hstart : start.boundaries = []) (h : Visits program start calls body s) :
    s.boundaries.kinds = Call.kinds calls := by
  induction h with
  | start => rw [hstart]; rfl
  | work h ih => exact ih
  | register h ih => exact (kinds_sessionRegister _ _).trans ih
  | setRollbackOnly h ih => exact (kinds_sessionSetRollbackOnly _).trans ih
  | join h hopen ih =>
    rw [isBodyExecuting_iff, ih, Call.transaction_mem_kinds] at hopen
    rw [ih, Call.kinds, if_pos hopen]
  | begin h hidle hclaim ih =>
    rw [← Bool.not_eq_true, isBodyExecuting_iff, ih, Call.transaction_mem_kinds] at hidle
    rw [kinds_cons, kinds_claim hclaim, ih, Call.kinds, if_neg hidle]
    rfl
  | executed h ih => exact (Body.kinds_transact_of (Body.kinds_run _) _ _).trans ih
  | enter h ih => rw [kinds_cons, ih]; rfl
  | surrounded h ih => exact (kinds_surround (Body.kinds_run _) _).trans ih

end Visits

/-! ## What callbacks see -/

/-- What a callback sees of the open boundaries. -/
def Note.view? : Note τ → Option View
  | .beforeCommit _ view _ | .afterCommit _ view | .afterCompletion _ _ view => some view
  | .register _ | .rollbackAsked | .ended _ => none

/-- A note is idle unless a callback is called that sees a body executing. -/
def Note.IsIdle (n : Note τ) : Prop := ∀ view, n.view? = some view → view.isBodyExecuting = false

theorem Note.isIdle_of_not_isCall {n : Note τ} (h : n.isCall = false) : n.IsIdle := by
  cases n with
  | register | rollbackAsked | ended => exact nofun
  | beforeCommit | afterCommit | afterCompletion => cases h

section Views

variable {view : View} {owned : List (Synchronization τ)} {n : Note τ}

theorem view?_of_mem_beforeRound (hn : n ∈ beforeRound view owned) : n.view? = some view := by
  obtain ⟨sync, -, rfl⟩ := List.mem_map.1 hn
  rfl

theorem view?_of_mem_afterRound (hn : n ∈ afterRound view owned) : n.view? = some view := by
  obtain ⟨sync, -, rfl⟩ := List.mem_map.1 hn
  rfl

theorem view?_of_mem_completionRound {completion : Completion}
    (hn : n ∈ completionRound view owned completion) : n.view? = some view := by
  obtain ⟨sync, -, rfl⟩ := List.mem_map.1 hn
  rfl

theorem Objection.view?_of_mem {ofError : Error → ε} {result : Except ε α} {notes : List (Note τ)}
    {left : τ} {e : ε} {asked : List (Note τ)}
    (h : Objection ofError view owned result notes left e asked) (hn : n ∈ asked) :
    n.view? = some view := by
  cases h with
  | failure => cases hn
  | doomed => cases hn
  | callback =>
    rcases List.mem_append.1 hn with hn | hn
    · exact view?_of_mem_beforeRound hn
    · obtain rfl := List.mem_singleton.1 hn
      rfl

/-- The callbacks of a transaction all see the same at its end. -/
theorem view?_of_mem_finish {ofError : Error → ε} {result : Except ε α} {notes : List (Note τ)}
    {st : Logged τ}
    (hn : n ∈ (finish ofError view (owned.map noting) (notes.any Note.dooms) result st).2.notes) :
    n ∈ st.notes ∨ n.view? = some view := by
  obtain ⟨hcommits, hrollsBack⟩ := finish_noting ofError view owned result notes st
  by_cases hcommit : Commits view owned result notes st.state
  · rw [(hcommits hcommit).2, List.mem_append, List.mem_append, List.mem_append] at hn
    rcases hn with ((hn | hn) | hn) | hn
    · exact Or.inl hn
    · exact Or.inr (view?_of_mem_beforeRound hn)
    · exact Or.inr (view?_of_mem_afterRound hn)
    · exact Or.inr (view?_of_mem_completionRound hn)
  · obtain ⟨e, asked, hobjection, -, hnotes⟩ := hrollsBack hcommit
    rw [hnotes, List.mem_append, List.mem_append] at hn
    rcases hn with (hn | hn) | hn
    · exact Or.inl hn
    · exact Or.inr (hobjection.view?_of_mem hn)
    · exact Or.inr (view?_of_mem_completionRound hn)

end Views

open Surrounding

/-- A session in which no transaction is open, and no callback has seen a body executing. -/
structure Idle (s : Session (Logged τ)) : Prop where
  exists_outside : ∃ us st, s = outside us st
  isIdle_of_mem : ∀ n ∈ s.state.notes, n.IsIdle

namespace Idle

variable {s : Session (Logged τ)}

theorem note (h : Idle s) {n : Note τ} (hn : n.isCall = false) : Idle (s.note n) := by
  obtain ⟨⟨us, st, rfl⟩, hnotes⟩ := h
  refine ⟨⟨us, st.note n, rfl⟩, List.forall_mem_append.2 ⟨hnotes, ?_⟩⟩
  exact List.forall_mem_singleton.2 (Note.isIdle_of_not_isCall hn)

theorem register (h : Idle s) (sync : Synchronization τ) :
    Idle (s.register (noting sync)).2 := by
  obtain ⟨⟨us, st, rfl⟩, hnotes⟩ := h
  rw [register_outside]
  exact ⟨⟨_, st, rfl⟩, hnotes⟩

theorem setRollbackOnly (h : Idle s) : Idle s.setRollbackOnly.2 := by
  obtain ⟨⟨us, st, rfl⟩, hnotes⟩ := h
  rw [setRollbackOnly_outside]
  exact ⟨⟨us, st, rfl⟩, hnotes⟩

theorem enter (h : Idle s) :
    Idle { s with boundaries := .surrounding [] false :: s.boundaries } := by
  obtain ⟨⟨us, st, rfl⟩, hnotes⟩ := h
  exact ⟨⟨{} :: us, st, rfl⟩, hnotes⟩

theorem leave (h : Idle s) : Idle { s with boundaries := s.boundaries.popSurrounding } := by
  obtain ⟨⟨us, st, rfl⟩, hnotes⟩ := h
  cases us with
  | nil => exact ⟨⟨[], st, rfl⟩, hnotes⟩
  | cons u us => exact ⟨⟨us, st, rfl⟩, hnotes⟩

/-- A transaction calls its callbacks when its boundary is closed. -/
theorem transact (h : Idle s) (ofError : Error → ε) (body : Body τ ε α) :
    Idle (body.transact ofError s).2 := by
  obtain ⟨⟨us, st, rfl⟩, hnotes⟩ := h
  obtain ⟨st', hleft⟩ := exists_transact_outside us st ofError body
  refine ⟨⟨_, st', hleft⟩, fun n hn => ?_⟩
  cases htaken : isTaken us with
  | true =>
    rw [transact_outside_of_taken us st htaken] at hn
    exact hnotes n hn
  | false =>
    obtain ⟨notes, state, hran, hquiet⟩ := body.run_session (topLevel us) (pendingIn us) false st
    rw [transact_outside us st htaken ofError body (Prod.ext rfl hran)] at hn
    rcases view?_of_mem_finish hn with hn | hview
    · rw [Logged.note, List.mem_append, List.mem_append, List.mem_singleton] at hn
      rcases hn with (hn | hn) | rfl
      · exact hnotes n hn
      · exact Note.isIdle_of_not_isCall (hquiet n hn)
      · exact Note.isIdle_of_not_isCall rfl
    · intro view hn
      obtain rfl := Option.some.inj (hview.symm.trans hn)
      exact isBodyExecuting_map_boundary (claim us)

end Idle

/-- Callbacks are called where no body is executing. -/
theorem Body.idle_run (body : Body τ ε α) {s : Session (Logged τ)} (h : Idle s) :
    Idle (body.run s).2 := by
  induction body generalizing s with
  | done result => exact h
  | work step next ih =>
    obtain ⟨⟨us, st, rfl⟩, hnotes⟩ := h
    exact ih _ ⟨⟨us, _, rfl⟩, hnotes⟩
  | register sync next ih => exact ih _ ((h.note rfl).register sync)
  | setRollbackOnly next ih => exact ih _ (h.note (n := .rollbackAsked) rfl).setRollbackOnly
  | execute ofError body next ihbody ih => exact ih _ (h.transact ofError body)
  | surround body next ihbody ih => exact ih _ (ihbody h.enter).leave

/-! ## The discipline -/

/-- Wherever a program comes to from where nothing is open, the boundaries on the stack are those of
the calls that are open there: at most one is a transaction, a body is said to be executing exactly
if one is, and what was open before a call is in place below while its body runs. Calls from there
leave the stack as it was, each pops the boundary that it has pushed, and the failure of a body that
has joined can be marked. No callback is called while a body is said to be executing. -/
theorem stack_disciplined (program : Body τ ε α) (state : τ) :
    let start : Session (Logged τ) := { state := { state } }
    (∀ (δ β : Type) (calls : List Call) (body : Body τ δ β) (s : Session (Logged τ)),
      Visits program start calls body s →
        s.boundaries.kinds = Call.kinds calls ∧
        s.boundaries.kinds.count .transaction ≤ 1 ∧
        (s.boundaries.isBodyExecuting = true ↔ .execute ∈ calls) ∧
        (∀ inner outer, calls = inner ++ outer → Call.kinds outer <:+ s.boundaries.kinds) ∧
        Disciplined s ∧
        Visits program start calls (.done (body.run s).1) (body.run s).2) ∧
    ∀ n ∈ (program.run start).2.state.notes,
      ∀ view, n.view? = some view → view.isBodyExecuting = false := by
  intro start
  refine ⟨fun δ β calls body s hvisits => ?_, ?_⟩
  · have hkinds : s.boundaries.kinds = Call.kinds calls := hvisits.kinds_eq rfl
    refine ⟨hkinds, ?_, ?_, ?_, disciplined s, hvisits.run⟩
    · rw [hkinds]
      exact Call.count_kinds_le_one calls
    · rw [isBodyExecuting_iff, hkinds, Call.transaction_mem_kinds]
    · rintro inner outer rfl
      rw [hkinds]
      exact Call.kinds_suffix_append inner outer
  · exact (program.idle_run ⟨⟨[], { state }, rfl⟩, List.forall_mem_nil _⟩).isIdle_of_mem

/-- In a surrounding that a transaction has claimed, a body that fails where it has joined, in a
surrounding in that transaction. -/
theorem stack_disciplined_joined :
    let failing : Body (List String) Error Unit := .done (.error .unexpectedRollback)
    let program : Body (List String) Error Unit :=
      .surround (.register (leaving "audit") fun _ =>
        .execute id (.surround (.execute id failing fun _ => .done (.ok ())) .done) .done) .done
    let start : Session (Logged (List String)) := { state := { state := [] } }
    let s : Session (Logged (List String)) :=
      ⟨[.surrounding [] false, .transaction [noting (leaving "audit")] false,
        .surrounding [] true], ⟨[], [.register (leaving "audit")]⟩⟩
    Visits program start [.execute, .surround, .execute, .surround] failing s ∧
      s.boundaries.kinds = [.surrounding, .transaction, .surrounding] ∧
      (∃ boundaries, (failing.run s).2.boundaries.setRollbackOnly = .ok boundaries) ∧
      (failing.transact id s).1 = .error .unexpectedRollback ∧
      (failing.transact id s).2.boundaries.kinds = [.surrounding, .transaction, .surrounding] := by
  intro failing program start s
  have hentered : Visits program start [.surround] _ _ := .enter .start
  have hbegun : Visits program start [.execute, .surround] _ _ := hentered.register.begin rfl rfl
  have hvisits : Visits program start [.execute, .surround, .execute, .surround] failing s :=
    hbegun.enter.join rfl
  obtain ⟨hkinds, -, hexecuting, -, hdisciplined, -⟩ :=
    (stack_disciplined program []).1 _ _ _ failing s hvisits
  have hmark := hdisciplined.mark id failing (hexecuting.2 (by simp))
  exact ⟨hvisits, hkinds, hmark.1, hmark.2, (hdisciplined.transact id failing).trans hkinds⟩

end PipelineSync.Transaction
