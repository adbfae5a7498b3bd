import PipelineSync.Proofs.Transaction.Bodies

/-!
# Commit and rollback

A transaction of its own takes over what is pending in the innermost surrounding, and owns that and
everything its body registers. `transact_commits_or_rollsBack` says when it commits, and which
callbacks are called in which order if it does and if it does not. It holds of every transaction
that a program can come to: `Reached` are the sessions in which a program can be while no
transaction is open.
-/

namespace PipelineSync.Transaction

variable {τ ε α : Type}

/-! ## Rounds of calls -/

section Rounds

variable (view : View) (owned : List (Synchronization τ)) (st : Logged τ)

/-- Everyone is asked before the commit, and agrees. -/
def beforeRound : List (Note τ) := owned.map fun sync => .beforeCommit sync view true

/-- Everyone is told of the commit. -/
def afterRound : List (Note τ) := owned.map fun sync => .afterCommit sync view

/-- Everyone is told of the end. -/
def completionRound (completion : Completion) : List (Note τ) :=
  owned.map fun sync => .afterCompletion sync completion view

theorem runAfterCommit_notes :
    (runAfterCommit view (owned.map noting) st).notes = st.notes ++ afterRound view owned := by
  rw [runAfterCommit, afterRound]
  induction owned generalizing st with
  | nil => simp
  | cons sync owned ih =>
    rw [List.map_cons, List.foldl_cons, ih]
    simp [noting]

theorem runAfterCompletion_notes (completion : Completion) :
    (runAfterCompletion view completion (owned.map noting) st).notes =
      st.notes ++ completionRound view owned completion := by
  rw [runAfterCompletion, completionRound]
  induction owned generalizing st with
  | nil => simp
  | cons sync owned ih =>
    rw [List.map_cons, List.foldl_cons, ih]
    simp [noting]

/-- Asking goes on until somebody objects. -/
theorem runBeforeCommit_cases :
    (∃ state, (runBeforeCommit view owned st.state).1 = .ok () ∧
      runBeforeCommit view (owned.map noting) st =
        (.ok (), ⟨state, st.notes ++ beforeRound view owned⟩)) ∨
    ∃ before sync later e state, owned = before ++ sync :: later ∧
      (runBeforeCommit view owned st.state).1 = .error e ∧
      runBeforeCommit view (owned.map noting) st =
        (.error e, ⟨state, st.notes ++ beforeRound view before ++
          [.beforeCommit sync view false]⟩) := by
  induction owned generalizing st with
  | nil => exact Or.inl ⟨st.state, rfl, by simp [runBeforeCommit, beforeRound]⟩
  | cons sync owned ih =>
    rw [List.map_cons, runBeforeCommit, runBeforeCommit, noting_beforeCommit]
    rcases sync.beforeCommit view st.state with ⟨e | _, state⟩
    · refine Or.inr ⟨[], sync, owned, e, state, rfl, rfl, ?_⟩
      simp [beforeRound, Except.isOk, Except.toBool]
    · rcases ih ⟨state, st.notes ++ [.beforeCommit sync view true]⟩ with
        ⟨state', hok, hround⟩ | ⟨before, sync', later, e, state', howned, herror, hround⟩
      · refine Or.inl ⟨state', hok, hround.trans ?_⟩
        simp [beforeRound]
      · refine Or.inr ⟨sync :: before, sync', later, e, state', ?_, herror, hround.trans ?_⟩
        · rw [howned, List.cons_append]
        · simp [beforeRound]

end Rounds

/-! ## The end of a transaction -/

section End

variable (ofError : Error → ε) (view : View) (owned : List (Synchronization τ))
  (result : Except ε α) (notes : List (Note τ))

/-- Whether a transaction is committed whose body has come to a result, with these notes, and has
left this state: nothing in it has failed or asked for a rollback, and nobody objects. -/
def Commits (left : τ) : Prop :=
  result.isOk = true ∧ .rollbackAsked ∉ notes ∧ .ended false ∉ notes ∧
    (runBeforeCommit view owned left).1 = .ok ()

/-- Why a transaction is rolled back after its body, with the failure that comes of it, and with
the calls that were made by then. -/
inductive Objection (left : τ) : ε → List (Note τ) → Prop where
  | failure {e : ε} (h : result = .error e) : Objection left e []
  | doomed (hok : result.isOk = true) (h : .rollbackAsked ∈ notes ∨ .ended false ∈ notes) :
    Objection left (ofError .unexpectedRollback) []
  /-- The first callback that objects; those after it are not asked. -/
  | callback {before later : List (Synchronization τ)} {sync : Synchronization τ} {e : Error}
      (hok : result.isOk = true) (hnotes : .rollbackAsked ∉ notes ∧ .ended false ∉ notes)
      (howned : owned = before ++ sync :: later)
      (h : (runBeforeCommit view owned left).1 = .error e) :
    Objection left (ofError e) (beforeRound view before ++ [.beforeCommit sync view false])

theorem any_dooms_iff {notes : List (Note τ)} :
    notes.any Note.dooms = true ↔ .rollbackAsked ∈ notes ∨ .ended false ∈ notes := by
  rw [List.any_eq_true]
  constructor
  · rintro ⟨n, hmem, hn⟩
    cases n with
    | rollbackAsked => exact Or.inl hmem
    | ended isOk =>
      cases isOk with
      | false => exact Or.inr hmem
      | true => cases hn
    | _ => cases hn
  · rintro (hmem | hmem)
    · exact ⟨_, hmem, rfl⟩
    · exact ⟨_, hmem, rfl⟩

theorem finish_noting (st : Logged τ) :
    let final := finish ofError view (owned.map noting) (notes.any Note.dooms) result st
    (Commits view owned result notes st.state →
      final.1 = result ∧ final.2.notes = st.notes ++ beforeRound view owned ++
        afterRound view owned ++ completionRound view owned .committed) ∧
    (¬Commits view owned result notes st.state →
      ∃ e asked, Objection ofError view owned result notes st.state e asked ∧
        final.1 = .error e ∧
        final.2.notes = st.notes ++ asked ++ completionRound view owned .rolledBack) := by
  intro final
  -- the cases are those of `finish`: a body that failed, one that is doomed, and asking everyone
  cases result with
  | error e =>
    refine ⟨fun h => (nomatch h.1), fun _ => ⟨e, [], .failure rfl, rfl, ?_⟩⟩
    rw [List.append_nil]
    exact runAfterCompletion_notes view owned st .rolledBack
  | ok a =>
    cases hdoomed : notes.any Note.dooms with
    | true =>
      have hnotes := any_dooms_iff.1 hdoomed
      have hfinal : final = (.error (ofError .unexpectedRollback),
          runAfterCompletion view .rolledBack (owned.map noting) st) := by
        simp [final, finish, hdoomed]
      refine ⟨?_, fun _ => ⟨_, [], .doomed rfl hnotes, by rw [hfinal], ?_⟩⟩
      · rintro ⟨-, hasked, hended, -⟩
        exact absurd hnotes (not_or.2 ⟨hasked, hended⟩)
      · rw [hfinal, List.append_nil]
        exact runAfterCompletion_notes view owned st .rolledBack
    | false =>
      have hnotes : .rollbackAsked ∉ notes ∧ .ended false ∉ notes :=
        not_or.1 ((not_congr any_dooms_iff).1 (by simp [hdoomed]))
      rcases runBeforeCommit_cases view owned st with
        ⟨state, hagreed, hround⟩ | ⟨before, sync, later, e, state, howned, hobjected, hround⟩
      · have hfinal : final = (.ok a, runAfterCompletion view .committed (owned.map noting)
            (runAfterCommit view (owned.map noting)
              ⟨state, st.notes ++ beforeRound view owned⟩)) := by
          simp [final, finish, hdoomed, hround]
        refine ⟨fun _ => ⟨by rw [hfinal], ?_⟩, fun h => absurd ⟨rfl, hnotes.1, hnotes.2, hagreed⟩ h⟩
        rw [hfinal, runAfterCompletion_notes, runAfterCommit_notes]
      · have hfinal : final = (.error (ofError e), runAfterCompletion view .rolledBack
            (owned.map noting) ⟨state, st.notes ++ beforeRound view before ++
              [.beforeCommit sync view false]⟩) := by
          simp [final, finish, hdoomed, hround]
        have hobjection : Objection ofError view owned (.ok a) notes st.state (ofError e)
            (beforeRound view before ++ [.beforeCommit sync view false]) :=
          .callback rfl hnotes howned hobjected
        refine ⟨?_, fun _ => ⟨_, _, hobjection, by rw [hfinal], ?_⟩⟩
        · rintro ⟨-, -, -, hagreed⟩
          cases hagreed.symm.trans hobjected
        · rw [hfinal, runAfterCompletion_notes, List.append_assoc st.notes]

end End

/-! ## Where no transaction is open -/

/-- A surrounding that is open while no transaction is. -/
structure Surrounding (τ : Type) where
  pending : List (Synchronization τ) := []
  isClaimed : Bool := false

namespace Surrounding

/-- As an open boundary. -/
def boundary (u : Surrounding τ) : Boundary (Logged τ) :=
  .surrounding (u.pending.map noting) u.isClaimed

/-- What is pending in the innermost of open surroundings. -/
def pendingIn : List (Surrounding τ) → List (Synchronization τ)
  | [] => []
  | u :: _ => u.pending

/-- Whether the innermost of open surroundings is claimed. -/
def isTaken : List (Surrounding τ) → Bool
  | [] => false
  | u :: _ => u.isClaimed

/-- Open surroundings after a transaction has claimed the innermost. -/
def claim : List (Surrounding τ) → List (Surrounding τ)
  | [] => []
  | _ :: us => ⟨[], true⟩ :: us

end Surrounding

open Surrounding

/-- A session in which only these surroundings are open, the innermost first. -/
def outside (us : List (Surrounding τ)) (st : Logged τ) : Session (Logged τ) :=
  ⟨us.map boundary, st⟩

theorem isBodyExecuting_map_boundary (us : List (Surrounding τ)) :
    Boundaries.isBodyExecuting (us.map boundary) = false := by
  induction us with
  | nil => rfl
  | cons u us ih => exact ih

/-- Where a transaction is that is started while these surroundings are open. -/
def topLevel (us : List (Surrounding τ)) : Place (Logged τ) where
  inside := []
  outside := (claim us).map boundary
  inside_idle := rfl
  outside_idle := isBodyExecuting_map_boundary _

/-- What the callbacks of such a transaction see at its end. -/
def endView (us : List (Surrounding τ)) : View := Boundaries.view ((claim us).map boundary)

section Outside

variable (us : List (Surrounding τ)) (st : Logged τ)

theorem claim_outside (h : isTaken us = false) :
    (outside us st).boundaries.claim =
      .ok ((pendingIn us).map noting, (claim us).map boundary) := by
  cases us with
  | nil => rfl
  | cons u us =>
    have hu : u.isClaimed = false := h
    simp [outside, boundary, Boundaries.claim, pendingIn, claim, hu]

theorem claim_outside_of_taken (h : isTaken us = true) :
    (outside us st).boundaries.claim = .error .multipleTransactionsNotPermitted := by
  cases us with
  | nil => cases h
  | cons u us =>
    have hu : u.isClaimed = true := h
    simp [outside, boundary, Boundaries.claim, hu]

/-- A transaction of its own: its body runs in it, and then it ends. -/
theorem transact_outside (h : isTaken us = false) (ofError : Error → ε) (body : Body τ ε α)
    {result : Except ε α} {owned : List (Synchronization τ)} {rollbackOnly : Bool}
    {st' : Logged τ}
    (hrun : body.run ((topLevel us).session (pendingIn us) false st) =
      (result, (topLevel us).session owned rollbackOnly st')) :
    body.transact ofError (outside us st) =
      let final := finish ofError (endView us) (owned.map noting) rollbackOnly result
        (st'.note (.ended result.isOk))
      (final.1, outside (claim us) final.2) := by
  have hidle : (outside us st).boundaries.isBodyExecuting = false :=
    isBodyExecuting_map_boundary us
  have hopen : (⟨.transaction ((pendingIn us).map noting) false :: (claim us).map boundary,
      (outside us st).state⟩ : Session (Logged τ)) =
        (topLevel us).session (pendingIn us) false st := rfl
  rw [Body.transact, execute, hidle, claim_outside us st h]
  simp only [Bool.false_eq_true, if_false]
  rw [hopen, hrun]
  rfl

/-- A transaction that is started in a surrounding that is claimed does not even begin. -/
theorem transact_outside_of_taken (h : isTaken us = true) (ofError : Error → ε)
    (body : Body τ ε α) :
    body.transact ofError (outside us st) =
      (.error (ofError .multipleTransactionsNotPermitted), outside us st) := by
  have hidle : (outside us st).boundaries.isBodyExecuting = false :=
    isBodyExecuting_map_boundary us
  rw [Body.transact, execute, hidle, claim_outside_of_taken us st h]
  rfl

/-- A transaction claims the innermost surrounding, unless that is claimed already. -/
theorem exists_transact_outside (ofError : Error → ε) (body : Body τ ε α) :
    ∃ st', (body.transact ofError (outside us st)).2 =
      outside (if isTaken us then us else claim us) st' := by
  cases h : isTaken us with
  | true => exact ⟨st, by rw [transact_outside_of_taken us st h, if_pos rfl]⟩
  | false =>
    -- however the transaction ends, its boundary is closed and the innermost surrounding claimed
    obtain ⟨notes, state, hs, -⟩ := body.run_session (topLevel us) (pendingIn us) false st
    exact ⟨_, by rw [transact_outside us st h ofError body (Prod.ext rfl hs)]; rfl⟩

/-- What is registered is pending in the innermost surrounding. -/
theorem register_outside (sync : Synchronization τ) :
    ((outside us st).register (noting sync)).2 =
      outside (us.modifyHead fun u => { u with pending := u.pending ++ [sync] }) st := by
  have hnone := Boundaries.changeTransaction?_eq_none (isBodyExecuting_map_boundary us)
    fun syncs rollbackOnly => (syncs ++ [noting sync], rollbackOnly)
  cases us with
  | nil => rfl
  | cons u us =>
    simp only [List.map_cons, boundary] at hnone
    simp [Session.register, outside, Boundaries.register, boundary, hnone]

theorem setRollbackOnly_outside : (outside us st).setRollbackOnly.2 = outside us st := by
  have hnone := Boundaries.changeTransaction?_eq_none (isBodyExecuting_map_boundary us)
    fun syncs _ => (syncs, true)
  simp [Session.setRollbackOnly, outside, Boundaries.setRollbackOnly, hnone]

end Outside

/-- A session in which the same surroundings are open, but for what is registered in the innermost
and whether it is claimed. -/
def StaysOutside (us : List (Surrounding τ)) (s : Session (Logged τ)) : Prop :=
  ∃ us' st', s = outside us' st' ∧ us'.length = us.length ∧ us'.tail = us.tail

namespace StaysOutside

variable {us : List (Surrounding τ)} {s : Session (Logged τ)}

theorem refl (us : List (Surrounding τ)) (st : Logged τ) : StaysOutside us (outside us st) :=
  ⟨us, st, rfl, rfl, rfl⟩

theorem andThen (h : StaysOutside us s) {next : Body τ ε α}
    (hnext : ∀ us st, StaysOutside us (next.run (outside us st)).2) :
    StaysOutside us (next.run s).2 := by
  obtain ⟨us₁, st₁, rfl, hlength₁, htail₁⟩ := h
  obtain ⟨us₂, st₂, hs, hlength₂, htail₂⟩ := hnext us₁ st₁
  exact ⟨us₂, st₂, hs, hlength₂.trans hlength₁, htail₂.trans htail₁⟩

theorem register (us : List (Surrounding τ)) (st : Logged τ) (sync : Synchronization τ) :
    StaysOutside us ((outside us st).register (noting sync)).2 := by
  refine ⟨_, st, register_outside us st sync, ?_, ?_⟩
  · exact List.length_modifyHead
  · cases us <;> rfl

theorem setRollbackOnly (us : List (Surrounding τ)) (st : Logged τ) :
    StaysOutside us (outside us st).setRollbackOnly.2 :=
  ⟨us, st, setRollbackOnly_outside us st, rfl, rfl⟩

theorem transact (us : List (Surrounding τ)) (st : Logged τ) (ofError : Error → ε)
    (body : Body τ ε α) : StaysOutside us (body.transact ofError (outside us st)).2 := by
  obtain ⟨st', hs⟩ := exists_transact_outside us st ofError body
  refine ⟨_, st', hs, ?_, ?_⟩
  · cases us <;> split <;> rfl
  · cases us <;> split <;> rfl

theorem surround {us : List (Surrounding τ)} {st : Logged τ}
    {body : Session (Logged τ) → Except ε α × Session (Logged τ)}
    (h : StaysOutside ({} :: us) (body (outside ({} :: us) st)).2) :
    StaysOutside us (Transaction.surround body (outside us st)).2 := by
  obtain ⟨us', st', hs, hlength, htail⟩ := h
  cases us' with
  | nil => cases hlength
  | cons u us' =>
    obtain rfl : us' = us := htail
    refine ⟨us', st', ?_, rfl, rfl⟩
    have hleft : (Transaction.surround body (outside us' st)).2 =
        ⟨Boundaries.popSurrounding (body (outside ({} :: us') st)).2.boundaries,
          (body (outside ({} :: us') st)).2.state⟩ := rfl
    rw [hleft, hs]
    rfl

end StaysOutside

/-- A program leaves the surroundings open that were open before. -/
theorem Body.run_outside (body : Body τ ε α) (us : List (Surrounding τ)) (st : Logged τ) :
    StaysOutside us (body.run (outside us st)).2 := by
  induction body generalizing us st with
  | done result => exact .refl us st
  | work step next ih => exact ih _ us _
  | register sync next ih =>
    exact (StaysOutside.register us (st.note (.register sync)) sync).andThen (ih _)
  | setRollbackOnly next ih =>
    exact (StaysOutside.setRollbackOnly us (st.note .rollbackAsked)).andThen (ih _)
  | execute ofError body next ihbody ih =>
    exact (StaysOutside.transact us st ofError body).andThen (ih _)
  | surround body next ihbody ih =>
    exact (StaysOutside.surround (ihbody ({} :: us) st)).andThen (ih _)

/-- Where a program can be while no transaction is open: it has run so far, and has opened
surroundings on its way. -/
inductive Reached : Session (Logged τ) → Prop where
  | start (state : τ) : Reached { state := { state } }
  | run {s : Session (Logged τ)} (hs : Reached s) {ε α : Type} (body : Body τ ε α) :
    Reached (body.run s).2
  | enter {s : Session (Logged τ)} (hs : Reached s) :
    Reached { s with boundaries := .surrounding [] false :: s.boundaries }

theorem Reached.exists_outside {s : Session (Logged τ)} (hs : Reached s) :
    ∃ us st, s = outside us st := by
  induction hs with
  | start state => exact ⟨[], { state }, rfl⟩
  | run hs body ih =>
    obtain ⟨us, st, rfl⟩ := ih
    obtain ⟨us', st', hs', -, -⟩ := body.run_outside us st
    exact ⟨us', st', hs'⟩
  | enter hs ih =>
    obtain ⟨us, st, rfl⟩ := ih
    exact ⟨{} :: us, st, rfl⟩

/-! ## Every transaction -/

/-- Wherever a program starts a transaction of its own, only surroundings are open. If the innermost
is claimed, nothing happens. Otherwise the transaction owns what is pending there, and what is
registered while its body runs, at any depth; until the body has ended, nothing is called. If the
body ends well, nothing in it has asked for a rollback or failed, and nobody objects, then the
transaction commits: everyone is asked, then everyone is told of the commit, then of the end, each
once and in the order of registration, and the result is that of the body. In all other cases it is
rolled back: the calls end with the first objection, nobody is told of a commit, everyone is told of
the end, and the result is the failure. Nothing of it stays registered. -/
theorem transact_commits_or_rollsBack {s : Session (Logged τ)} (hs : Reached s)
    (ofError : Error → ε) (body : Body τ ε α) :
    (∃ us st, s = outside us st) ∧ ∀ us st, s = outside us st →
      let final := body.transact ofError s
      (isTaken us = true → final = (.error (ofError .multipleTransactionsNotPermitted), s)) ∧
      (isTaken us = false →
        let ran := body.run ((topLevel us).session (pendingIn us) false st)
        ∃ notes left, ran.2.state = ⟨left, st.notes ++ notes⟩ ∧ (∀ n ∈ notes, n.isCall = false) ∧
          let owned := pendingIn us ++ notes.filterMap Note.registered?
          let noted := st.notes ++ notes ++ [.ended ran.1.isOk]
          let view := endView us
          (Commits view owned ran.1 notes left →
            final.1 = ran.1 ∧ final.2.state.notes = noted ++ beforeRound view owned ++
              afterRound view owned ++ completionRound view owned .committed) ∧
          (¬Commits view owned ran.1 notes left →
            ∃ e asked, Objection ofError view owned ran.1 notes left e asked ∧
              final.1 = .error e ∧
              final.2.state.notes = noted ++ asked ++ completionRound view owned .rolledBack) ∧
          final.2 = outside (claim us) final.2.state) := by
  refine ⟨hs.exists_outside, ?_⟩
  rintro us st rfl
  intro final
  refine ⟨fun htaken => transact_outside_of_taken us st htaken ofError body, fun hfree => ?_⟩
  intro ran
  -- what the body does is said by `run_session`, and what comes after it by `finish_noting`
  obtain ⟨notes, left, hran, hcalls⟩ := body.run_session (topLevel us) (pendingIn us) false st
  have hfinal := transact_outside us st hfree ofError body (Prod.ext rfl hran)
  refine ⟨notes, left, congrArg Session.state hran, hcalls, ?_⟩
  intro owned noted view
  obtain ⟨hcommits, hrollsBack⟩ := finish_noting ofError view owned ran.1 notes
    ((⟨left, st.notes ++ notes⟩ : Logged τ).note (.ended ran.1.isOk))
  simp only [final]
  rw [hfinal]
  exact ⟨hcommits, hrollsBack, rfl⟩

/-- Callbacks that leave a line when they are told of a commit. -/
def leaving (line : String) : Synchronization (List String) where
  afterCommit _ lines := lines ++ [line]

/-- A transaction that joins the open one, and registers something. -/
def mailing (result : Except Error Unit) : Body (List String) Error Unit :=
  .execute id (.register (leaving "mail") fun _ => .done result) fun _ => .done (.ok ())

/-- A surrounding in which something is pending, and a transaction in it that registers something
itself and in another. The joined one ends well or fails, and nobody hands the failure on. -/
theorem transact_commits_or_rollsBack_joined :
    let pending : Body (List String) Error Unit :=
      .register (leaving "audit") fun _ => .done (.ok ())
    let s := (pending.run ⟨[.surrounding [] false], { state := [] }⟩).2
    let indexing (result : Except Error Unit) : Body (List String) Error Unit :=
      .register (leaving "index") fun _ => mailing result
    let owned := [leaving "audit", leaving "index", leaving "mail"]
    let view : View := ⟨false, true, false⟩
    let before (isOk : Bool) : List (Note (List String)) :=
      [.register (leaving "audit"), .register (leaving "index"), .register (leaving "mail"),
        .ended isOk, .ended true]
    (let final := (indexing (.ok ())).transact id s
     final.1 = .ok () ∧ final.2.state.notes =
        before true ++ beforeRound view owned ++ afterRound view owned ++
          completionRound view owned .committed) ∧
    (let final := (indexing (.error .unexpectedRollback)).transact id s
     final.1 = .error .unexpectedRollback ∧
        final.2.state.notes = before false ++ completionRound view owned .rolledBack) := by
  intro pending s indexing owned view before
  have hs : Reached s := .run (.enter (.start [])) pending
  have houtside :
      s = outside [⟨[leaving "audit"], false⟩] ⟨[], [.register (leaving "audit")]⟩ := rfl
  constructor
  · have htransact := (transact_commits_or_rollsBack hs id (indexing (.ok ()))).2 _ _ houtside
    obtain ⟨notes, left, hstate, -, hcommits, -, -⟩ := htransact.2 rfl
    have hnotes : notes = [.register (leaving "index"), .register (leaving "mail"), .ended true] :=
      List.append_cancel_left (congrArg Logged.notes hstate).symm
    have hleft : left = [] := (congrArg Logged.state hstate).symm
    subst hnotes hleft
    exact hcommits ⟨rfl, by simp, by simp, rfl⟩
  · have htransact := (transact_commits_or_rollsBack hs id
      (indexing (.error .unexpectedRollback))).2 _ _ houtside
    obtain ⟨notes, left, hstate, -, -, hrollsBack, -⟩ := htransact.2 rfl
    have hnotes : notes = [.register (leaving "index"), .register (leaving "mail"), .ended false] :=
      List.append_cancel_left (congrArg Logged.notes hstate).symm
    subst hnotes
    have hended : (.ended false : Note (List String)) ∈
        [.register (leaving "index"), .register (leaving "mail"), .ended false] := by simp
    obtain ⟨e, asked, hobjection, hresult, hfinal⟩ := hrollsBack fun h => h.2.2.1 hended
    cases hobjection with
    | failure h => cases h
    | doomed => exact ⟨hresult, hfinal⟩
    | callback _ hnotes => exact absurd hended hnotes.2

end PipelineSync.Transaction
