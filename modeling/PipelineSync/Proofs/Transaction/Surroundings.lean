import PipelineSync.Proofs.Transaction.Commit
import PipelineSync.Transaction.Program
import Mathlib.Data.List.Induction

/-!
# Surroundings

What a program does while no transaction is open is a list of `Act`s, and every transaction of its
own is one of them. A surrounding knows of what is done directly in it, and of nothing that is done
in the surroundings in it: `surrounding_admits_one` says which transactions are run, and
`surrounding_handsOver` what they take over.
-/

namespace PipelineSync.Transaction

open Surrounding

universe u

variable {σ τ ε α : Type}

/-! ## What a program does where no transaction is open -/

/-- A step of a program, or a whole transaction of its own. -/
inductive Act (τ : Type) : Type 1 where
  | work (step : View → τ → τ)
  | register (sync : Synchronization τ)
  | setRollbackOnly
  | transact {δ β : Type} (ofError : Error → δ) (body : Body τ δ β)
  | enter
  | leave

namespace Act

def perform : Act τ → Session (Logged τ) → Session (Logged τ)
  | work step, s =>
    { s with state := { s.state with state := step s.boundaries.view s.state.state } }
  | register sync, s => ((s.note (.register sync)).register (noting sync)).2
  | setRollbackOnly, s => (s.note .rollbackAsked).setRollbackOnly.2
  | transact ofError body, s => (body.transact ofError s).2
  | enter, s => { s with boundaries := .surrounding [] false :: s.boundaries }
  | leave, s => { s with boundaries := s.boundaries.popSurrounding }

def isTransact : Act τ → Bool
  | transact .. => true
  | _ => false

def registered? : Act τ → Option (Synchronization τ)
  | register sync => some sync
  | _ => none

/-- Follows an act with one value for each open surrounding, the innermost first: `opened` for one
that is opened, and a change of the innermost by what is done directly in it. -/
def follow {κ : Type u} (opened : κ) (change : κ → Act τ → κ) (values : List κ) : Act τ → List κ
  | enter => opened :: values
  | leave => values.tail
  | a => match values with
    | [] => []
    | value :: rest => change value a :: rest

end Act

def performAll (acts : List (Act τ)) (s : Session (Logged τ)) : Session (Logged τ) :=
  acts.foldl (fun s a => a.perform s) s

/-- The acts of a program, which may depend on how everything has gone so far. -/
def Body.acts : {ε α : Type} → Body τ ε α → Session (Logged τ) → List (Act τ)
  | _, _, done _, _ => []
  | _, _, work step next, s =>
    let act : Act τ := .work fun view state => (step view state).2
    act :: (next (step s.boundaries.view s.state.state).1).acts (act.perform s)
  | _, _, register sync next, s =>
    let (result, left) := (s.note (.register sync)).register (noting sync)
    .register sync :: (next result).acts left
  | _, _, setRollbackOnly next, s =>
    let (result, left) := (s.note .rollbackAsked).setRollbackOnly
    .setRollbackOnly :: (next result).acts left
  | _, _, execute ofError body next, s =>
    let (result, left) := body.transact ofError s
    .transact ofError body :: (next result).acts left
  | _, _, surround body next, s =>
    let (result, left) := Transaction.surround body.run s
    .enter :: body.acts (Act.enter.perform s) ++ .leave :: (next result).acts left

theorem performAll_append (before after : List (Act τ)) (s : Session (Logged τ)) :
    performAll (before ++ after) s = performAll after (performAll before s) :=
  List.foldl_append

/-- The acts of a program are all that it does. -/
theorem performAll_acts (body : Body τ ε α) (s : Session (Logged τ)) :
    performAll (body.acts s) s = (body.run s).2 := by
  induction body generalizing s with
  | done result => rfl
  | work step next ih => exact ih _ _
  | register sync next ih => exact ih _ _
  | setRollbackOnly next ih => exact ih _ _
  | execute ofError body next ihbody ih => exact ih _ _
  | surround body next ihbody ih =>
    have hacts : performAll ((Body.surround body next).acts s) s =
        performAll (.leave :: (next (Transaction.surround body.run s).1).acts
            (Transaction.surround body.run s).2)
          (performAll (body.acts (Act.enter.perform s)) (Act.enter.perform s)) :=
      performAll_append (.enter :: body.acts (Act.enter.perform s)) _ s
    rw [hacts, ihbody]
    exact ih _ _

/-! ## What is done directly in a surrounding -/

/-- What has been done directly in each of the open surroundings, the innermost first. -/
def openActs (acts : List (Act τ)) : List (List (Act τ)) :=
  acts.foldl (Act.follow [] fun direct a => direct ++ [a]) []

theorem openActs_concat (acts : List (Act τ)) (a : Act τ) :
    openActs (acts ++ [a]) = a.follow [] (fun direct a => direct ++ [a]) (openActs acts) :=
  List.foldl_append

/-- What has been done directly in the innermost of the open surroundings since it was opened. -/
def directActs (acts : List (Act τ)) : List (Act τ) := (openActs acts).headD []

namespace Surrounding

def after (u : Surrounding τ) : Act τ → Surrounding τ
  | .register sync => { u with pending := u.pending ++ [sync] }
  | .transact .. => if u.isClaimed then u else ⟨[], true⟩
  | _ => u

/-- A surrounding after all that has been done directly in it. -/
def ofActs (direct : List (Act τ)) : Surrounding τ := direct.foldl after {}

theorem ofActs_concat (direct : List (Act τ)) (a : Act τ) :
    ofActs (direct ++ [a]) = (ofActs direct).after a :=
  List.foldl_append

/-- A surrounding is claimed by the first transaction directly in it. -/
theorem isClaimed_ofActs (direct : List (Act τ)) :
    (ofActs direct).isClaimed = direct.any Act.isTransact := by
  induction direct using List.reverseRecOn with
  | nil => rfl
  | append_singleton direct a ih =>
    rw [ofActs_concat, List.any_append, ← ih]
    cases a with
    | transact =>
      rw [after]
      cases h : (ofActs direct).isClaimed <;> simp [Act.isTransact, h]
    | _ => simp [after, Act.isTransact]

/-- Until then, everything that is registered directly in it is pending. -/
theorem pending_ofActs {direct : List (Act τ)} (h : direct.any Act.isTransact = false) :
    (ofActs direct).pending = direct.filterMap Act.registered? := by
  induction direct using List.reverseRecOn with
  | nil => rfl
  | append_singleton direct a ih =>
    rw [List.any_append, Bool.or_eq_false_iff] at h
    rw [ofActs_concat, List.filterMap_append, ← ih h.1]
    cases a with
    | transact => simp [Act.isTransact] at h
    | register sync => rfl
    | _ => simp [after, Act.registered?]

theorem map_ofActs_follow (direct : List (List (Act τ))) (a : Act τ) :
    (a.follow [] (fun direct a => direct ++ [a]) direct).map ofActs =
      a.follow {} after (direct.map ofActs) := by
  cases direct with
  | nil => cases a <;> rfl
  | cons innermost rest => cases a <;> simp [Act.follow, ofActs]

theorem isTaken_map_ofActs (direct : List (List (Act τ))) :
    isTaken (direct.map ofActs) = (direct.headD []).any Act.isTransact := by
  cases direct with
  | nil => rfl
  | cons innermost rest => exact isClaimed_ofActs innermost

theorem pendingIn_map_ofActs {direct : List (List (Act τ))}
    (h : (direct.headD []).any Act.isTransact = false) :
    pendingIn (direct.map ofActs) = (direct.headD []).filterMap Act.registered? := by
  cases direct with
  | nil => rfl
  | cons innermost rest => exact pending_ofActs h

end Surrounding

section Perform

variable (us : List (Surrounding τ)) (st : Logged τ)

theorem perform_register (sync : Synchronization τ) :
    (Act.register sync).perform (outside us st) =
      outside ((Act.register sync).follow {} after us) (st.note (.register sync)) := by
  refine (register_outside us (st.note (.register sync)) sync).trans ?_
  cases us <;> rfl

theorem perform_setRollbackOnly :
    Act.setRollbackOnly.perform (outside us st) =
      outside (Act.setRollbackOnly.follow {} after us) (st.note .rollbackAsked) := by
  refine (setRollbackOnly_outside us (st.note .rollbackAsked)).trans ?_
  cases us <;> rfl

theorem perform_transact (ofError : Error → ε) (body : Body τ ε α) :
    ∃ st', (Act.transact ofError body).perform (outside us st) =
      outside ((Act.transact ofError body).follow {} after us) st' := by
  obtain ⟨st', hs⟩ := exists_transact_outside us st ofError body
  refine ⟨st', hs.trans ?_⟩
  cases us with
  | nil => rfl
  | cons u us => cases h : u.isClaimed <;> simp [Act.follow, after, isTaken, claim, h]

/-- Every act concerns the innermost surrounding alone. -/
theorem exists_perform_eq (a : Act τ) :
    ∃ st', a.perform (outside us st) = outside (a.follow {} after us) st' := by
  cases a with
  | work step => cases us <;> exact ⟨_, rfl⟩
  | register sync => exact ⟨_, perform_register us st sync⟩
  | setRollbackOnly => exact ⟨_, perform_setRollbackOnly us st⟩
  | transact ofError body => exact perform_transact us st ofError body
  | enter => exact ⟨st, rfl⟩
  | leave => cases us <;> exact ⟨st, rfl⟩

end Perform

/-- What is open after acts is what was done directly in each of the open surroundings. -/
theorem exists_performAll_eq (state : τ) (acts : List (Act τ)) :
    ∃ st, performAll acts { state := { state } } = outside ((openActs acts).map ofActs) st := by
  induction acts using List.reverseRecOn with
  | nil => exact ⟨{ state }, rfl⟩
  | append_singleton acts a ih =>
    obtain ⟨st, hacts⟩ := ih
    obtain ⟨st', ha⟩ := exists_perform_eq ((openActs acts).map ofActs) st a
    refine ⟨st', ?_⟩
    rw [performAll_append, hacts, openActs_concat, map_ofActs_follow]
    exact ha

/-! ## The course of a transaction -/

def Note.completed? : Note τ → Option (Synchronization τ)
  | .afterCompletion sync _ _ => some sync
  | _ => none

/-- A body has run in an open transaction that owned this much before, with these notes. Once its
end was noted there were only these calls, and they have told everyone of the end who was owned by
then, once and in the order of registration. -/
structure Course (p : Place (Logged τ)) (owned : List (Synchronization τ)) (st : Logged τ)
    (body : Body τ ε α) (notes calls : List (Note τ)) (final : Session (Logged τ)) : Prop where
  ran : (body.run (p.session owned false st)).2.state.notes = st.notes ++ notes
  quiet : ∀ n ∈ notes, n.isCall = false
  final_eq : final.state.notes =
    st.notes ++ notes ++ .ended (body.run (p.session owned false st)).1.isOk :: calls
  called : ∀ n ∈ calls, n.isCall = true
  completed : calls.filterMap Note.completed? = owned ++ notes.filterMap Note.registered?

section Calls

variable (view : View) (owned : List (Synchronization τ))

/-- Calls that come before everyone is told of the end. -/
def Note.Precedes (calls : List (Note τ)) : Prop :=
  ∀ n ∈ calls, n.isCall = true ∧ n.completed? = none

theorem precedes_nil : Note.Precedes ([] : List (Note τ)) := List.forall_mem_nil _

theorem precedes_beforeRound : Note.Precedes (beforeRound view owned) :=
  List.forall_mem_map.2 fun _ _ => ⟨rfl, rfl⟩

theorem precedes_afterRound : Note.Precedes (afterRound view owned) :=
  List.forall_mem_map.2 fun _ _ => ⟨rfl, rfl⟩

theorem Note.Precedes.append {calls later : List (Note τ)} (h : Note.Precedes calls)
    (hlater : Note.Precedes later) : Note.Precedes (calls ++ later) :=
  List.forall_mem_append.2 ⟨h, hlater⟩

variable {view owned}

theorem Objection.precedes {ofError : Error → ε} {result : Except ε α} {notes : List (Note τ)}
    {left : τ} {e : ε} {asked : List (Note τ)}
    (h : Objection ofError view owned result notes left e asked) : Note.Precedes asked := by
  cases h with
  | failure => exact precedes_nil
  | doomed => exact precedes_nil
  | callback =>
    refine (precedes_beforeRound view _).append ?_
    exact List.forall_mem_singleton.2 ⟨rfl, rfl⟩

theorem Note.Precedes.completionRound {asked : List (Note τ)} (h : Note.Precedes asked)
    (completion : Completion) :
    (∀ n ∈ asked ++ completionRound view owned completion, n.isCall = true) ∧
      (asked ++ completionRound view owned completion).filterMap Note.completed? = owned := by
  constructor
  · refine List.forall_mem_append.2 ⟨fun n hn => (h n hn).1, ?_⟩
    exact List.forall_mem_map.2 fun _ _ => rfl
  · have hnone : asked.filterMap Note.completed? = [] :=
      List.filterMap_eq_nil_iff.2 fun n hn => (h n hn).2
    rw [List.filterMap_append, hnone, List.nil_append, Transaction.completionRound,
      List.filterMap_map]
    exact List.filterMap_some

/-- However a transaction ends, everyone it owns is told of the end once. -/
theorem exists_calls (ofError : Error → ε) (view : View) (owned : List (Synchronization τ))
    (result : Except ε α) (notes : List (Note τ)) (st : Logged τ) :
    ∃ calls, (finish ofError view (owned.map noting) (notes.any Note.dooms) result st).2.notes =
        st.notes ++ calls ∧
      (∀ n ∈ calls, n.isCall = true) ∧ calls.filterMap Note.completed? = owned := by
  obtain ⟨hcommits, hrollsBack⟩ := finish_noting ofError view owned result notes st
  by_cases h : Commits view owned result notes st.state
  · refine ⟨beforeRound view owned ++ afterRound view owned ++
      completionRound view owned .committed, ?_, ?_⟩
    · simp only [(hcommits h).2, List.append_assoc]
    · exact ((precedes_beforeRound view owned).append
        (precedes_afterRound view owned)).completionRound .committed
  · obtain ⟨e, asked, hobjection, -, hnotes⟩ := hrollsBack h
    refine ⟨asked ++ completionRound view owned .rolledBack, ?_, ?_⟩
    · simp only [hnotes, List.append_assoc]
    · exact hobjection.precedes.completionRound .rolledBack

end Calls

theorem exists_course {us : List (Surrounding τ)} (h : isTaken us = false) (st : Logged τ)
    (ofError : Error → ε) (body : Body τ ε α) :
    let final := (body.transact ofError (outside us st)).2
    (∃ notes calls, Course (topLevel us) (pendingIn us) st body notes calls final) ∧
      final.boundaries = (claim us).map boundary := by
  intro final
  obtain ⟨notes, left, hran, hquiet⟩ := body.run_session (topLevel us) (pendingIn us) false st
  obtain ⟨calls, hfinal, hcalls, hcompleted⟩ := exists_calls ofError (endView us)
    (pendingIn us ++ notes.filterMap Note.registered?)
    (body.run ((topLevel us).session (pendingIn us) false st)).1 notes
    ((⟨left, st.notes ++ notes⟩ : Logged τ).note
      (.ended (body.run ((topLevel us).session (pendingIn us) false st)).1.isOk))
  simp only [final, transact_outside us st h ofError body (Prod.ext rfl hran)]
  refine ⟨⟨notes, calls, ?_⟩, rfl⟩
  refine ⟨congrArg (Logged.notes ∘ Session.state) hran, hquiet, hfinal.trans ?_, hcalls, hcompleted⟩
  simp only [Logged.note, List.append_assoc, List.singleton_append]

/-- A transaction that is started where one is open runs its body there, and nothing else. -/
theorem transact_session (p : Place (Logged τ)) (owned : List (Synchronization τ))
    (rollbackOnly : Bool) (st : Logged τ) (ofError : Error → ε) (body : Body τ ε α) :
    let ran := body.run (p.session owned rollbackOnly st)
    let final := body.transact ofError (p.session owned rollbackOnly st)
    final.1 = ran.1 ∧ final.2.state.notes = ran.2.state.notes ++ [.ended ran.1.isOk] := by
  intro ran final
  have hopen : (p.session owned rollbackOnly st).boundaries.isBodyExecuting = true :=
    p.isBodyExecuting_boundaries _ _
  obtain ⟨notes, left, hran, -⟩ := body.run_session p owned rollbackOnly st
  have hset := p.setRollbackOnly_boundaries
    ((owned ++ notes.filterMap Note.registered?).map noting) (rollbackOnly || notes.any Note.dooms)
  simp only [final, ran, Body.transact, execute, hopen, if_true, noteEnd]
  cases (body.run (p.session owned rollbackOnly st)).1 with
  | ok a => exact ⟨rfl, rfl⟩
  | error e =>
    rw [hran]
    simp only [Session.note, Place.session, hset, true_and]
    rfl

/-! ## One transaction for each surrounding -/

/-- A transaction that a program starts outside of any other runs its body if it is the first that
is started directly in the innermost open surrounding, and otherwise fails and leaves everything as
it is. What has been started in other surroundings, be it around that one or in it, does not matter.
A transaction that is started in another runs its body, whatever surroundings are open in that. -/
theorem surrounding_admits_one (program : Body τ ε α) (state : τ) :
    let start : Session (Logged τ) := { state := { state } }
    (program.run start).2 = performAll (program.acts start) start ∧
    (∀ (δ β : Type) (before after : List (Act τ)) (ofError : Error → δ) (body : Body τ δ β),
      program.acts start = before ++ .transact ofError body :: after →
        let s := performAll before start
        ((directActs before).any Act.isTransact = true →
          body.transact ofError s = (.error (ofError .multipleTransactionsNotPermitted), s)) ∧
        ((directActs before).any Act.isTransact = false →
          ∃ p owned notes calls,
            Course p owned s.state body notes calls (body.transact ofError s).2)) ∧
    ∀ (δ β : Type) (p : Place (Logged τ)) (owned : List (Synchronization τ)) (rollbackOnly : Bool)
      (st : Logged τ) (ofError : Error → δ) (body : Body τ δ β),
      let ran := body.run (p.session owned rollbackOnly st)
      let final := body.transact ofError (p.session owned rollbackOnly st)
      final.1 = ran.1 ∧ final.2.state.notes = ran.2.state.notes ++ [.ended ran.1.isOk] := by
  intro start
  refine ⟨(performAll_acts program start).symm, ?_, fun _ _ => transact_session⟩
  intro δ β before after ofError body _ s
  obtain ⟨st, hs⟩ : ∃ st, s = outside ((openActs before).map ofActs) st :=
    exists_performAll_eq state before
  have htaken : isTaken ((openActs before).map ofActs) = (directActs before).any Act.isTransact :=
    isTaken_map_ofActs (openActs before)
  rw [hs]
  constructor
  · intro hstarted
    exact transact_outside_of_taken _ st (htaken.trans hstarted) ofError body
  · intro hnone
    exact ⟨_, _, (exists_course (htaken.trans hnone) st ofError body).1⟩

/-- A surrounding with two transactions, and a third in a surrounding in it. -/
theorem surrounding_admits_one_nested :
    let writing (line : String) : Body (List String) Error Unit :=
      .work (fun _ lines => ((), lines ++ [line])) fun _ => .done (.ok ())
    let start : Session (Logged (List String)) := { state := { state := [] } }
    let before : List (Act (List String)) := [.enter, .transact id (writing "first")]
    let later := before ++ [.transact id (writing "second"), .enter]
    (writing "second").transact id (performAll before start) =
        (.error .multipleTransactionsNotPermitted, performAll before start) ∧
      ∃ p owned notes calls, Course p owned (performAll later start).state (writing "third") notes
        calls ((writing "third").transact id (performAll later start)).2 := by
  intro writing start before later
  let program : Body (List String) Error Unit :=
    .surround (.execute id (writing "first") fun _ => .execute id (writing "second") fun _ =>
      .surround (.execute id (writing "third") .done) .done) .done
  have hadmits := (surrounding_admits_one program []).2
  have hsecond := hadmits.1 _ _ before [.enter, .transact id (writing "third"), .leave, .leave] id
    (writing "second") rfl
  have hthird := hadmits.1 _ _ later [.leave, .leave] id (writing "third") rfl
  exact ⟨hsecond.1 rfl, hthird.2 rfl⟩

/-- While a surrounding is open, a second transaction may run in a surrounding in it. -/
theorem nested_surrounding_admits_another :
    run [.surround [.execute [.log "first"], .surround [.execute [.log "second"]]]] =
      (.ok 1, { state :=
        [.note "first", .finished "execute" 1, .note "second", .finished "execute" 1,
          .finished "surrounding" 1, .finished "surrounding" 2] }) :=
  rfl

/-! ## What a surrounding hands over -/

/-- The first transaction that a program starts directly in a surrounding, outside of any other,
owns what has been registered directly in that surrounding since it was opened, before everything
that its body registers. At its end, and not before, everyone it owns is told of the end once and in
the order of registration. Then nothing of it stays in the surrounding, and the other surroundings
that are open are as they were. -/
theorem surrounding_handsOver (program : Body τ ε α) (state : τ) :
    let start : Session (Logged τ) := { state := { state } }
    (program.run start).2 = performAll (program.acts start) start ∧
    ∀ (δ β : Type) (before after : List (Act τ)) (ofError : Error → δ) (body : Body τ δ β),
      program.acts start = before ++ .transact ofError body :: after →
        (directActs before).any Act.isTransact = false →
          let s := performAll before start
          let final := (body.transact ofError s).2
          let registered := (directActs before).filterMap Act.registered?
          (∃ p notes calls, Course p registered s.state body notes calls final) ∧
            s.boundaries = ((openActs before).map ofActs).map boundary ∧
            final.boundaries = (claim ((openActs before).map ofActs)).map boundary := by
  intro start
  refine ⟨(performAll_acts program start).symm, ?_⟩
  intro δ β before after ofError body _ hnone s final registered
  obtain ⟨st, hs⟩ : ∃ st, s = outside ((openActs before).map ofActs) st :=
    exists_performAll_eq state before
  have hfree : isTaken ((openActs before).map ofActs) = false :=
    (isTaken_map_ofActs (openActs before)).trans hnone
  have hpending : pendingIn ((openActs before).map ofActs) = registered :=
    pendingIn_map_ofActs hnone
  obtain ⟨hcourse, hclaimed⟩ := exists_course hfree st ofError body
  rw [hpending] at hcourse
  simp only [final, hs]
  exact ⟨⟨_, hcourse⟩, rfl, hclaimed⟩

/-- A registration in a surrounding is handed over past a surrounding in it that is closed again. -/
theorem surrounding_handsOver_past :
    let nothing : Body (List String) Error Unit := .done (.ok ())
    let start : Session (Logged (List String)) := { state := { state := [] } }
    let before : List (Act (List String)) := [.enter, .register (leaving "audit"), .enter, .leave]
    let s := performAll before start
    ∃ p notes calls, Course p [leaving "audit"] s.state nothing notes calls
      (nothing.transact id s).2 := by
  intro nothing start before s
  let program : Body (List String) Error Unit :=
    .surround (.register (leaving "audit") fun _ => .surround nothing fun _ =>
      .execute id nothing .done) .done
  exact ((surrounding_handsOver program []).2 _ _ before [.leave] id nothing rfl rfl).1

/-- What is registered in a surrounding is not handed over to a transaction in a surrounding in it:
nobody is ever told of its end. -/
theorem nested_transaction_inherits_nothing :
    run [.surround [.register (.full "audit" none), .surround [.execute []]]] =
      (.ok 1, { state := [.finished "execute" 0, .finished "surrounding" 1,
        .finished "surrounding" 2] }) :=
  rfl

end PipelineSync.Transaction
