import SpecterCloud.Foundations.UnitOfWork

/-! Programs that make calls on a unit of work and catch what the calls raise, and what
becomes of a statement that waits when such a program starts.
-/

namespace SpecterCloud.Foundations

variable {Db Err α Value : Type}

/-- Two states that agree on an observed part. -/
def SameObserved (observe : Db → Value) (left right : Db) : Prop :=
  observe right = observe left

theorem SameObserved.refl (observe : Db → Value) (db : Db) : SameObserved observe db db := rfl

theorem SameObserved.trans {observe : Db → Value} (a b c : Db) (first : SameObserved observe a b)
    (second : SameObserved observe b c)
    : SameObserved observe a c :=
  Eq.trans second first

/-- A statement that leaves an observed part of the database as it is. -/
structure QuietStatement (Err : Type) (observe : Db → Value) where
  run : Db → Except Err Db
  quiet : Advances (SameObserved observe) run

/-- A call on the session. A query is a statement that returns the database unchanged. -/
inductive SessionCall (Err : Type) (observe : Db → Value)
  | execute (statement : QuietStatement Err observe)
  | add (statement : QuietStatement Err observe)
  | flush
  | commit
  | rollback

/-- A program on a session: after each call it goes on with what it then reads, or with the
error that it caught.
-/
inductive Script (Err α : Type) (observe : Db → Value)
  | finish (outcome : Except Err α)
  | call (request : SessionCall Err observe) (next : Except Err Db → Script Err α observe)

/-- How a script ended, each of its calls with whether it returned, and the session. -/
structure Script.Ended (Err α : Type) (observe : Db → Value) where
  outcome : Except Err α
  calls : List (SessionCall Err observe × Bool)
  session : UnitOfWork Db Err

/-- Among the calls there is a commit that returned, and before it no call raised and none
was a rollback.
-/
inductive CommitsFirst {observe : Db → Value} : List (SessionCall Err observe × Bool) → Prop
  | commits {rest : List (SessionCall Err observe × Bool)}
      : CommitsFirst ((.commit, true) :: rest)
  | passes {request : SessionCall Err observe} {rest : List (SessionCall Err observe × Bool)}
      (kept : request ≠ .rollback) (later : CommitsFirst rest)
      : CommitsFirst ((request, true) :: rest)

/-- What committed first did commit. -/
theorem CommitsFirst.committed {observe : Db → Value}
    {calls : List (SessionCall Err observe × Bool)} (first : CommitsFirst calls)
    : (.commit, true) ∈ calls := by
  induction first with
  | commits => exact List.mem_cons_self
  | passes _ _ ih => exact List.mem_cons_of_mem _ ih

variable [TransactionErrors Err] {observe : Db → Value}

def SessionCall.action : SessionCall Err observe → Action Db Err Unit
  | execute statement => Action.execute statement.run
  | add statement => Action.add statement.run
  | flush => Action.flush
  | commit => Action.commit
  | rollback => Action.rollback

def Script.run : Script Err α observe → UnitOfWork Db Err → Script.Ended Err α observe
  | finish outcome, session => { outcome, calls := [], session }
  | call request next, session =>
      match request.action.run session with
      | .ok _ reached =>
          let ended := (next (.ok reached.view)).run reached
          { ended with calls := (request, true) :: ended.calls }
      | .error error reached =>
          let ended := (next (.error error)).run reached
          { ended with calls := (request, false) :: ended.calls }

/-- No call moves the observed part. -/
theorem SessionCall.respects (request : SessionCall Err observe)
    : Action.Respects (SameObserved observe) request.action := by
  cases request with
  | execute statement => exact Action.Respects.execute SameObserved.trans statement.quiet
  | add statement => exact Action.Respects.add statement.quiet
  | flush => exact Action.Respects.flush SameObserved.trans
  | commit => exact Action.Respects.commit SameObserved.trans
  | rollback => exact Action.Respects.rollback

/-- A whole script leaves the observed part where it is, by induction on the script. -/
theorem Script.respects (script : Script Err α observe) {base : Db}
    {session : UnitOfWork Db Err} (tracked : Tracks (SameObserved observe) base session)
    : Tracks (SameObserved observe) base (script.run session).session := by
  induction script generalizing session with
  | finish outcome => exact tracked
  | call request next ih =>
      have moved := request.respects base session tracked
      unfold Script.run
      cases ran : request.action.run session with
      | ok _ reached =>
          rw [ran] at moved
          exact ih _ moved
      | error _ reached =>
          rw [ran] at moved
          exact ih _ moved

/-- A script on a session that has just been opened commits nothing observed. -/
theorem Script.keeps (script : Script Err α observe) (db : Db)
    : observe (script.run (.opened db)).session.committed = observe db :=
  (script.respects (Tracks.settled (SameObserved.refl observe db) .active)).committed

-----------------------------------------------------------------------------------------
-- A statement that waits is either committed or lost
-----------------------------------------------------------------------------------------

/-- What is committed still shows `base`, and shows `target` once all that waits is sent. -/
structure Awaiting (observe : Db → Value) (base target : Value) (session : UnitOfWork Db Err)
    : Prop where
  committed : observe session.committed = base
  active : session.status = .active
  delivers
    : ∀ {db next : Db},
        observe db = observe session.view
        → runAll session.pending db = .ok next
        → observe next = target

variable {base target : Value} {session reached : UnitOfWork Db Err}

/-- A call that raises gives up what waits, and leaves the session where it was committed. -/
theorem Awaiting.raised (awaiting : Awaiting observe base target session)
    {request : SessionCall Err observe} {error : Err}
    (ran : request.action.run session = .error error reached)
    : Tracks (SameObserved observe) session.committed reached := by
  obtain ⟨committed, view, pending, status⟩ := session
  obtain rfl : status = .active := awaiting.active
  cases request with
  | rollback => cases ran
  | add statement => cases ran
  | execute statement =>
      rw [SessionCall.action, Action.execute_active] at ran
      split at ran <;> cases ran
      exact Tracks.stopped rfl nofun
  | flush =>
      rw [SessionCall.action, Action.flush_active] at ran
      split at ran <;> cases ran
      exact Tracks.settled (SameObserved.refl observe _) .inactive
  | commit =>
      rw [SessionCall.action, Action.commit_active] at ran
      split at ran <;> cases ran
      exact Tracks.settled (SameObserved.refl observe _) .inactive

/-- A commit that returns has sent what waited, and the session starts again from there. -/
theorem Awaiting.commit (awaiting : Awaiting observe base target session)
    (ran : (Action.commit : Action Db Err Unit).run session = .ok () reached)
    : ∃ db, observe db = target ∧ reached = .opened db := by
  obtain ⟨committed, view, pending, status⟩ := session
  obtain rfl : status = .active := awaiting.active
  rw [Action.commit_active] at ran
  split at ran <;> cases ran
  rename_i sent
  exact ⟨_, awaiting.delivers rfl sent, rfl⟩

/-- A call that returns, but neither commits nor rolls back, leaves the statement waiting, or
sent within the open transaction.
-/
theorem Awaiting.passes (awaiting : Awaiting observe base target session)
    {request : SessionCall Err observe} (uncommitted : request ≠ .commit)
    (kept : request ≠ .rollback)
    (ran : request.action.run session = .ok () reached)
    : Awaiting observe base target reached := by
  obtain ⟨committed, view, pending, status⟩ := session
  obtain rfl : status = .active := awaiting.active
  cases request with
  | rollback => exact absurd rfl kept
  | commit => exact absurd rfl uncommitted
  | add statement =>
      cases ran
      refine ⟨awaiting.committed, rfl, ?_⟩
      intro db next same sent
      obtain ⟨middle, earlier, last⟩ := runAll_snoc.mp sent
      exact Eq.trans (statement.quiet last) (awaiting.delivers same earlier)
  | execute statement =>
      rw [SessionCall.action, Action.execute_active] at ran
      split at ran <;> cases ran
      rename_i moved
      refine ⟨awaiting.committed, rfl, ?_⟩
      intro db next same sent
      exact awaiting.delivers (Eq.trans same (statement.quiet moved)) sent
  | flush =>
      rw [SessionCall.action, Action.flush_active] at ran
      split at ran <;> cases ran
      rename_i sent
      refine ⟨awaiting.committed, rfl, ?_⟩
      intro db next same nothing
      cases nothing
      exact same.trans (awaiting.delivers rfl sent)

/-- Whatever the script does, what waited is committed exactly when the script commits first;
by induction on the script, which either keeps the statement waiting or decides its fate.
-/
theorem Awaiting.run (script : Script Err α observe)
    (awaiting : Awaiting observe base target session)
    : (CommitsFirst (script.run session).calls
        ∧ observe (script.run session).session.committed = target)
      ∨ (¬ CommitsFirst (script.run session).calls
        ∧ observe (script.run session).session.committed = base) := by
  induction script generalizing session with
  | finish outcome => exact .inr ⟨nofun, awaiting.committed⟩
  | call request next ih =>
      unfold Script.run
      cases ran : request.action.run session with
      | error error reached =>
          right
          refine ⟨nofun, ?_⟩
          have lost := (next (.error error)).respects (awaiting.raised ran)
          exact Eq.trans lost.committed awaiting.committed
      | ok _ reached =>
          by_cases kept : request = .rollback
          · subst kept
            cases ran
            right
            refine ⟨?_, ?_⟩
            · intro first
              cases first with
              | passes kept _ => exact absurd rfl kept
            · exact ((next _).keeps session.committed).trans awaiting.committed
          by_cases commits : request = .commit
          · subst commits
            obtain ⟨db, observed, rfl⟩ := awaiting.commit ran
            left
            exact ⟨.commits, ((next _).keeps db).trans observed⟩
          · rcases ih _ (awaiting.passes commits kept ran) with
              ⟨first, observed⟩ | ⟨lost, observed⟩
            · exact .inl ⟨.passes kept first, observed⟩
            · refine .inr ⟨?_, observed⟩
              intro first
              cases first with
              | commits => exact commits rfl
              | passes _ later => exact lost later

end SpecterCloud.Foundations
