import Mathlib.Order.Basic

/-! A unit of work over a database: one transaction at a time, statements that wait for the
next flush, and programs that run on it and may raise at any point.
-/

namespace SpecterCloud.Foundations

/-- A transaction in which a statement failed is `aborted`; after a failed flush the session
is `inactive` until it is rolled back.
-/
inductive TransactionStatus
  | active
  | aborted
  | inactive
deriving DecidableEq

/-- What is committed, what the open transaction reads, and what waits to be flushed. -/
structure UnitOfWork (Db Err : Type) where
  committed : Db
  view : Db
  pending : List (Db → Except Err Db)
  status : TransactionStatus

/-- The two errors that a session raises by itself. -/
class TransactionErrors (Err : Type) where
  inFailedTransaction : Err
  pendingRollback : Err

/-- A program on a session. What it did before it raised stays done. -/
abbrev Action (Db Err α : Type) := EStateM Err (UnitOfWork Db Err) α

variable {Db Err α β : Type}

/-- A session that has just been opened. -/
def UnitOfWork.opened (db : Db) : UnitOfWork Db Err :=
  { committed := db, view := db, pending := [], status := .active }

/-- A session that has sent nothing, and on which statements wait. -/
def UnitOfWork.waiting (db : Db) (pending : List (Db → Except Err Db)) : UnitOfWork Db Err :=
  { committed := db, view := db, pending, status := .active }

/-- The open transaction is given up, and with it everything that waits. -/
def UnitOfWork.rolledBack (session : UnitOfWork Db Err) (status : TransactionStatus)
    : UnitOfWork Db Err :=
  { committed := session.committed, view := session.committed, pending := [], status }

/-- Statements run one after another; the first failure stops them. -/
def runAll (statements : List (Db → Except Err Db)) (db : Db) : Except Err Db :=
  statements.foldlM (fun db statement => statement db) db

namespace Action

/-- A new or changed object; its statement waits for the next flush. -/
def add (statement : Db → Except Err Db) : Action Db Err Unit := fun session =>
  .ok () { session with pending := session.pending ++ [statement] }

/-- The transaction and what waits are given up. -/
def rollback : Action Db Err Unit := fun session => .ok () (session.rolledBack .active)

/-- A computation that does not touch the session. -/
def ofExcept (computed : Except Err α) : Action Db Err α := fun session =>
  match computed with
  | .ok value => .ok value session
  | .error error => .error error session

/-- The session at the end of a run, whether it returned or raised. -/
def final : EStateM.Result Err (UnitOfWork Db Err) α → UnitOfWork Db Err
  | .ok _ session => session
  | .error _ session => session

/-- The answer of a run. -/
def outcome : EStateM.Result Err (UnitOfWork Db Err) α → Except Err α
  | .ok value _ => .ok value
  | .error error _ => .error error

/-- A whole request: a session is opened for the action and closed after it, which keeps
nothing but what was committed.
-/
def perform (action : Action Db Err α) (db : Db) : Except Err α × Db :=
  let result := action.run (.opened db)
  (outcome result, (final result).committed)

variable [TransactionErrors Err]

/-- A query on the open transaction; a failing one aborts it. -/
def select (query : Db → Except Err α) : Action Db Err α := fun session =>
  match session.status with
  | .inactive => .error TransactionErrors.pendingRollback session
  | .aborted => .error TransactionErrors.inFailedTransaction session
  | .active =>
      match query session.view with
      | .ok value => .ok value session
      | .error error => .error error { session with status := .aborted }

/-- A statement sent at once. -/
def execute (statement : Db → Except Err Db) : Action Db Err Unit := fun session =>
  match session.status with
  | .inactive => .error TransactionErrors.pendingRollback session
  | .aborted => .error TransactionErrors.inFailedTransaction session
  | .active =>
      match statement session.view with
      | .ok view => .ok () { session with view }
      | .error error => .error error { session with status := .aborted }

/-- A statement sent at once, with the result that it returns. -/
def executeReturning (statement : Db → Except Err (α × Db)) : Action Db Err α := fun session =>
  match session.status with
  | .inactive => .error TransactionErrors.pendingRollback session
  | .aborted => .error TransactionErrors.inFailedTransaction session
  | .active =>
      match statement session.view with
      | .ok (value, view) => .ok value { session with view }
      | .error error => .error error { session with status := .aborted }

/-- The waiting statements are sent. -/
def flush : Action Db Err Unit := fun session =>
  match session.status, session.pending with
  | .active, pending =>
      match runAll pending session.view with
      | .ok view => .ok () { session with view, pending := [] }
      | .error error => .error error (session.rolledBack .inactive)
  | _, [] => .ok () session
  | .aborted, _ =>
      .error TransactionErrors.inFailedTransaction (session.rolledBack .inactive)
  | .inactive, _ => .error TransactionErrors.pendingRollback session

/-- A flush, then the transaction's view becomes the committed state. Committing an aborted
transaction rolls it back.
-/
def commit : Action Db Err Unit := fun session =>
  match session.status, session.pending with
  | .active, pending =>
      match runAll pending session.view with
      | .ok view => .ok () (.opened view)
      | .error error => .error error (session.rolledBack .inactive)
  | .aborted, [] => .ok () (session.rolledBack .active)
  | .aborted, _ =>
      .error TransactionErrors.inFailedTransaction (session.rolledBack .inactive)
  | .inactive, _ => .error TransactionErrors.pendingRollback session

end Action

-----------------------------------------------------------------------------------------
-- Running the operations on an active session
-----------------------------------------------------------------------------------------

section Runs

@[simp]
theorem Action.throw_run (error : Err) (session : UnitOfWork Db Err)
    : (throw error : Action Db Err α).run session = .error error session :=
  rfl

@[simp]
theorem Action.ofExcept_run (computed : Except Err α) (session : UnitOfWork Db Err)
    : (Action.ofExcept computed).run session
      = match computed with
        | .ok value => .ok value session
        | .error error => .error error session :=
  rfl

@[simp]
theorem runAll_nil (db : Db) : runAll ([] : List (Db → Except Err Db)) db = .ok db := rfl

@[simp]
theorem runAll_cons (statement : Db → Except Err Db) (rest : List (Db → Except Err Db))
    (db : Db)
    : runAll (statement :: rest) db = (statement db).bind (runAll rest) :=
  rfl

/-- The first of several statements that all succeed leads to where the others start. -/
theorem runAll_cons_ok {statement : Db → Except Err Db} {rest : List (Db → Except Err Db)}
    {db next : Db} (ran : runAll (statement :: rest) db = .ok next)
    : ∃ middle, statement db = .ok middle ∧ runAll rest middle = .ok next := by
  rw [runAll_cons] at ran
  cases first : statement db with
  | ok middle =>
      rw [first] at ran
      exact ⟨middle, rfl, ran⟩
  | error error =>
      rw [first] at ran
      cases ran

/-- Consecutive statement lists run one after the other. -/
theorem runAll_append (first second : List (Db → Except Err Db)) (db : Db)
    : runAll (first ++ second) db = (runAll first db).bind (runAll second) := by
  rw [runAll, List.foldlM_append]
  rfl

/-- A last statement runs on what the statements before it reached. -/
theorem runAll_snoc {statements : List (Db → Except Err Db)}
    {statement : Db → Except Err Db} {db next : Db}
    : runAll (statements ++ [statement]) db = .ok next
      ↔ ∃ middle, runAll statements db = .ok middle ∧ statement middle = .ok next := by
  rw [runAll_append]
  cases runAll statements db <;> simp [Except.bind, runAll]

@[simp]
theorem Action.add_run (statement : Db → Except Err Db) (session : UnitOfWork Db Err)
    : (Action.add statement).run session
      = .ok () { session with pending := session.pending ++ [statement] } :=
  rfl

/-- Statements added one by one wait in their order. -/
theorem Action.forM_add_run (statements : List (Db → Except Err Db))
    (session : UnitOfWork Db Err)
    : (forM statements Action.add).run session
      = .ok () { session with pending := session.pending ++ statements } := by
  induction statements generalizing session with
  | nil => simp
  | cons statement rest ih =>
      rw [List.forM_cons, EStateM.run_bind, Action.add_run]
      simp [ih]

variable [TransactionErrors Err] {committed view : Db}
  {pending : List (Db → Except Err Db)}

@[simp]
theorem Action.select_active (query : Db → Except Err α)
    : (Action.select query).run { committed, view, pending, status := .active }
      = match query view with
        | .ok value => .ok value { committed, view, pending, status := .active }
        | .error error => .error error { committed, view, pending, status := .aborted } :=
  rfl

@[simp]
theorem Action.execute_active (statement : Db → Except Err Db)
    : (Action.execute statement).run { committed, view, pending, status := .active }
      = match statement view with
        | .ok view => .ok () { committed, view, pending, status := .active }
        | .error error => .error error { committed, view, pending, status := .aborted } :=
  rfl

@[simp]
theorem Action.executeReturning_active (statement : Db → Except Err (α × Db))
    : (Action.executeReturning statement).run { committed, view, pending, status := .active }
      = match statement view with
        | .ok (value, view) => .ok value { committed, view, pending, status := .active }
        | .error error => .error error { committed, view, pending, status := .aborted } :=
  rfl

@[simp]
theorem Action.flush_active
    : (Action.flush : Action Db Err Unit).run
          { committed, view, pending, status := .active }
      = match runAll pending view with
        | .ok view => .ok () { committed, view, pending := [], status := .active }
        | .error error =>
            .error error
              { committed, view := committed, pending := [], status := .inactive } :=
  rfl

@[simp]
theorem Action.commit_active
    : (Action.commit : Action Db Err Unit).run
          { committed, view, pending, status := .active }
      = match runAll pending view with
        | .ok view => .ok () (.opened view)
        | .error error =>
            .error error
              { committed, view := committed, pending := [], status := .inactive } :=
  rfl

end Runs

-----------------------------------------------------------------------------------------
-- Where an action ends on a session that has just been opened
-----------------------------------------------------------------------------------------

section Ends

/-- The action returns with nothing open, or raises, and `after` is then committed. -/
def Action.Ends (action : Action Db Err α) (db : Db) : Except Err α → Db → Prop
  | .ok value, after => action.run (.opened db) = .ok value (.opened after)
  | .error error, after =>
      ∃ stopped, action.run (.opened db) = .error error stopped ∧ stopped.committed = after

namespace Action.Ends

variable {action : Action Db Err α} {next : α → Action Db Err β} {db middle after : Db}
  {value : α} {error : Err} {outcome : Except Err β}

/-- A whole request commits what its action ends at. -/
theorem perform {outcome : Except Err α} (ends : action.Ends db outcome after)
    : action.perform db = (outcome, after) := by
  unfold Action.perform
  cases outcome with
  | ok value =>
      rw [show action.run (.opened db) = _ from ends]
      rfl
  | error error =>
      obtain ⟨stopped, ran, rfl⟩ := ends
      rw [ran]
      rfl

theorem pure (value : α) : (pure value : Action Db Err α).Ends db (.ok value) db := rfl

theorem throw (error : Err) : (throw error : Action Db Err α).Ends db (.error error) db :=
  ⟨.opened db, rfl, rfl⟩

/-- An action that returned hands its database on. -/
theorem bind (first : action.Ends db (.ok value) middle)
    (second : (next value).Ends middle outcome after)
    : (action >>= next).Ends db outcome after := by
  have ran : (action >>= next).run (.opened db) = (next value).run (.opened middle) := by
    rw [EStateM.run_bind, show action.run (.opened db) = _ from first]
  cases outcome with
  | ok value => exact ran.trans second
  | error error =>
      obtain ⟨stopped, raised, committed⟩ := second
      exact ⟨stopped, ran.trans raised, committed⟩

/-- An action that raised ends the sequence. -/
theorem raise (first : action.Ends db (.error error) after)
    : (action >>= next).Ends db (.error error) after := by
  obtain ⟨stopped, raised, committed⟩ := first
  refine ⟨stopped, ?_, committed⟩
  rw [EStateM.run_bind, raised]

theorem ofExcept (computed : Except Err α)
    : (Action.ofExcept computed : Action Db Err α).Ends db computed db := by
  cases computed with
  | ok value => rfl
  | error error => exact ⟨.opened db, rfl, rfl⟩

/-- A computation that answers, and what follows it. -/
theorem computed {computed : Except Err α} (answered : computed = .ok value)
    (second : (next value).Ends db outcome after)
    : (Action.ofExcept computed >>= next).Ends db outcome after :=
  bind (answered ▸ ofExcept computed) second

variable [TransactionErrors Err]

theorem select (query : Db → Except Err α) : (Action.select query).Ends db (query db) db := by
  cases answered : query db with
  | ok value =>
      show (Action.select query).run (.opened db) = _
      rw [UnitOfWork.opened, Action.select_active, answered]
  | error error =>
      refine ⟨{ committed := db, view := db, pending := [], status := .aborted }, ?_, rfl⟩
      rw [UnitOfWork.opened, Action.select_active, answered]

/-- A query that answers, and what follows it. -/
theorem selected {query : Db → Except Err α} (answered : query db = .ok value)
    (second : (next value).Ends db outcome after)
    : (Action.select query >>= next).Ends db outcome after :=
  bind (answered ▸ select query) second

/-- A query that fails ends the sequence. -/
theorem unanswered {query : Db → Except Err α} (failed : query db = .error error)
    : (Action.select query >>= next).Ends db (.error error) db :=
  raise (failed ▸ select query)

/-- One statement, committed at once. -/
theorem committed {statement : Db → Except Err Db} {next : Unit → Action Db Err β}
    (ran : statement db = .ok middle) (second : (next ()).Ends middle outcome after)
    : (Action.add statement >>= fun _ => Action.commit >>= next).Ends db outcome after := by
  have written
      : (Action.add statement >>= fun _ => Action.commit : Action Db Err Unit).Ends db (.ok ())
          middle := by
    show EStateM.run _ _ = _
    simp [UnitOfWork.opened, ran, Except.bind]
  rw [← bind_assoc]
  exact bind written second

/-- Any number of statements, committed at once. -/
theorem committedAll {statements : List (Db → Except Err Db)} {next : Unit → Action Db Err β}
    (ran : runAll statements db = .ok middle) (second : (next ()).Ends middle outcome after)
    : (forM statements Action.add >>= fun _ => Action.commit >>= next).Ends db outcome
        after := by
  have written
      : (forM statements Action.add >>= fun _ => Action.commit : Action Db Err Unit).Ends db
          (.ok ()) middle := by
    show EStateM.run _ _ = _
    rw [EStateM.run_bind, Action.forM_add_run]
    simp [UnitOfWork.opened, ran]
  rw [← bind_assoc]
  exact bind written second

/-- Statements of which the commit rejects one. -/
theorem rejectedAll {statements : List (Db → Except Err Db)} {next : Unit → Action Db Err β}
    (ran : runAll statements db = .error error)
    : (forM statements Action.add >>= fun _ => Action.commit >>= next).Ends db (.error error)
        db := by
  refine ⟨{ committed := db, view := db, pending := [], status := .inactive }, ?_, rfl⟩
  rw [EStateM.run_bind, Action.forM_add_run]
  simp [UnitOfWork.opened, ran]

/-- One statement that the commit rejects. -/
theorem rejected {statement : Db → Except Err Db} {next : Unit → Action Db Err β}
    (ran : statement db = .error error)
    : (Action.add statement >>= fun _ => Action.commit >>= next).Ends db (.error error) db := by
  refine ⟨{ committed := db, view := db, pending := [], status := .inactive }, ?_, rfl⟩
  simp [UnitOfWork.opened, ran, Except.bind]

/-- One statement sent at once, and committed. -/
theorem executed {statement : Db → Except Err Db} {next : Unit → Action Db Err β}
    (ran : statement db = .ok middle) (second : (next ()).Ends middle outcome after)
    : (Action.execute statement >>= fun _ => Action.commit >>= next).Ends db outcome after := by
  have written
      : (Action.execute statement >>= fun _ => Action.commit : Action Db Err Unit).Ends db
          (.ok ()) middle := by
    show EStateM.run _ _ = _
    simp [UnitOfWork.opened, ran]
  rw [← bind_assoc]
  exact bind written second

/-- A statement sent at once that is rejected. -/
theorem refused {statement : Db → Except Err Db} {next : Unit → Action Db Err β}
    (ran : statement db = .error error)
    : (Action.execute statement >>= next).Ends db (.error error) db := by
  refine ⟨{ committed := db, view := db, pending := [], status := .aborted }, ?_, rfl⟩
  simp [UnitOfWork.opened, ran]

/-- One statement sent at once for its result, and committed. -/
theorem returned {statement : Db → Except Err (α × Db)} {next : α → Action Db Err β}
    (ran : statement db = .ok (value, middle)) (second : (next value).Ends middle outcome after)
    : (Action.executeReturning statement
        >>= fun value => Action.commit >>= fun _ => next value).Ends db outcome after := by
  have written
      : (Action.executeReturning statement
          >>= fun value => Action.commit >>= fun _ => Pure.pure value : Action Db Err α).Ends db
            (.ok value) middle := by
    show EStateM.run _ _ = _
    rw [UnitOfWork.opened, EStateM.run_bind, Action.executeReturning_active, ran]
    rfl
  have regrouped
      : (Action.executeReturning statement
          >>= fun value => Action.commit >>= fun _ => next value)
        = (Action.executeReturning statement
            >>= fun value => Action.commit >>= fun _ => Pure.pure value)
          >>= next := by
    simp
  rw [regrouped]
  exact bind written second

/-- A statement sent at once for its result that is rejected. -/
theorem refusedReturning {statement : Db → Except Err (α × Db)} {next : α → Action Db Err β}
    (ran : statement db = .error error)
    : (Action.executeReturning statement >>= next).Ends db (.error error) db := by
  refine ⟨{ committed := db, view := db, pending := [], status := .aborted }, ?_, rfl⟩
  simp [UnitOfWork.opened, ran]

end Action.Ends

end Ends

-----------------------------------------------------------------------------------------
-- Requests that only move the database along an order
-----------------------------------------------------------------------------------------

section Tracking

variable (Grows : Db → Db → Prop)

/-- A statement that leads only to states above the one it ran on. -/
def Advances (statement : Db → Except Err Db) : Prop :=
  ∀ {db next : Db}, statement db = .ok next → Grows db next

/-- What is committed is above `base`, and so is all that the session could still commit. -/
structure Tracks (base : Db) (session : UnitOfWork Db Err) : Prop where
  committed : Grows base session.committed
  view : session.status = .active → Grows base session.view
  pending
    : session.status = .active → ∀ statement ∈ session.pending, Advances Grows statement

/-- An action whose every end, returned or raised, stays above where it started. -/
def Action.Respects (action : Action Db Err α) : Prop :=
  ∀ base session, Tracks Grows base session →
    Tracks Grows base (Action.final (action.run session))

variable {Grows} {base : Db} {session : UnitOfWork Db Err}

/-- A session whose committed state and view are one state, with nothing waiting. -/
theorem Tracks.settled {db : Db} (above : Grows base db) (status : TransactionStatus)
    : Tracks Grows base
        ({ committed := db, view := db, pending := [], status } : UnitOfWork Db Err) :=
  ⟨above, fun _ => above, fun _ _ member => nomatch member⟩

/-- A session whose transaction can no longer be committed. -/
theorem Tracks.stopped (above : Grows base session.committed)
    (stopped : session.status ≠ .active)
    : Tracks Grows base session :=
  ⟨above, fun active => absurd active stopped, fun active => absurd active stopped⟩

/-- Statements that advance lead above, by induction on the statements. -/
theorem runAll_grows (trans : ∀ a b c, Grows a b → Grows b c → Grows a c)
    {statements : List (Db → Except Err Db)}
    (advances : ∀ statement ∈ statements, Advances Grows statement) {db next : Db}
    (above : Grows base db) (ran : runAll statements db = .ok next)
    : Grows base next := by
  induction statements generalizing db with
  | nil =>
      have same : db = next := by simpa using ran
      exact same ▸ above
  | cons statement rest ih =>
      obtain ⟨middle, first, ran⟩ := runAll_cons_ok ran
      exact ih (fun later member => advances later (by simp [member]))
        (trans _ _ _ above (advances statement (by simp) first)) ran

namespace Action.Respects

theorem pure (value : α) : Respects Grows (pure value : Action Db Err α) :=
  fun _ _ tracked => tracked

theorem throw (error : Err) : Respects Grows (throw error : Action Db Err α) :=
  fun _ _ tracked => tracked

theorem ofExcept (computed : Except Err α)
    : Respects Grows (Action.ofExcept computed : Action Db Err α) := by
  intro base session tracked
  rw [Action.ofExcept_run]
  cases computed <;> exact tracked

/-- Sequencing keeps the rule: the second action starts where the first one ended. -/
theorem bind {action : Action Db Err α} {next : α → Action Db Err β}
    (first : Respects Grows action) (second : ∀ value, Respects Grows (next value))
    : Respects Grows (action >>= next) := by
  intro base session tracked
  have middle := first base session tracked
  rw [EStateM.run_bind]
  cases ended : action.run session with
  | ok value stopped =>
      rw [ended] at middle
      exact second value base stopped middle
  | error error stopped =>
      rw [ended] at middle
      exact middle

theorem add {statement : Db → Except Err Db} (advances : Advances Grows statement)
    : Respects Grows (Action.add statement) := by
  intro base session tracked
  refine ⟨tracked.committed, tracked.view, ?_⟩
  intro active waiting member
  rcases List.mem_append.mp member with old | new
  · exact tracked.pending active waiting old
  · exact List.mem_singleton.mp new ▸ advances

theorem forM_add {statements : List (Db → Except Err Db)}
    (advances : ∀ statement ∈ statements, Advances Grows statement)
    : Respects Grows (forM statements Action.add) := by
  induction statements with
  | nil => exact pure ()
  | cons statement rest ih =>
      rw [List.forM_cons]
      exact (add (advances statement (by simp))).bind
        (fun _ => ih (fun later member => advances later (by simp [member])))

theorem rollback : Respects Grows (Action.rollback : Action Db Err Unit) :=
  fun _ _ tracked => Tracks.settled tracked.committed .active

/-- A request that keeps the rule commits only states above the one it started from. -/
theorem perform {action : Action Db Err α} (respects : Respects Grows action)
    (refl : ∀ db, Grows db db) (db : Db)
    : Grows db (action.perform db).2 :=
  (respects db (.opened db) (Tracks.settled (refl db) .active)).committed

/-- A request goes on above where its first part ended. -/
theorem follows {action : Action Db Err α} {next : α → Action Db Err β} {db middle : Db}
    {outcome : Except Err α} (first : action.Ends db outcome middle) (above : Grows db middle)
    (second : ∀ value, Respects Grows (next value))
    : Grows db ((action >>= next).perform db).2 := by
  unfold Action.perform
  rw [EStateM.run_bind]
  cases outcome with
  | ok value =>
      rw [show action.run (.opened db) = _ from first]
      exact (second value db (.opened middle) (Tracks.settled above .active)).committed
  | error error =>
      obtain ⟨stopped, raised, rfl⟩ := first
      rw [raised]
      exact above

variable [TransactionErrors Err]

theorem select (query : Db → Except Err α) : Respects Grows (Action.select query) := by
  intro base session tracked
  obtain ⟨committed, view, pending, status⟩ := session
  cases status with
  | active =>
      rw [Action.select_active]
      cases query view with
      | ok _ => exact tracked
      | error _ => exact Tracks.stopped tracked.committed nofun
  | aborted => exact tracked
  | inactive => exact tracked

/-- A statement sent at once moves the view up, or aborts the transaction. -/
theorem execute (trans : ∀ a b c, Grows a b → Grows b c → Grows a c)
    {statement : Db → Except Err Db} (advances : Advances Grows statement)
    : Respects Grows (Action.execute statement) := by
  intro base session tracked
  obtain ⟨committed, view, pending, status⟩ := session
  cases status with
  | active =>
      rw [Action.execute_active]
      cases ran : statement view with
      | ok _ =>
          have above := trans _ _ _ (tracked.view rfl) (advances ran)
          exact ⟨tracked.committed, fun _ => above, tracked.pending⟩
      | error _ => exact Tracks.stopped tracked.committed nofun
  | aborted => exact tracked
  | inactive => exact tracked

/-- A flush either reaches a view above the old one or gives the transaction up. -/
theorem flush (trans : ∀ a b c, Grows a b → Grows b c → Grows a c)
    : Respects Grows (Action.flush : Action Db Err Unit) := by
  intro base session tracked
  obtain ⟨committed, view, pending, status⟩ := session
  cases status with
  | active =>
      rw [Action.flush_active]
      cases ran : runAll pending view with
      | ok _ =>
          have above := runAll_grows trans (tracked.pending rfl) (tracked.view rfl) ran
          exact ⟨tracked.committed, fun _ => above, fun _ _ member => nomatch member⟩
      | error _ => exact Tracks.settled tracked.committed .inactive
  | aborted =>
      cases pending with
      | nil => exact tracked
      | cons _ _ => exact Tracks.settled tracked.committed .inactive
  | inactive => cases pending <;> exact tracked

/-- A commit either publishes a view above the old one or gives the transaction up. -/
theorem commit (trans : ∀ a b c, Grows a b → Grows b c → Grows a c)
    : Respects Grows (Action.commit : Action Db Err Unit) := by
  intro base session tracked
  obtain ⟨committed, view, pending, status⟩ := session
  cases status with
  | active =>
      rw [Action.commit_active]
      cases ran : runAll pending view with
      | ok _ =>
          exact Tracks.settled
            (runAll_grows trans (tracked.pending rfl) (tracked.view rfl) ran) .active
      | error _ => exact Tracks.settled tracked.committed .inactive
  | aborted =>
      cases pending with
      | nil => exact Tracks.settled tracked.committed .active
      | cons _ _ => exact Tracks.settled tracked.committed .inactive
  | inactive => exact tracked

end Action.Respects

end Tracking

end SpecterCloud.Foundations
