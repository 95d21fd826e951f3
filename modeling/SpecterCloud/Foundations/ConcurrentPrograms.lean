import SpecterCloud.Foundations.Runs
import SpecterCloud.Foundations.UnitOfWork
import Mathlib.Logic.Function.Basic

/-! Programs on a session that are known step by step, and how several of them run concurrently:
each reads what is committed by all with its own statements on top. Unlike a `Transaction`, a
program may commit several times, and its statements wait for the next flush.
-/

namespace SpecterCloud.Foundations

variable {Attempt Stmt Db Err α β : Type}

/-- A program on a session: what it does next, and how it goes on with what it reads. -/
inductive Program (Stmt Db Err α : Type)
  | done (value : α)
  | raise (error : Err)
  | select (fails : Db → Option Err) (next : Db → Program Stmt Db Err α)
  | add (statement : Stmt) (next : Program Stmt Db Err α)
  | flush (next : Program Stmt Db Err α)
  | commit (next : Program Stmt Db Err α)

namespace Program

/-- A program, and what follows the value that it returns. -/
def andThen (next : α → Program Stmt Db Err β)
    : Program Stmt Db Err α → Program Stmt Db Err β
  | done value => next value
  | raise error => .raise error
  | select fails first => .select fails fun db => (first db).andThen next
  | add statement first => .add statement (first.andThen next)
  | flush first => .flush (first.andThen next)
  | commit first => .commit (first.andThen next)

instance : Monad (Program Stmt Db Err) where
  pure := done
  bind program next := program.andThen next

/-- A query that answers or fails. -/
def query (query : Db → Except Err α) : Program Stmt Db Err α :=
  .select
    (fun db =>
      match query db with
      | .ok _ => none
      | .error error => some error)
    (fun db =>
      match query db with
      | .ok value => .done value
      | .error error => .raise error)

/-- A computation that does not touch the session. -/
def ofExcept : Except Err α → Program Stmt Db Err α
  | .ok value => .done value
  | .error error => .raise error

/-- Statements that wait for the next flush, in their order. -/
def addAll (statements : List Stmt) : Program Stmt Db Err Unit :=
  statements.foldr add (.done ())

/-- The program on a session of its own. -/
def action [TransactionErrors Err] (run : Stmt → Db → Except Err Db)
    : Program Stmt Db Err α → Action Db Err α
  | done value => pure value
  | raise error => throw error
  | select fails next => do
      let db ← Action.select (fun db => (fails db).elim (.ok db) .error)
      (next db).action run
  | add statement next => do
      Action.add (run statement)
      next.action run
  | flush next => do
      Action.flush
      next.action run
  | commit next => do
      Action.commit
      next.action run

section Actions

variable [TransactionErrors Err] (run : Stmt → Db → Except Err Db)

@[simp]
theorem action_pure (value : α)
    : (pure value : Program Stmt Db Err α).action run = pure value :=
  rfl

@[simp]
theorem action_done (value : α)
    : (done value : Program Stmt Db Err α).action run = pure value :=
  rfl

@[simp]
theorem action_raise (error : Err)
    : (raise error : Program Stmt Db Err α).action run = throw error :=
  rfl

/-- A sequence acts as its parts do, by induction on the first program. -/
@[simp]
theorem action_bind (program : Program Stmt Db Err α) (next : α → Program Stmt Db Err β)
    : (program >>= next).action run
      = program.action run >>= fun value => (next value).action run := by
  show (program.andThen next).action run = _
  induction program with
  | done value => rfl
  | raise error => rfl
  | select fails first ih =>
      simp only [andThen, action, bind_assoc]
      exact congrArg _ (funext ih)
  | add statement first ih => simp only [andThen, action, bind_assoc, ih]
  | flush first ih => simp only [andThen, action, bind_assoc, ih]
  | commit first ih => simp only [andThen, action, bind_assoc, ih]

@[simp]
theorem action_query (query : Db → Except Err α)
    : (Program.query query : Program Stmt Db Err α).action run = Action.select query := by
  funext session
  obtain ⟨committed, view, pending, status⟩ := session
  cases status with
  | aborted => rfl
  | inactive => rfl
  | active =>
      show ((Program.query query).action run).run _ = (Action.select query).run _
      rw [Program.query, action, EStateM.run_bind, Action.select_active, Action.select_active]
      cases answered : query view with
      | ok value => simp [answered]
      | error error => simp

@[simp]
theorem action_ofExcept (computed : Except Err α)
    : (ofExcept computed : Program Stmt Db Err α).action run = Action.ofExcept computed := by
  cases computed <;> rfl

@[simp]
theorem action_addAll (statements : List Stmt)
    : (addAll statements : Program Stmt Db Err Unit).action run
      = forM (statements.map run) Action.add := by
  induction statements with
  | nil => rfl
  | cons statement rest ih =>
      rw [List.map_cons, List.forM_cons, ← ih]
      rfl

end Actions

end Program

-----------------------------------------------------------------------------------------
-- Several programs on one database
-----------------------------------------------------------------------------------------

/-- How far a program has come: the statements of its open transaction, sent and waiting. -/
structure Stage (Stmt Db Err α : Type) where
  sent : List Stmt
  pending : List Stmt
  rest : Program Stmt Db Err α

/-- A program that is at its start, or right after a commit. -/
def Program.stage (rest : Program Stmt Db Err α) : Stage Stmt Db Err α := ⟨[], [], rest⟩

/-- A program that has raised; its open transaction is given up. -/
def Stage.raised (error : Err) : Stage Stmt Db Err α := ⟨[], [], .raise error⟩

/-- The statements of the open transaction. -/
def Stage.opened (stage : Stage Stmt Db Err α) : List Stmt := stage.sent ++ stage.pending

/-- The answer of a program that is over. -/
def Stage.outcome (stage : Stage Stmt Db Err α) : Option (Except Err α) :=
  match stage.rest with
  | .done value => some (.ok value)
  | .raise error => some (.error error)
  | _ => none

/-- What is committed, the transactions in the order of their commits, and all stages. -/
structure Backend (Attempt Stmt Db Err α : Type) where
  db : Db
  commits : List (Attempt × List Stmt)
  stages : Attempt → Stage Stmt Db Err α

/-- A backend on which no program has done anything yet. -/
def Backend.initial (db : Db) (programs : Attempt → Program Stmt Db Err α)
    : Backend Attempt Stmt Db Err α where
  db
  commits := []
  stages := fun i => (programs i).stage

section Steps

variable (run : Stmt → Db → Except Err Db)

/-- The statements on top of a database; one that is refused there does nothing. -/
def replay (statements : List Stmt) (db : Db) : Db :=
  statements.foldl (fun view statement => (run statement view).toOption.getD view) db

/-- A statement that waits is sent. -/
def Stage.send (view : Db) (stage : Stage Stmt Db Err α) (statement : Stmt) (more : List Stmt)
    : Stage Stmt Db Err α :=
  match run statement view with
  | .ok _ => { stage with sent := stage.sent ++ [statement], pending := more }
  | .error error => .raised error

variable [DecidableEq Attempt]

def Backend.moved (backend : Backend Attempt Stmt Db Err α) (i : Attempt)
    (stage : Stage Stmt Db Err α)
    : Backend Attempt Stmt Db Err α :=
  { backend with stages := Function.update backend.stages i stage }

/-- The transaction of a program is committed on top of what is committed then. -/
def Backend.committing (backend : Backend Attempt Stmt Db Err α) (i : Attempt)
    (sent : List Stmt) (next : Program Stmt Db Err α)
    : Backend Attempt Stmt Db Err α where
  db := replay run sent backend.db
  commits := backend.commits ++ [(i, sent)]
  stages := Function.update backend.stages i next.stage

/-- The next step of a program, unless it is over. No lock makes it wait: the steps that a server
with locks allows are among these.
-/
def Backend.advance (backend : Backend Attempt Stmt Db Err α) (i : Attempt)
    : Option (Backend Attempt Stmt Db Err α) :=
  let stage := backend.stages i
  let view := replay run stage.sent backend.db
  match stage.rest, stage.pending with
  | .done _, _ => none
  | .raise _, _ => none
  | .select fails next, _ =>
      match fails view with
      | some error => some (backend.moved i (.raised error))
      | none => some (backend.moved i { stage with rest := next view })
  | .add statement next, pending =>
      some (backend.moved i { stage with pending := pending ++ [statement], rest := next })
  | .flush _, statement :: more => some (backend.moved i (stage.send run view statement more))
  | .commit _, statement :: more => some (backend.moved i (stage.send run view statement more))
  | .flush next, [] => some (backend.moved i { stage with rest := next })
  | .commit next, [] => some (backend.committing run i stage.sent next)

/-- The steps of an interleaving. -/
def Backend.stepping (_ : List Attempt) (backend : Backend Attempt Stmt Db Err α) (i : Attempt)
    (after : Backend Attempt Stmt Db Err α)
    : Prop :=
  backend.advance run i = some after

/-- Any interleaving of the steps of programs. The history has the latest step first. -/
def Interleaved (programs : Attempt → Program Stmt Db Err α) (db : Db)
    (history : List Attempt) (backend : Backend Attempt Stmt Db Err α)
    : Prop :=
  Runs (Backend.stepping run) (.initial db programs) history backend

/-- The backend after a schedule, which has the latest step first. -/
def Backend.play (start : Backend Attempt Stmt Db Err α)
    : List Attempt → Option (Backend Attempt Stmt Db Err α)
  | [] => some start
  | i :: earlier => (Backend.play start earlier).bind fun backend => backend.advance run i

/-- The program is about to send what waits. -/
def Program.Flushes : Program Stmt Db Err α → Prop
  | flush _ => True
  | commit _ => True
  | _ => False

/-- Everything that a step but a commit can do, on what the program reads. -/
inductive Stage.Moves (view : Db) : Stage Stmt Db Err α → Stage Stmt Db Err α → Prop
  | selected {sent pending : List Stmt} {fails : Db → Option Err}
      {next : Db → Program Stmt Db Err α} (answers : fails view = none)
      : Stage.Moves view ⟨sent, pending, .select fails next⟩ ⟨sent, pending, next view⟩
  | failed {sent pending : List Stmt} {fails : Db → Option Err}
      {next : Db → Program Stmt Db Err α} {error : Err} (fails_ : fails view = some error)
      : Stage.Moves view ⟨sent, pending, .select fails next⟩ (.raised error)
  | added {sent pending : List Stmt} {statement : Stmt} {next : Program Stmt Db Err α}
      : Stage.Moves view ⟨sent, pending, .add statement next⟩
          ⟨sent, pending ++ [statement], next⟩
  | flushed {sent : List Stmt} {next : Program Stmt Db Err α}
      : Stage.Moves view ⟨sent, [], .flush next⟩ ⟨sent, [], next⟩
  | sent {sent more : List Stmt} {statement : Stmt} {rest : Program Stmt Db Err α} {next : Db}
      (flushes : rest.Flushes) (ran : run statement view = .ok next)
      : Stage.Moves view ⟨sent, statement :: more, rest⟩ ⟨sent ++ [statement], more, rest⟩
  | refused {sent more : List Stmt} {statement : Stmt} {rest : Program Stmt Db Err α}
      {error : Err} (flushes : rest.Flushes) (ran : run statement view = .error error)
      : Stage.Moves view ⟨sent, statement :: more, rest⟩ (.raised error)

/-- Everything that a step can do. -/
inductive Backend.Moves (backend : Backend Attempt Stmt Db Err α) (i : Attempt)
    : Backend Attempt Stmt Db Err α → Prop
  | stage {after : Stage Stmt Db Err α}
      (moves
        : Stage.Moves run (replay run (backend.stages i).sent backend.db) (backend.stages i)
            after)
      : Backend.Moves backend i (backend.moved i after)
  | commit {sent : List Stmt} {next : Program Stmt Db Err α}
      (reached : backend.stages i = ⟨sent, [], .commit next⟩)
      : Backend.Moves backend i (backend.committing run i sent next)

variable {run} {backend after : Backend Attempt Stmt Db Err α} {i : Attempt}

/-- What a played schedule is found to end in is reached by its steps, by induction on it. -/
theorem Backend.play_finds {start : Backend Attempt Stmt Db Err α} {schedule : List Attempt}
    {check : Backend Attempt Stmt Db Err α → Bool}
    (found : (start.play run schedule).any check = true)
    : ∃ backend, Runs (Backend.stepping run) start schedule backend ∧ check backend = true := by
  obtain ⟨backend, played, checked⟩ := (Option.any_eq_true _ _).mp found
  refine ⟨backend, ?_, checked⟩
  clear found checked
  induction schedule generalizing backend with
  | nil =>
      cases played
      exact .start
  | cons i earlier ih =>
      obtain ⟨before, ran, advanced⟩ := Option.bind_eq_some_iff.mp played
      exact .next (ih before ran) advanced

/-- Sending a statement is one of the moves. -/
theorem Stage.send_moves {view : Db} {sent more : List Stmt} {statement : Stmt}
    {rest : Program Stmt Db Err α} (flushes : rest.Flushes)
    : Stage.Moves run view ⟨sent, statement :: more, rest⟩
        (Stage.send run view ⟨sent, statement :: more, rest⟩ statement more) := by
  unfold Stage.send
  split
  · rename_i ran
    exact .sent flushes ran
  · rename_i ran
    exact .refused flushes ran

/-- A step is one of the listed moves, by what its program does next. -/
theorem Backend.advance_moves (advanced : backend.advance run i = some after)
    : backend.Moves run i after := by
  unfold Backend.advance at advanced
  generalize reached : backend.stages i = stage at advanced
  obtain ⟨sent, pending, rest⟩ := stage
  have moved {stage : Stage Stmt Db Err α}
      (moves
        : Stage.Moves run (replay run sent backend.db) ⟨sent, pending, rest⟩ stage)
      : backend.Moves run i (backend.moved i stage) := by
    refine .stage ?_
    rw [reached]
    exact moves
  cases rest with
  | done value => cases advanced
  | raise error => cases advanced
  | select fails next =>
      dsimp only at advanced
      split at advanced
      · rename_i fails_
        cases advanced
        exact moved (.failed fails_)
      · rename_i answers
        cases advanced
        exact moved (.selected answers)
  | add statement next =>
      cases advanced
      exact moved .added
  | flush next =>
      cases pending with
      | nil =>
          cases advanced
          exact moved .flushed
      | cons statement more =>
          cases advanced
          exact moved (Stage.send_moves trivial)
  | commit next =>
      cases pending with
      | nil =>
          cases advanced
          exact .commit reached
      | cons statement more =>
          cases advanced
          exact moved (Stage.send_moves trivial)

/-- The transactions of a program that are committed, one after another. -/
def Backend.committed (backend : Backend Attempt Stmt Db Err α) (i : Attempt) : List Stmt :=
  (backend.commits.filter (fun entry => entry.1 = i)).flatMap Prod.snd

end Steps

-----------------------------------------------------------------------------------------
-- What a program sends and how it ends
-----------------------------------------------------------------------------------------

section Ensures

variable (run : Stmt → Db → Except Err Db) (allowed : List Stmt → Stmt → Prop)

/-- Whatever it reads: a statement is allowed after those of its open transaction, a value fits
what is committed and what is open when it is returned, and an error fits what is committed when
it is raised.
-/
def Program.Ensures (returns : List Stmt → List Stmt → α → Prop)
    (raises : List Stmt → Err → Prop)
    : List Stmt → List Stmt → Program Stmt Db Err α → Prop
  | committed, opened, .done value => returns committed opened value
  | committed, _, .raise error => raises committed error
  | committed, opened, .select fails next =>
      ∀ db,
        (∀ error, fails db = some error → raises committed error)
        ∧ (fails db = none → (next db).Ensures returns raises committed opened)
  | committed, opened, .add statement next =>
      allowed opened statement ∧ next.Ensures returns raises committed (opened ++ [statement])
  | committed, opened, .flush next =>
      (∀ statement ∈ opened, ∀ db error, run statement db = .error error
        → raises committed error)
      ∧ next.Ensures returns raises committed opened
  | committed, opened, .commit next =>
      (∀ statement ∈ opened, ∀ db error, run statement db = .error error
        → raises committed error)
      ∧ next.Ensures returns raises (committed ++ opened) []

variable {run allowed} {returns : List Stmt → List Stmt → α → Prop}
  {raises : List Stmt → Err → Prop}

/-- The rule of sequences, by induction on the first program. -/
theorem Program.Ensures.bind {first : Program Stmt Db Err β} {next : β → Program Stmt Db Err α}
    {committed opened : List Stmt}
    (ensures
      : first.Ensures run allowed
          (fun committed opened value =>
            (next value).Ensures run allowed returns raises committed opened)
          raises committed opened)
    : (first >>= next).Ensures run allowed returns raises committed opened := by
  show (first.andThen next).Ensures run allowed returns raises committed opened
  induction first generalizing committed opened with
  | done value => exact ensures
  | raise error => exact ensures
  | select fails first ih =>
      exact fun db => ⟨(ensures db).1, fun answers => ih db ((ensures db).2 answers)⟩
  | add statement first ih => exact ⟨ensures.1, ih ensures.2⟩
  | flush first ih => exact ⟨ensures.1, ih ensures.2⟩
  | commit first ih => exact ⟨ensures.1, ih ensures.2⟩

/-- The rule of consequence, by induction on the program. -/
theorem Program.Ensures.imp {returnsToo : List Stmt → List Stmt → α → Prop}
    {raisesToo : List Stmt → Err → Prop} {program : Program Stmt Db Err α}
    (returned
      : ∀ committed opened value, returns committed opened value
          → returnsToo committed opened value)
    (raised : ∀ committed error, raises committed error → raisesToo committed error)
    {committed opened : List Stmt}
    (ensures : program.Ensures run allowed returns raises committed opened)
    : program.Ensures run allowed returnsToo raisesToo committed opened := by
  induction program generalizing committed opened with
  | done value => exact returned _ _ _ ensures
  | raise error => exact raised _ _ ensures
  | select fails next ih =>
      exact fun db =>
        ⟨fun error fails_ => raised _ _ ((ensures db).1 error fails_),
          fun answers => ih db ((ensures db).2 answers)⟩
  | add statement next ih => exact ⟨ensures.1, ih ensures.2⟩
  | flush next ih =>
      exact ⟨fun statement member db error ran =>
        raised _ _ (ensures.1 statement member db error ran), ih ensures.2⟩
  | commit next ih =>
      exact ⟨fun statement member db error ran =>
        raised _ _ (ensures.1 statement member db error ran), ih ensures.2⟩

/-- A query ensures what follows each of its answers. -/
theorem Program.Ensures.query {query : Db → Except Err α} {committed opened : List Stmt}
    (answers : ∀ db value, query db = .ok value → returns committed opened value)
    (fails : ∀ db error, query db = .error error → raises committed error)
    : (Program.query query : Program Stmt Db Err α).Ensures run allowed returns raises committed
        opened := by
  intro db
  cases answered : query db with
  | ok value => simpa [answered, Ensures] using answers db value answered
  | error error => simpa [answered, Ensures] using fails db error answered

theorem Program.Ensures.ofExcept {computed : Except Err α} {committed opened : List Stmt}
    (answers : ∀ value, computed = .ok value → returns committed opened value)
    (fails : ∀ error, computed = .error error → raises committed error)
    : (Program.ofExcept computed : Program Stmt Db Err α).Ensures run allowed returns raises
        committed opened := by
  cases computed with
  | ok value => exact answers value rfl
  | error error => exact fails error rfl

/-- Statements that are allowed one after another. -/
def AllowedAfter (allowed : List Stmt → Stmt → Prop) (opened statements : List Stmt) : Prop :=
  ∀ earlier statement later, statements = earlier ++ statement :: later
    → allowed (opened ++ earlier) statement

end Ensures

end SpecterCloud.Foundations
