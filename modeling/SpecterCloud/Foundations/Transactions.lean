import SpecterCloud.Foundations.UnitOfWork
import SpecterCloud.Foundations.Runs
import Mathlib.Data.Fintype.Defs
import Mathlib.Data.List.Basic
import Mathlib.Logic.Function.Basic

/-! Transactions that interleave under READ COMMITTED. A query and a statement see what is
committed when they run, with what their own transaction has written on top; a statement waits
while another transaction holds a conflicting lock, and locks are held to the end of the
transaction.
-/

namespace SpecterCloud.Foundations

variable {Attempt Db Key Err α β : Type}

/-- A lock on a row or on an entry of a unique index. A referenced row is locked as shared. -/
structure Lock (Key : Type) where
  key : Key
  exclusive : Bool
deriving DecidableEq

def Lock.conflicts [DecidableEq Key] (left right : Lock Key) : Bool :=
  left.key = right.key && (left.exclusive || right.exclusive)

/-- An INSERT or an UPDATE with the locks that it takes. -/
structure Statement (Db Key Err : Type) where
  locks : List (Lock Key)
  run : Db → Except Err Db

/-- What a transaction still does: queries, statements, and a commit or an end without one. -/
inductive Transaction (Db Key Err α : Type)
  | select (next : Db → Transaction Db Key Err α)
  | execute (statement : Statement Db Key Err) (next : Transaction Db Key Err α)
  | commit (value : α)
  | leave (outcome : Except Err α)

namespace Transaction

/-- The transaction with its answer rewritten. -/
def map (f : α → β) : Transaction Db Key Err α → Transaction Db Key Err β
  | select next => .select fun db => (next db).map f
  | execute statement next => .execute statement (next.map f)
  | commit value => .commit (f value)
  | leave outcome => .leave (outcome.map f)

/-- Several statements, one after another. -/
def executeAll (statements : List (Statement Db Key Err)) (next : Transaction Db Key Err α)
    : Transaction Db Key Err α :=
  statements.foldr execute next

end Transaction

/-- A database with the writes of the statements on top; a write that is refused is none. -/
def overlay (sent : List (Statement Db Key Err)) (db : Db) : Db :=
  sent.foldl (fun view statement => (statement.run view).toOption.getD view) db

/-- How far a transaction has come, with the statements that it has sent. -/
inductive Progress (Db Key Err α : Type)
  | running (sent : List (Statement Db Key Err)) (rest : Transaction Db Key Err α)
  | committed (sent : List (Statement Db Key Err)) (value : α)
  | ended (outcome : Except Err α)

/-- The locks that are held. -/
def Progress.held : Progress Db Key Err α → List (Lock Key)
  | running sent _ => sent.flatMap Statement.locks
  | _ => []

/-- The answer of a transaction that is over. -/
def Progress.outcome : Progress Db Key Err α → Option (Except Err α)
  | running _ _ => none
  | committed _ value => some (.ok value)
  | ended outcome => some outcome

/-- What is committed, and the progress of each transaction. -/
structure Server (Attempt Db Key Err α : Type) where
  db : Db
  progress : Attempt → Progress Db Key Err α

/-- A server on which no transaction has done anything yet. -/
def Server.initial (db : Db) (programs : Attempt → Transaction Db Key Err α)
    : Server Attempt Db Key Err α where
  db
  progress := fun i => .running [] (programs i)

section Steps

variable [DecidableEq Attempt]

def Server.moved (server : Server Attempt Db Key Err α) (i : Attempt)
    (progress : Progress Db Key Err α)
    : Server Attempt Db Key Err α :=
  { server with progress := Function.update server.progress i progress }

/-- The next step of a transaction, if it has one and need not wait. -/
def Server.advance [Fintype Attempt] [DecidableEq Key] (server : Server Attempt Db Key Err α)
    (i : Attempt)
    : Option (Server Attempt Db Key Err α) :=
  match server.progress i with
  | .running sent (.select next) =>
      some (server.moved i (.running sent (next (overlay sent server.db))))
  | .running sent (.execute statement next) =>
      if ∃ j, j ≠ i ∧ ∃ lock ∈ statement.locks, ∃ other ∈ (server.progress j).held,
          lock.conflicts other then
        -- the statement waits for the lock
        none
      else
        match statement.run (overlay sent server.db) with
        | .ok _ => some (server.moved i (.running (sent ++ [statement]) next))
        | .error error => some (server.moved i (.ended (.error error)))
  | .running sent (.commit value) =>
      some { server.moved i (.committed sent value) with db := overlay sent server.db }
  | .running _ (.leave outcome) => some (server.moved i (.ended outcome))
  | .committed _ _ => none
  | .ended _ => none

/-- The steps that `guard` lets happen. -/
def Server.stepping [Fintype Attempt] [DecidableEq Key]
    (guard : Server Attempt Db Key Err α → Attempt → Prop) (_ : List Attempt)
    (server : Server Attempt Db Key Err α) (i : Attempt) (after : Server Attempt Db Key Err α)
    : Prop :=
  server.advance i = some after ∧ guard server i

/-- Every step may happen. -/
def Server.unguarded (_ : Server Attempt Db Key Err α) (_ : Attempt) : Prop := True

/-- Interleavings of transactions all of whose steps meet `guard`. -/
def Interleavings [Fintype Attempt] [DecidableEq Key]
    (guard : Server Attempt Db Key Err α → Attempt → Prop)
    (programs : Attempt → Transaction Db Key Err α) (db : Db)
    (history : List Attempt) (server : Server Attempt Db Key Err α)
    : Prop :=
  Runs (Server.stepping guard) (Server.initial db programs) history server

/-- The server after a schedule of allowed steps, which has the latest step first. -/
def Server.play [Fintype Attempt] [DecidableEq Key]
    (allowed : Server Attempt Db Key Err α → Attempt → Bool)
    (start : Server Attempt Db Key Err α)
    : List Attempt → Option (Server Attempt Db Key Err α)
  | [] => some start
  | i :: earlier =>
      (Server.play allowed start earlier).bind
        (fun server => if allowed server i then server.advance i else none)

/-- The server of a schedule is reached by its steps, by induction on the schedule. -/
theorem Server.play_runs [Fintype Attempt] [DecidableEq Key]
    {allowed : Server Attempt Db Key Err α → Attempt → Bool}
    {guard : Server Attempt Db Key Err α → Attempt → Prop}
    (sound : ∀ server i, allowed server i = true → guard server i)
    {start server : Server Attempt Db Key Err α} {schedule : List Attempt}
    (played : Server.play allowed start schedule = some server)
    : Runs (Server.stepping guard) start schedule server := by
  induction schedule generalizing server with
  | nil =>
      cases played
      exact .start
  | cons i earlier ih =>
      obtain ⟨before, ran, advanced⟩ := Option.bind_eq_some_iff.mp played
      obtain ⟨allows, advanced⟩ := Option.ite_none_right_eq_some.mp advanced
      exact .next (ih ran) ⟨advanced, sound before i allows⟩

/-- What a played schedule is found to end in is reached by its steps. -/
theorem Server.play_finds [Fintype Attempt] [DecidableEq Key]
    {allowed : Server Attempt Db Key Err α → Attempt → Bool}
    {guard : Server Attempt Db Key Err α → Attempt → Prop}
    (sound : ∀ server i, allowed server i = true → guard server i)
    {start : Server Attempt Db Key Err α} {schedule : List Attempt}
    {check : Server Attempt Db Key Err α → Bool}
    (found : (Server.play allowed start schedule).any check = true)
    : ∃ server, Runs (Server.stepping guard) start schedule server ∧ check server = true := by
  obtain ⟨server, played, checked⟩ := (Option.any_eq_true _ _).mp found
  exact ⟨server, Server.play_runs sound played, checked⟩

/-- Interleavings go on. -/
theorem Interleavings.append [Fintype Attempt] [DecidableEq Key]
    {guard : Server Attempt Db Key Err α → Attempt → Prop}
    {programs : Attempt → Transaction Db Key Err α} {db : Db} {history later : List Attempt}
    {middle server : Server Attempt Db Key Err α}
    (ran : Interleavings guard programs db history middle)
    (goesOn : Runs (Server.stepping guard) middle later server)
    : Interleavings guard programs db (later ++ history) server := by
  induction goesOn with
  | start => exact ran
  | next _ stepped ih => exact .next ih stepped

-----------------------------------------------------------------------------------------
-- What a step does
-----------------------------------------------------------------------------------------

variable {server after : Server Attempt Db Key Err α} {i : Attempt}

/-- Everything that a step can do. -/
inductive Server.Moves [DecidableEq Key] (server : Server Attempt Db Key Err α) (i : Attempt)
    : Server Attempt Db Key Err α → Prop
  | select {sent : List (Statement Db Key Err)} {next : Db → Transaction Db Key Err α}
      (reached : server.progress i = .running sent (.select next))
      : Server.Moves server i (server.moved i (.running sent (next (overlay sent server.db))))
  | execute {sent : List (Statement Db Key Err)} {statement : Statement Db Key Err}
      {next : Transaction Db Key Err α} {view : Db}
      (reached : server.progress i = .running sent (.execute statement next))
      (free
        : ∀ j, j ≠ i → ∀ lock ∈ statement.locks, ∀ other ∈ (server.progress j).held,
            lock.conflicts other = false)
      (ran : statement.run (overlay sent server.db) = .ok view)
      : Server.Moves server i (server.moved i (.running (sent ++ [statement]) next))
  | refuse {sent : List (Statement Db Key Err)} {statement : Statement Db Key Err}
      {next : Transaction Db Key Err α} {error : Err}
      (reached : server.progress i = .running sent (.execute statement next))
      (ran : statement.run (overlay sent server.db) = .error error)
      : Server.Moves server i (server.moved i (.ended (.error error)))
  | commit {sent : List (Statement Db Key Err)} {value : α}
      (reached : server.progress i = .running sent (.commit value))
      : Server.Moves server i
          { server.moved i (.committed sent value) with db := overlay sent server.db }
  | leave {sent : List (Statement Db Key Err)} {outcome : Except Err α}
      (reached : server.progress i = .running sent (.leave outcome))
      : Server.Moves server i (server.moved i (.ended outcome))

@[simp]
theorem Server.moved_db (server : Server Attempt Db Key Err α) (i : Attempt)
    (progress : Progress Db Key Err α)
    : (server.moved i progress).db = server.db :=
  rfl

@[simp]
theorem Server.moved_progress (server : Server Attempt Db Key Err α) (i j : Attempt)
    (progress : Progress Db Key Err α)
    : (server.moved i progress).progress j = if j = i then progress else server.progress j := by
  simp [Server.moved, Function.update_apply]

theorem Server.moved_self (server : Server Attempt Db Key Err α) (i : Attempt)
    (progress : Progress Db Key Err α)
    : (server.moved i progress).progress i = progress :=
  (server.moved_progress i i progress).trans (if_pos rfl)

/-- A step is one of the listed moves, by what its transaction does next. -/
theorem Server.advance_moves [Fintype Attempt] [DecidableEq Key]
    (advanced : server.advance i = some after)
    : server.Moves i after := by
  unfold Server.advance at advanced
  split at advanced
  · rename_i reached
    exact Option.some.inj advanced ▸ .select reached
  · rename_i sent statement next reached
    split at advanced
    · cases advanced
    rename_i unlocked
    have free
        : ∀ j, j ≠ i → ∀ lock ∈ statement.locks, ∀ other ∈ (server.progress j).held,
            lock.conflicts other = false := by
      intro j apart lock taken other held
      by_contra conflict
      exact unlocked ⟨j, apart, lock, taken, other, held, by simpa using conflict⟩
    split at advanced
    · rename_i ran
      exact Option.some.inj advanced ▸ .execute reached free ran
    · rename_i ran
      exact Option.some.inj advanced ▸ .refuse reached ran
  · rename_i reached
    exact Option.some.inj advanced ▸ .commit reached
  · rename_i reached
    exact Option.some.inj advanced ▸ .leave reached
  · cases advanced
  · cases advanced

/-- Only a transaction in flight moves. -/
theorem Server.Moves.running [DecidableEq Key] (moves : server.Moves i after)
    : ∃ sent rest, server.progress i = .running sent rest := by
  cases moves with
  | select reached | commit reached | leave reached => exact ⟨_, _, reached⟩
  | execute reached _ _ => exact ⟨_, _, reached⟩
  | refuse reached _ => exact ⟨_, _, reached⟩

/-- A transaction that queries goes on with what it sees. -/
theorem Server.Moves.selected [DecidableEq Key] (moves : server.Moves i after)
    {sent : List (Statement Db Key Err)} {next : Db → Transaction Db Key Err α}
    (reached : server.progress i = .running sent (.select next))
    : after.progress i = .running sent (next (overlay sent server.db)) := by
  cases moves with
  | select other =>
      cases reached.symm.trans other
      exact Server.moved_self ..
  | execute other _ _ | refuse other _ | commit other | leave other =>
      cases reached.symm.trans other

/-- A transaction that leaves ends with its outcome. -/
theorem Server.Moves.left [DecidableEq Key] (moves : server.Moves i after)
    {sent : List (Statement Db Key Err)} {outcome : Except Err α}
    (reached : server.progress i = .running sent (.leave outcome))
    : after.progress i = .ended outcome := by
  cases moves with
  | leave other =>
      cases reached.symm.trans other
      exact Server.moved_self ..
  | select other | execute other _ _ | refuse other _ | commit other =>
      cases reached.symm.trans other

/-- The other transactions stay where they are. -/
theorem Server.Moves.others [DecidableEq Key] (moves : server.Moves i after) {j : Attempt}
    (apart : j ≠ i)
    : after.progress j = server.progress j := by
  cases moves <;> exact (Server.moved_progress _ _ _ _).trans (if_neg apart)

/-- What the transaction that moves keeps of its own progress is kept of everyone's. -/
theorem Server.Moves.each [DecidableEq Key] (moves : server.Moves i after)
    {kept : Progress Db Key Err α → Prop}
    (own : kept (server.progress i) → kept (after.progress i))
    (before : ∀ j, kept (server.progress j)) (j : Attempt)
    : kept (after.progress j) := by
  by_cases same : j = i
  · subst same
    exact own (before j)
  · rw [moves.others same]
    exact before j

/-- What holds of the programs at their start and is kept by every move of its own transaction
holds of all transactions in every state reached.
-/
theorem Interleavings.each [Fintype Attempt] [DecidableEq Key]
    {kept : Progress Db Key Err α → Prop} {guard : Server Attempt Db Key Err α → Attempt → Prop}
    {programs : Attempt → Transaction Db Key Err α} {db : Db} {history : List Attempt}
    (starts : ∀ i, kept (.running [] (programs i)))
    (own
      : ∀ {server after : Server Attempt Db Key Err α} {i : Attempt},
          server.Moves i after → kept (server.progress i) → kept (after.progress i))
    (ran : Interleavings guard programs db history server)
    : ∀ i, kept (server.progress i) := by
  refine Runs.invariant (fun _ server => ∀ i, kept (server.progress i)) starts ?_ ran
  intro history server i after _ before stepped
  have moves := Server.advance_moves stepped.1
  exact moves.each (own moves) before

/-- A transaction without a step in the history is still at its start. -/
theorem Interleavings.unstarted [Fintype Attempt] [DecidableEq Key]
    {guard : Server Attempt Db Key Err α → Attempt → Prop}
    {programs : Attempt → Transaction Db Key Err α} {db : Db} {history : List Attempt}
    (ran : Interleavings guard programs db history server) (absent : i ∉ history)
    : server.progress i = .running [] (programs i) := by
  refine Runs.invariant
    (fun history server => i ∉ history → server.progress i = .running [] (programs i))
    (fun _ => rfl) ?_ ran absent
  intro history server j after _ before stepped absent
  obtain ⟨apart, absent⟩ := not_or.mp (fun either => absent (List.mem_cons.mpr either))
  rw [(Server.advance_moves stepped.1).others apart]
  exact before absent

-----------------------------------------------------------------------------------------
-- Locks
-----------------------------------------------------------------------------------------

/-- No two transactions hold conflicting locks. -/
def Server.Exclusive [DecidableEq Key] (server : Server Attempt Db Key Err α) : Prop :=
  ∀ i j, i ≠ j → ∀ lock ∈ (server.progress i).held, ∀ other ∈ (server.progress j).held,
    lock.conflicts other = false

theorem Lock.conflicts_comm [DecidableEq Key] (left right : Lock Key)
    : left.conflicts right = right.conflicts left := by
  unfold Lock.conflicts
  rw [Bool.or_comm left.exclusive]
  congr 1
  exact decide_eq_decide.mpr eq_comm

/-- A transaction that takes only free locks leaves the locks exclusive. -/
theorem Server.Exclusive.moved [DecidableEq Key] (exclusive : server.Exclusive)
    {progress : Progress Db Key Err α}
    (free
      : ∀ j, j ≠ i → ∀ lock ∈ progress.held, ∀ other ∈ (server.progress j).held,
          lock.conflicts other = false)
    : (server.moved i progress).Exclusive := by
  intro j k apart lock held other heldOther
  rw [moved_progress] at held heldOther
  by_cases first : j = i
  · subst first
    rw [if_pos rfl] at held
    rw [if_neg apart.symm] at heldOther
    exact free k apart.symm lock held other heldOther
  · rw [if_neg first] at held
    by_cases second : k = i
    · subst second
      rw [if_pos rfl] at heldOther
      rw [Lock.conflicts_comm]
      exact free j first other heldOther lock held
    · rw [if_neg second] at heldOther
      exact exclusive j k apart lock held other heldOther

/-- Every move keeps the locks exclusive. -/
theorem Server.Exclusive.step [DecidableEq Key] (exclusive : server.Exclusive)
    (moves : server.Moves i after)
    : after.Exclusive := by
  cases moves with
  | select reached =>
      refine exclusive.moved fun j apart lock held other heldOther => ?_
      have before : lock ∈ (server.progress i).held := by rwa [reached]
      exact exclusive i j apart.symm lock before other heldOther
  | execute reached free ran =>
      refine exclusive.moved fun j apart lock held other heldOther => ?_
      simp only [Progress.held, List.flatMap_append, List.flatMap_singleton,
        List.mem_append] at held
      rcases held with old | new
      · exact exclusive i j apart.symm lock (by rwa [reached]) other heldOther
      · exact free j apart lock new other heldOther
  | refuse reached ran => exact exclusive.moved fun _ _ _ held => nomatch held
  | @commit sent value reached =>
      have released : (server.moved i (.committed sent value)).Exclusive :=
        exclusive.moved fun _ _ _ held => nomatch held
      exact released
  | leave reached => exact exclusive.moved fun _ _ _ held => nomatch held

end Steps

-----------------------------------------------------------------------------------------
-- Transactions of certain statements only
-----------------------------------------------------------------------------------------

section Only

variable {allowed : Statement Db Key Err → Prop}

/-- Whatever it reads, the transaction sends only allowed statements. -/
def Transaction.Only (allowed : Statement Db Key Err → Prop)
    : Transaction Db Key Err α → Prop
  | select next => ∀ db, (next db).Only allowed
  | execute statement next => allowed statement ∧ next.Only allowed
  | commit _ => True
  | leave _ => True

/-- Rewriting the answer sends nothing else, by induction on the transaction. -/
theorem Transaction.Only.map {transaction : Transaction Db Key Err α}
    (only : transaction.Only allowed) (f : α → β)
    : (transaction.map f).Only allowed := by
  induction transaction with
  | select next ih => exact fun db => ih db (only db)
  | execute statement next ih => exact ⟨only.1, ih only.2⟩
  | commit value => trivial
  | leave outcome => trivial

theorem Transaction.only_executeAll {statements : List (Statement Db Key Err)}
    {next : Transaction Db Key Err α} (allowed_ : ∀ statement ∈ statements, allowed statement)
    (only : next.Only allowed)
    : (executeAll statements next).Only allowed := by
  induction statements with
  | nil => exact only
  | cons statement rest ih =>
      exact ⟨allowed_ statement (.head _), ih fun other member => allowed_ other (.tail _ member)⟩

/-- What was sent is allowed, and so is what is still sent. -/
def Progress.Only (allowed : Statement Db Key Err → Prop) : Progress Db Key Err α → Prop
  | running sent rest => (∀ statement ∈ sent, allowed statement) ∧ rest.Only allowed
  | committed sent _ => ∀ statement ∈ sent, allowed statement
  | ended _ => True

/-- Every move keeps to the allowed statements. -/
theorem Server.Moves.only [DecidableEq Attempt] [DecidableEq Key]
    {server after : Server Attempt Db Key Err α} {i : Attempt} (moves : server.Moves i after)
    (before : (server.progress i).Only allowed)
    : (after.progress i).Only allowed := by
  cases moves with
  | select reached =>
      rw [reached] at before
      simpa using ⟨before.1, before.2 _⟩
  | execute reached free ran =>
      rw [reached] at before
      obtain ⟨sent, new, rest⟩ := before
      rw [Server.moved_self]
      refine ⟨fun statement member => ?_, rest⟩
      rcases List.mem_append.mp member with old | last
      · exact sent statement old
      · exact List.mem_singleton.mp last ▸ new
  | refuse reached ran => simp [Progress.Only]
  | commit reached =>
      rw [reached] at before
      simpa [Progress.Only] using before.1
  | leave reached => simp [Progress.Only]

/-- Transactions send only what their programs send. -/
theorem Interleavings.only [Fintype Attempt] [DecidableEq Attempt] [DecidableEq Key]
    {guard : Server Attempt Db Key Err α → Attempt → Prop}
    {programs : Attempt → Transaction Db Key Err α} {db : Db} {history : List Attempt}
    {server : Server Attempt Db Key Err α} (only : ∀ i, (programs i).Only allowed)
    (ran : Interleavings guard programs db history server)
    : ∀ i, (server.progress i).Only allowed :=
  ran.each (fun i => ⟨List.forall_mem_nil _, only i⟩) Server.Moves.only

variable {Grows : Db → Db → Prop}

/-- Allowed statements that advance lead above, by induction on the statements. -/
theorem overlay_grows (refl : ∀ db, Grows db db) (trans : ∀ a b c, Grows a b → Grows b c → Grows a c)
    {sent : List (Statement Db Key Err)}
    (advances : ∀ statement ∈ sent, Advances Grows statement.run) (db : Db)
    : Grows db (overlay sent db) := by
  induction sent generalizing db with
  | nil => exact refl db
  | cons statement rest ih =>
      have later := ih (fun other member => advances other (.tail _ member))
      rw [overlay, List.foldl_cons]
      cases ran : statement.run db with
      | ok next => exact trans _ _ _ (advances statement (.head _) ran) (later next)
      | error error => exact later db

/-- What allowed statements keep holds after them if it held before. -/
theorem overlay_keeps {holds : Db → Prop} {sent : List (Statement Db Key Err)}
    (keeps
      : ∀ statement ∈ sent, ∀ db next, statement.run db = .ok next → holds db → holds next)
    {db : Db} (before : holds db)
    : holds (overlay sent db) := by
  let Kept (before after : Db) : Prop := holds before → holds after
  have refl : ∀ db, Kept db db := fun _ => id
  have trans : ∀ a b c, Kept a b → Kept b c → Kept a c :=
    fun _ _ _ first second => second ∘ first
  exact overlay_grows refl trans (fun statement member _ _ => keeps statement member _ _) db before

/-- While all statements advance, what is committed is above what was committed before. -/
theorem Server.grows [Fintype Attempt] [DecidableEq Attempt] [DecidableEq Key]
    (refl : ∀ db, Grows db db) (trans : ∀ a b c, Grows a b → Grows b c → Grows a c)
    {guard : Server Attempt Db Key Err α → Attempt → Prop}
    {earlier server : Server Attempt Db Key Err α} {later : List Attempt}
    (only
      : ∀ i, (earlier.progress i).Only (fun statement => Advances Grows statement.run))
    (ran : Runs (Server.stepping guard) earlier later server)
    : Grows earlier.db server.db := by
  have kept
      : Grows earlier.db server.db
        ∧ ∀ i, (server.progress i).Only (fun statement => Advances Grows statement.run) := by
    refine Runs.invariant
      (fun _ server => Grows earlier.db server.db
        ∧ ∀ i, (server.progress i).Only (fun statement => Advances Grows statement.run))
      ⟨refl _, only⟩ ?_ ran
    intro _ server i after _ ⟨above, only⟩ stepped
    have moves := Server.advance_moves stepped.1
    refine ⟨?_, moves.each moves.only only⟩
    cases moves with
    | select | execute | refuse | leave => exact above
    | commit reached =>
        have sent := only i
        rw [reached] at sent
        exact trans _ _ _ above (overlay_grows refl trans sent.1 _)
  exact kept.1

end Only

-----------------------------------------------------------------------------------------
-- What answers say about the statements
-----------------------------------------------------------------------------------------

section Answers

variable {committed : List (Statement Db Key Err) → α → Prop} {left : α → Prop}

/-- Whatever it reads, the transaction commits an answer that fits all that it has sent, and
leaves with an error or an answer that may go without a commit.
-/
def Transaction.Answers (committed : List (Statement Db Key Err) → α → Prop) (left : α → Prop)
    : List (Statement Db Key Err) → Transaction Db Key Err α → Prop
  | sent, select next => ∀ db, (next db).Answers committed left sent
  | sent, execute statement next => next.Answers committed left (sent ++ [statement])
  | sent, commit value => committed sent value
  | _, leave outcome => ∀ value, outcome = .ok value → left value

/-- Rewritten answers fit when what they are made of does, by induction on the transaction. -/
theorem Transaction.Answers.map {f : α → β} {committed : List (Statement Db Key Err) → β → Prop}
    {left : β → Prop} {transaction : Transaction Db Key Err α}
    {sent : List (Statement Db Key Err)}
    (answers
      : transaction.Answers (fun sent value => committed sent (f value))
          (fun value => left (f value)) sent)
    : (transaction.map f).Answers committed left sent := by
  induction transaction generalizing sent with
  | select next ih => exact fun db => ih db (answers db)
  | execute statement next ih => exact ih answers
  | commit value => exact answers
  | leave outcome =>
      intro value same
      cases outcome with
      | ok before =>
          cases same
          exact answers before rfl
      | error error => cases same

/-- The answer fits what was sent, or will. -/
def Progress.Answers (committed : List (Statement Db Key Err) → α → Prop) (left : α → Prop)
    : Progress Db Key Err α → Prop
  | running sent rest => rest.Answers committed left sent
  | .committed sent value => committed sent value
  | ended outcome => ∀ value, outcome = .ok value → left value

theorem Transaction.answers_executeAll {statements : List (Statement Db Key Err)} {value : α}
    {sent : List (Statement Db Key Err)} (fits : committed (sent ++ statements) value)
    : (executeAll statements (.commit value)).Answers committed left sent := by
  induction statements generalizing sent with
  | nil =>
      rw [List.append_nil] at fits
      exact fits
  | cons statement rest ih =>
      have later : (executeAll rest (.commit value)).Answers committed left (sent ++ [statement]) :=
        ih (by simpa using fits)
      exact later

variable [DecidableEq Attempt]

/-- Every move keeps the answers fitting. -/
theorem Server.Moves.answers [DecidableEq Key] {server after : Server Attempt Db Key Err α}
    {i : Attempt} (moves : server.Moves i after)
    (before : (server.progress i).Answers committed left)
    : (after.progress i).Answers committed left := by
  cases moves with
  | select reached =>
      rw [reached] at before
      rw [Server.moved_self]
      exact before _
  | execute reached free ran =>
      rw [reached] at before
      rw [Server.moved_self]
      exact before
  | refuse reached ran =>
      rw [Server.moved_self]
      exact fun _ none_ => nomatch none_
  | @commit sent value reached =>
      rw [reached] at before
      have self := server.moved_self i (.committed sent value)
      exact self.symm ▸ before
  | leave reached =>
      rw [reached] at before
      rw [Server.moved_self]
      exact before

/-- The statements that were sent have succeeded. -/
def Progress.Succeeded : Progress Db Key Err α → Prop
  | running sent _ => ∀ statement ∈ sent, ∃ db next, statement.run db = .ok next
  | .committed sent _ => ∀ statement ∈ sent, ∃ db next, statement.run db = .ok next
  | ended _ => True

/-- A statement is sent when it succeeds. -/
theorem Server.Moves.succeeded [DecidableEq Key] {server after : Server Attempt Db Key Err α}
    {i : Attempt} (moves : server.Moves i after) (before : (server.progress i).Succeeded)
    : (after.progress i).Succeeded := by
  cases moves with
  | select reached =>
      rw [reached] at before
      rw [Server.moved_self]
      exact before
  | @execute sent statement next view reached free ran =>
      rw [reached] at before
      rw [Server.moved_self]
      intro other member
      rcases List.mem_append.mp member with old | last
      · exact before other old
      · exact List.mem_singleton.mp last ▸ ⟨_, view, ran⟩
  | refuse reached ran =>
      rw [Server.moved_self]
      trivial
  | @commit sent value reached =>
      rw [reached] at before
      have self := server.moved_self i (.committed sent value)
      exact self.symm ▸ before
  | leave reached =>
      rw [Server.moved_self]
      trivial

variable [Fintype Attempt] [DecidableEq Key]
  {guard : Server Attempt Db Key Err α → Attempt → Prop}
  {programs : Attempt → Transaction Db Key Err α} {db : Db} {history : List Attempt}
  {server : Server Attempt Db Key Err α}

/-- Answers fit in every state reached. -/
theorem Interleavings.answers (answers : ∀ i, (programs i).Answers committed left [])
    (ran : Interleavings guard programs db history server)
    : ∀ i, (server.progress i).Answers committed left :=
  ran.each answers Server.Moves.answers

/-- What was sent has succeeded in every state reached. -/
theorem Interleavings.succeeded (ran : Interleavings guard programs db history server)
    : ∀ i, (server.progress i).Succeeded :=
  ran.each (fun _ _ member => nomatch member) Server.Moves.succeeded

end Answers

-----------------------------------------------------------------------------------------
-- Transactions that run alone
-----------------------------------------------------------------------------------------

section Alone

/-- What a transaction answers and commits when no other runs: it reads `view`, on `db`. -/
def Transaction.alone (view db : Db) : Transaction Db Key Err α → Except Err α × Db
  | select next => (next view).alone view db
  | execute statement next =>
      match statement.run view with
      | .ok view => next.alone view db
      | .error error => (.error error, db)
  | commit value => (.ok value, view)
  | leave outcome => (outcome, db)

theorem Transaction.alone_executeAll_cons (statement : Statement Db Key Err)
    (rest : List (Statement Db Key Err)) (next : Transaction Db Key Err α) (view db : Db)
    : (executeAll (statement :: rest) next).alone view db
      = match statement.run view with
        | .ok view => (executeAll rest next).alone view db
        | .error error => (.error error, db) :=
  rfl

/-- An answer that is rewritten leaves the statements before it. -/
theorem Transaction.map_executeAll (f : α → β) (statements : List (Statement Db Key Err))
    (next : Transaction Db Key Err α)
    : (executeAll statements next).map f = executeAll statements (next.map f) := by
  induction statements with
  | nil => rfl
  | cons statement rest ih => exact congrArg (execute statement) ih

/-- Statements that all succeed lead on, by induction on them. -/
theorem Transaction.alone_executeAll {statements : List (Statement Db Key Err)}
    {next : Transaction Db Key Err α} {view after db : Db}
    (ran : runAll (statements.map Statement.run) view = .ok after)
    : (executeAll statements next).alone view db = next.alone after db := by
  induction statements generalizing view with
  | nil =>
      cases ran
      rfl
  | cons statement rest ih =>
      obtain ⟨middle, first, ran⟩ := runAll_cons_ok ran
      rw [alone_executeAll_cons, first]
      exact ih ran

/-- A statement that fails ends the transaction. -/
theorem Transaction.alone_executeAll_error {statements : List (Statement Db Key Err)}
    {next : Transaction Db Key Err α} {view db : Db} {error : Err}
    (ran : runAll (statements.map Statement.run) view = .error error)
    : (executeAll statements next).alone view db = (.error error, db) := by
  induction statements generalizing view with
  | nil => cases ran
  | cons statement rest ih =>
      rw [List.map_cons, runAll_cons] at ran
      rw [alone_executeAll_cons]
      cases first : statement.run view with
      | ok middle =>
          rw [first] at ran
          exact ih ran
      | error other =>
          rw [first] at ran
          cases ran
          rfl

/-- A statement before an answer has succeeded. -/
theorem Transaction.alone_execute_ok {statement : Statement Db Key Err}
    {next : Transaction Db Key Err α} {view db after : Db} {value : α}
    (answered : (execute statement next).alone view db = (.ok value, after))
    : ∃ middle, statement.run view = .ok middle ∧ next.alone middle db = (.ok value, after) := by
  rw [alone] at answered
  cases ran : statement.run view with
  | ok middle =>
      rw [ran] at answered
      exact ⟨middle, rfl, answered⟩
  | error error =>
      rw [ran] at answered
      cases answered

/-- So have several. -/
theorem Transaction.alone_executeAll_ok {statements : List (Statement Db Key Err)}
    {next : Transaction Db Key Err α} {view db after : Db} {value : α}
    (answered : (executeAll statements next).alone view db = (.ok value, after))
    : ∃ middle,
        runAll (statements.map Statement.run) view = .ok middle
        ∧ next.alone middle db = (.ok value, after) := by
  cases ran : runAll (statements.map Statement.run) view with
  | ok middle => exact ⟨middle, rfl, alone_executeAll ran ▸ answered⟩
  | error error => cases (alone_executeAll_error ran).symm.trans answered

/-- So far the transaction has done on the database what it does alone. -/
def Progress.Undisturbed (program : Transaction Db Key Err α) (db : Db)
    : Progress Db Key Err α → Prop
  | running sent rest => rest.alone (overlay sent db) db = program.alone db db
  | committed sent value => program.alone db db = (.ok value, overlay sent db)
  | ended outcome => program.alone db db = (outcome, db)

theorem overlay_snoc {sent : List (Statement Db Key Err)} {statement : Statement Db Key Err}
    {db view : Db} (ran : statement.run (overlay sent db) = .ok view)
    : overlay (sent ++ [statement]) db = view := by
  unfold overlay at ran ⊢
  rw [List.foldl_append, List.foldl_cons, ran]
  rfl

/-- Until anything else is committed, every move is one that the transaction makes alone. -/
theorem Server.Moves.undisturbed [DecidableEq Attempt] [DecidableEq Key]
    {server after : Server Attempt Db Key Err α} {i : Attempt}
    {program : Transaction Db Key Err α} (moves : server.Moves i after)
    (before : (server.progress i).Undisturbed program server.db)
    : (after.progress i).Undisturbed program server.db := by
  cases moves with
  | select reached =>
      rw [reached] at before
      rw [moved_progress, if_pos rfl]
      exact before
  | execute reached free ran =>
      rw [reached] at before
      have stepped := before
      simp only [Progress.Undisturbed, Transaction.alone, ran] at stepped
      rw [moved_progress, if_pos rfl]
      simpa only [Progress.Undisturbed, overlay_snoc ran] using stepped
  | refuse reached ran =>
      rw [reached] at before
      simp only [Progress.Undisturbed, Transaction.alone, ran] at before
      simpa [Progress.Undisturbed] using before.symm
  | commit reached =>
      rw [reached] at before
      simpa [Progress.Undisturbed, Transaction.alone] using before.symm
  | leave reached =>
      rw [reached] at before
      simpa [Progress.Undisturbed, Transaction.alone] using before.symm

end Alone

end SpecterCloud.Foundations
