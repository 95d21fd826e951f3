import SpecterCloud.Foundations.Transactions

/-! Transactions that check whether something is free and then take it. While no transaction
finds free what another one in flight has found free, it is taken at most once.
-/

namespace SpecterCloud.Foundations

variable {Attempt Db Key Err α β : Type} {key : Key}

/-- A statement that can succeed takes the keys that it locks. -/
structure Statement.Claims (key : Key) (statement : Statement Db Key Err) : Prop where
  locks : key ∈ statement.locks.map Lock.key
  succeeds : ∃ db next, statement.run db = .ok next

/-- One of the statements takes the key. -/
def Claimed (key : Key) (statements : List (Statement Db Key Err)) : Prop :=
  ∃ statement ∈ statements, statement.Claims key

/-- The statements that come before the next query. -/
def Transaction.ahead : Transaction Db Key Err α → List (Statement Db Key Err)
  | execute statement next => statement :: next.ahead
  | _ => []

/-- There are no more queries. -/
def Transaction.Straight : Transaction Db Key Err α → Prop
  | select _ => False
  | execute _ next => next.Straight
  | _ => True

/-- The transaction in flight has found the key free, and takes it. -/
def Progress.Pending (key : Key) : Progress Db Key Err α → Prop
  | running sent rest => Claimed key (sent ++ rest.ahead)
  | _ => False

/-- The transaction has taken the key for good. -/
def Progress.Settled (key : Key) : Progress Db Key Err α → Prop
  | committed sent _ => Claimed key sent
  | _ => False

/-- The transaction makes its queries first, and after the last of them it takes the key only if
it was free.
-/
def Transaction.Checks (key : Key) (taken : Db → Prop) : Transaction Db Key Err α → Prop
  | select next =>
      ∀ db, (next db).Checks key taken
        ∨ ((next db).Straight ∧ (taken db → ¬ Claimed key (next db).ahead))
  | _ => False

/-- Only the statements that take the key make it taken, and none gives it back. -/
def Takes (key : Key) (taken : Db → Prop) (statement : Statement Db Key Err) : Prop :=
  ∀ db next, statement.run db = .ok next
    → (taken next → taken db ∨ statement.Claims key) ∧ (taken db → taken next)

/-- A query does not find the key free while another transaction in flight has. -/
def Server.Apart (key : Key) (server : Server Attempt Db Key Err α) (i : Attempt) : Prop :=
  ∀ next, server.progress i = .running [] (.select next)
    → Claimed key (next server.db).ahead
    → ∀ j, ¬ (server.progress j).Pending key

/-- The transaction has no statement sent and none before its next query. -/
def Progress.clear : Progress Db Key Err α → Bool
  | running sent rest => sent.isEmpty && rest.ahead.isEmpty
  | _ => true

/-- A computable condition for staying apart: queries come while every transaction is clear. -/
def Server.clear [Fintype Attempt] (server : Server Attempt Db Key Err α) (i : Attempt) : Bool :=
  match server.progress i with
  | .running [] (.select _) => decide (∀ j, (server.progress j).clear = true)
  | _ => true

/-- What the statements of a transaction have taken is taken on top of what is committed. -/
def Server.InForce (key : Key) (taken : Db → Prop) (server : Server Attempt Db Key Err α)
    : Prop :=
  ∀ i sent rest, server.progress i = .running sent rest → Claimed key sent
    → taken (overlay sent server.db)

/-- The key is taken at most once, and only one transaction at a time is about to take it. -/
structure Server.RaceFree (key : Key) (taken : Db → Prop)
    (server : Server Attempt Db Key Err α)
    : Prop where
  shape
    : ∀ i sent rest, server.progress i = .running sent rest
      → (sent = [] ∧ rest.Checks key taken) ∨ rest.Straight
  only : ∀ i, (server.progress i).Only (Takes key taken)
  alone : ∀ i j, (server.progress i).Pending key → (server.progress j).Pending key → i = j
  free : ∀ i, (server.progress i).Pending key → ¬ taken server.db
  settled : ∀ i, (server.progress i).Settled key → taken server.db
  once : ∀ i j, (server.progress i).Settled key → (server.progress j).Settled key → i = j

section Statements

/-- A transaction that still checks the key has nothing ahead of its next query. -/
theorem Transaction.Checks.ahead {taken : Db → Prop} {rest : Transaction Db Key Err α}
    (checks : rest.Checks key taken)
    : rest.ahead = [] := by
  cases rest with
  | select next => rfl
  | execute | commit | leave => exact checks.elim

theorem Transaction.ahead_map (f : α → β) (transaction : Transaction Db Key Err α)
    : (transaction.map f).ahead = transaction.ahead := by
  induction transaction with
  | execute statement next ih => exact congrArg (statement :: ·) ih
  | select | commit | leave => rfl

theorem Transaction.Straight.map {transaction : Transaction Db Key Err α}
    (straight : transaction.Straight) (f : α → β)
    : (transaction.map f).Straight := by
  induction transaction with
  | select => exact straight.elim
  | execute statement next ih => exact ih straight
  | commit | leave => trivial

/-- Rewriting the answer changes nothing in what is checked and taken. -/
theorem Transaction.Checks.map {taken : Db → Prop} {transaction : Transaction Db Key Err α}
    (checks : transaction.Checks key taken) (f : α → β)
    : (transaction.map f).Checks key taken := by
  induction transaction with
  | select next ih =>
      intro db
      rcases checks db with checks | ⟨straight, checked⟩
      · exact .inl (ih db checks)
      · refine .inr ⟨straight.map f, ?_⟩
        rw [Transaction.ahead_map]
        exact checked
  | execute | commit | leave => exact checks.elim

/-- Statements before a commit are what is ahead. -/
theorem Transaction.ahead_executeAll (statements : List (Statement Db Key Err)) (value : α)
    : (executeAll statements (.commit value)).ahead = statements := by
  induction statements with
  | nil => rfl
  | cons statement rest ih => exact congrArg (statement :: ·) ih

theorem Transaction.straight_executeAll (statements : List (Statement Db Key Err)) (value : α)
    : (executeAll statements (.commit value)).Straight := by
  induction statements with
  | nil => trivial
  | cons statement rest ih => exact ih

theorem not_claimed_nil : ¬ Claimed key ([] : List (Statement Db Key Err)) :=
  fun ⟨_, member, _⟩ => nomatch member

/-- A clear transaction is not about to take anything. -/
theorem Progress.not_pending {progress : Progress Db Key Err α} (clear : progress.clear = true)
    : ¬ progress.Pending key := by
  cases progress with
  | running sent rest =>
      simp only [Progress.clear, Bool.and_eq_true, List.isEmpty_iff] at clear
      simp only [Progress.Pending, clear.1, clear.2, List.append_nil]
      exact not_claimed_nil
  | committed | ended => exact not_false

/-- Queries that come while every transaction is clear stay apart. -/
theorem Server.clear_apart [Fintype Attempt] (key : Key) (server : Server Attempt Db Key Err α)
    (i : Attempt) (clear : server.clear i = true)
    : server.Apart key i := by
  intro next reached _ j
  rw [Server.clear, reached] at clear
  exact Progress.not_pending (of_decide_eq_true clear j)

variable {taken : Db → Prop} {sent : List (Statement Db Key Err)}

/-- What is taken stays taken. -/
theorem taken_overlay (only : ∀ statement ∈ sent, Takes key taken statement) {db : Db}
    (before : taken db)
    : taken (overlay sent db) :=
  overlay_keeps (fun statement member db next ran => (only statement member db next ran).2) before

/-- What is taken by statements was taken before, or one of them takes it. -/
theorem taken_of_overlay (only : ∀ statement ∈ sent, Takes key taken statement) {db : Db}
    (after : taken (overlay sent db))
    : taken db ∨ Claimed key sent := by
  by_contra neither
  obtain ⟨untaken, unclaimed⟩ := not_or.mp neither
  have keeps
      : ∀ statement ∈ sent, ∀ before next, statement.run before = .ok next
          → ¬ taken before → ¬ taken next := by
    intro statement member before next ran untaken takenNext
    rcases (only statement member before next ran).1 takenNext with earlier | claims
    · exact untaken earlier
    · exact unclaimed ⟨statement, member, claims⟩
  exact overlay_keeps keeps untaken after

end Statements

section Race

variable [DecidableEq Attempt] [DecidableEq Key] {taken : Db → Prop}
  {server after : Server Attempt Db Key Err α} {i : Attempt}

omit [DecidableEq Key] in
/-- A transaction that moves without taking more or settling leaves the race free. -/
theorem Server.RaceFree.moved (race : server.RaceFree key taken)
    {progress : Progress Db Key Err α}
    (shape
      : ∀ sent rest, progress = .running sent rest
        → (sent = [] ∧ rest.Checks key taken) ∨ rest.Straight)
    (only : progress.Only (Takes key taken))
    (pending
      : progress.Pending key
        → ¬ taken server.db ∧ ∀ j, j ≠ i → ¬ (server.progress j).Pending key)
    (settled : ¬ progress.Settled key)
    : (server.moved i progress).RaceFree key taken := by
  refine ⟨?_, ?_, ?_, ?_, ?_, ?_⟩
  · intro j sent rest reached
    rw [moved_progress] at reached
    split at reached
    · exact shape sent rest reached
    · exact race.shape j sent rest reached
  · intro j
    rw [moved_progress]
    split
    · exact only
    · exact race.only j
  · intro j k first second
    rw [moved_progress] at first second
    split at first <;> split at second <;> rename_i left right
    · exact left.trans right.symm
    · exact absurd second ((pending first).2 k right)
    · exact absurd first ((pending second).2 j left)
    · exact race.alone j k first second
  · intro j waiting
    rw [moved_progress] at waiting
    split at waiting
    · exact (pending waiting).1
    · exact race.free j waiting
  · intro j done
    rw [moved_progress] at done
    split at done
    · exact absurd done settled
    · exact race.settled j done
  · intro j k first second
    rw [moved_progress] at first second
    split at first
    · exact absurd first settled
    split at second
    · exact absurd second settled
    · exact race.once j k first second

omit [DecidableEq Key] in
/-- The commit of the one transaction that is about to take the key, or of one that is not. -/
theorem Server.RaceFree.commit (race : server.RaceFree key taken)
    {sent : List (Statement Db Key Err)} {value : α}
    (reached : server.progress i = .running sent (.commit value))
    (inForce : server.InForce key taken) (db : after.db = overlay sent server.db)
    (self : after.progress i = .committed sent value)
    (others : ∀ j, j ≠ i → after.progress j = server.progress j)
    : after.RaceFree key taken := by
  have only : ∀ statement ∈ sent, Takes key taken statement := by
    have all := race.only i
    rw [reached] at all
    exact all.1
  have pending : Claimed key sent → (server.progress i).Pending key := by
    intro claimed
    rw [reached]
    simpa [Progress.Pending, Transaction.ahead] using claimed
  refine ⟨?_, ?_, ?_, ?_, ?_, ?_⟩
  · intro j sent rest running
    by_cases same : j = i
    · rw [same, self] at running
      cases running
    · rw [others j same] at running
      exact race.shape j sent rest running
  · intro j
    by_cases same : j = i
    · rw [same, self]
      exact only
    · rw [others j same]
      exact race.only j
  · intro j k first second
    by_cases left : j = i
    · rw [left, self] at first
      cases first
    by_cases right : k = i
    · rw [right, self] at second
      cases second
    rw [others j left] at first
    rw [others k right] at second
    exact race.alone j k first second
  · intro j waiting found
    by_cases same : j = i
    · rw [same, self] at waiting
      cases waiting
    · rw [others j same] at waiting
      rw [db] at found
      rcases taken_of_overlay only found with before | claimed
      · exact race.free j waiting before
      · exact same (race.alone j i waiting (pending claimed))
  · intro j done
    rw [db]
    by_cases same : j = i
    · rw [same, self] at done
      exact inForce i sent _ reached done
    · rw [others j same] at done
      exact taken_overlay only (race.settled j done)
  · intro j k first second
    by_cases left : j = i <;> by_cases right : k = i
    · exact left.trans right.symm
    · rw [left, self] at first
      rw [others k right] at second
      exact absurd (race.settled k second) (race.free i (pending first))
    · rw [right, self] at second
      rw [others j left] at first
      exact absurd (race.settled j first) (race.free i (pending second))
    · rw [others j left] at first
      rw [others k right] at second
      exact race.once j k first second

/-- Every move of transactions that stay apart leaves the race free. -/
theorem Server.RaceFree.step (race : server.RaceFree key taken) (moves : server.Moves i after)
    (inForce : server.InForce key taken) (apart : server.Apart key i)
    : after.RaceFree key taken := by
  have only := moves.only (race.only i)
  cases moves with
  | @select sent next reached =>
      rcases race.shape i _ _ reached with ⟨rfl, checks⟩ | straight
      · rcases checks server.db with checks | ⟨straight, checked⟩
        · refine race.moved ?_ (by simpa using only) ?_ not_false
          · intro sent rest running
            cases running
            exact .inl ⟨rfl, checks⟩
          · intro pending
            have claimed : Claimed key (next server.db).ahead := pending
            rw [checks.ahead] at claimed
            exact absurd claimed not_claimed_nil
        · refine race.moved ?_ (by simpa using only) ?_ not_false
          · intro sent rest running
            cases running
            exact .inr straight
          · intro pending
            have claimed : Claimed key (next server.db).ahead := pending
            exact ⟨fun found => checked found claimed, fun j _ => apart next reached claimed j⟩
      · exact straight.elim
  | @execute sent statement next view reached free ran =>
      have straight : next.Straight := by
        rcases race.shape i _ _ reached with ⟨_, checks⟩ | straight
        · exact checks.elim
        · exact straight
      refine race.moved ?_ (by simpa using only) ?_ not_false
      · intro sent rest running
        cases running
        exact .inr straight
      · intro pending
        have before : (server.progress i).Pending key := by
          rw [reached]
          simpa [Progress.Pending, Transaction.ahead] using pending
        refine ⟨race.free i before, fun j apart also => ?_⟩
        exact apart (race.alone j i also before)
  | refuse reached ran => exact race.moved nofun trivial not_false.elim not_false
  | commit reached =>
      refine race.commit reached inForce rfl ?_ ?_
      · exact (Server.moved_progress _ _ _ _).trans (if_pos rfl)
      · exact fun j apart => (Server.moved_progress _ _ _ _).trans (if_neg apart)
  | leave reached => exact race.moved nofun trivial not_false.elim not_false

variable [Fintype Attempt] {guard : Server Attempt Db Key Err α → Attempt → Prop}
  {programs : Attempt → Transaction Db Key Err α} {db : Db} {history later : List Attempt}
  {middle : Server Attempt Db Key Err α}

/-- Transactions that check the key and stay apart. -/
structure ChecksApart (key : Key) (taken : Db → Prop)
    (guard : Server Attempt Db Key Err α → Attempt → Prop)
    (programs : Attempt → Transaction Db Key Err α) (db : Db)
    : Prop where
  checks : ∀ i, (programs i).Checks key taken
  only : ∀ i, (programs i).Only (Takes key taken)
  apart : ∀ server i, guard server i → server.Apart key i
  inForce
    : ∀ history server,
        Interleavings guard programs db history server → server.InForce key taken

/-- Before the first step nothing is in flight. -/
theorem ChecksApart.idle (apart : ChecksApart key taken guard programs db) (i : Attempt)
    : ¬ ((Server.initial db programs).progress i).Pending key := by
  have nothing := (apart.checks i).ahead
  simpa [Server.initial, Progress.Pending, nothing] using not_claimed_nil

/-- They take it at most once. -/
theorem ChecksApart.raceFree (apart : ChecksApart key taken guard programs db)
    (ran : Interleavings guard programs db history server)
    : server.RaceFree key taken := by
  refine Runs.invariant (fun _ server => server.RaceFree key taken) ?_ ?_ ran
  · refine ⟨?_, ?_, ?_, ?_, fun _ => not_false.elim, fun _ _ => not_false.elim⟩
    · intro i sent rest running
      cases running
      exact .inl ⟨rfl, apart.checks i⟩
    · exact fun i => ⟨List.forall_mem_nil _, apart.only i⟩
    · exact fun i _ pending => absurd pending (apart.idle i)
    · exact fun i pending => absurd pending (apart.idle i)
  · intro history server i after ran race stepped
    exact race.step (Server.advance_moves stepped.1) (apart.inForce history server ran)
      (apart.apart server i stepped.2)

variable {Value : Type} {observe : Db → Value}

/-- A statement that does not take the key leaves something of it alone. -/
def Leaves (key : Key) (observe : Db → Value) (statement : Statement Db Key Err) : Prop :=
  ¬ statement.Claims key → ∀ db next, statement.run db = .ok next → observe next = observe db

omit [DecidableEq Attempt] [DecidableEq Key] [Fintype Attempt] in
/-- So do several statements of which none takes it. -/
theorem observe_overlay {sent : List (Statement Db Key Err)}
    (leaves : ∀ statement ∈ sent, Leaves key observe statement) (unclaimed : ¬ Claimed key sent)
    (db : Db)
    : observe (overlay sent db) = observe db := by
  have keeps
      : ∀ statement ∈ sent, ∀ before next, statement.run before = .ok next
          → observe before = observe db → observe next = observe db := by
    intro statement member before next ran same
    have claimless : ¬ statement.Claims key :=
      fun claims => unclaimed ⟨statement, member, claims⟩
    exact (leaves statement member claimless before next ran).trans same
  exact overlay_keeps keeps rfl

/-- Once the key is taken, what taking it changes does not change again. -/
theorem ChecksApart.frozen (apart : ChecksApart key taken guard programs db)
    (leaves : ∀ i, (programs i).Only (Leaves key observe))
    (ran : Interleavings guard programs db history middle) (found : taken middle.db)
    (goesOn : Runs (Server.stepping guard) middle later server)
    : observe server.db = observe middle.db := by
  have kept : taken server.db ∧ observe server.db = observe middle.db := by
    refine Runs.invariant
      (fun _ server => taken server.db ∧ observe server.db = observe middle.db)
      ⟨found, rfl⟩ ?_ goesOn
    intro later server i after goesOn before stepped
    have reached := ran.append goesOn
    have race := apart.raceFree reached
    cases Server.advance_moves stepped.1 with
    | select | execute | refuse | leave => exact before
    | @commit sent value committing =>
        have only := race.only i
        have quiet := reached.only leaves i
        rw [committing] at only quiet
        have unclaimed : ¬ Claimed key sent := by
          intro claimed
          refine race.free i ?_ before.1
          rw [committing]
          simpa [Progress.Pending, Transaction.ahead] using claimed
        exact ⟨taken_overlay only.1 before.1,
          (observe_overlay quiet.1 unclaimed server.db).trans before.2⟩
  exact kept.2

end Race

end SpecterCloud.Foundations
