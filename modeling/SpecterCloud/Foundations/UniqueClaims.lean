import SpecterCloud.Foundations.Transactions

/-! Transactions that commit nothing without one statement that takes a unique key. However they
interleave, at most one of them commits, and it does what it does alone.
-/

namespace SpecterCloud.Foundations

variable {Attempt Db Key Err α : Type}

/-- The statement locks the key, succeeds only where it is free, and takes it. -/
structure Statement.Secures (key : Key) (taken : Db → Prop) (statement : Statement Db Key Err)
    : Prop where
  locks : ⟨key, true⟩ ∈ statement.locks
  free : ∀ db next, statement.run db = .ok next → ¬ taken db
  takes : ∀ db next, statement.run db = .ok next → taken next

/-- One of the statements takes the key. -/
def Secured (key : Key) (taken : Db → Prop) (sent : List (Statement Db Key Err)) : Prop :=
  ∃ statement ∈ sent, statement.Secures key taken

/-- The statement does not give the key back. -/
def Keeps (taken : Db → Prop) (statement : Statement Db Key Err) : Prop :=
  ∀ db next, statement.run db = .ok next → taken db → taken next

/-- The transaction is not about to commit, as it has not taken the key. -/
def Progress.Unsecured (key : Key) (taken : Db → Prop) : Progress Db Key Err α → Prop
  | running sent _ => ¬ Secured key taken sent
  | committed _ _ => False
  | ended _ => True

/-- The transaction has not committed. -/
def Progress.Uncommitted : Progress Db Key Err α → Prop
  | committed _ _ => False
  | _ => True

theorem Progress.Unsecured.uncommitted {key : Key} {taken : Db → Prop}
    {progress : Progress Db Key Err α} (unsecured : progress.Unsecured key taken)
    : progress.Uncommitted := by
  cases progress with
  | running | ended => trivial
  | committed => exact unsecured

/-- Nothing is committed, every transaction has done so far what it does alone, and one that
has taken the key sees it taken.
-/
structure Server.Unclaimed (key : Key) (taken : Db → Prop)
    (programs : Attempt → Transaction Db Key Err α) (db : Db)
    (server : Server Attempt Db Key Err α)
    : Prop where
  untouched : server.db = db
  undisturbed : ∀ i, (server.progress i).Undisturbed (programs i) db
  uncommitted : ∀ i, (server.progress i).Uncommitted
  inForce
    : ∀ i sent rest, server.progress i = .running sent rest → Secured key taken sent
      → taken (overlay sent db)

/-- One transaction has committed what it does alone, and no other is about to commit. -/
structure Server.ClaimedBy (key : Key) (taken : Db → Prop)
    (programs : Attempt → Transaction Db Key Err α) (db : Db)
    (server : Server Attempt Db Key Err α) (winner : Attempt)
    : Prop where
  settled : taken server.db
  won
    : ∃ sent value,
        server.progress winner = .committed sent value
        ∧ (programs winner).alone db db = (.ok value, server.db)
  lost : ∀ j, j ≠ winner → (server.progress j).Unsecured key taken

section Overlay

variable {key : Key} {taken : Db → Prop} {sent : List (Statement Db Key Err)}

/-- One more statement takes the key, or it was taken. -/
theorem secured_snoc {statement : Statement Db Key Err}
    (secured : Secured key taken (sent ++ [statement]))
    : Secured key taken sent ∨ statement.Secures key taken := by
  obtain ⟨other, member, secures⟩ := secured
  rcases List.mem_append.mp member with old | last
  · exact .inl ⟨other, old, secures⟩
  · exact .inr (List.mem_singleton.mp last ▸ secures)

end Overlay

section Claims

variable [DecidableEq Attempt] [DecidableEq Key] {key : Key} {taken : Db → Prop}
  {programs : Attempt → Transaction Db Key Err α} {db : Db}
  {server after : Server Attempt Db Key Err α} {i winner : Attempt}
  {committed : List (Statement Db Key Err) → α → Prop} {left : α → Prop}

omit [DecidableEq Attempt] in
/-- Two transactions in flight never have both taken the key. -/
theorem Server.Exclusive.unsecured (exclusive : server.Exclusive) {sent : List (Statement Db Key Err)}
    {rest : Transaction Db Key Err α} (reached : server.progress i = .running sent rest)
    (secured : Secured key taken sent) {j : Attempt} (apart : j ≠ i)
    (uncommitted : (server.progress j).Uncommitted)
    : (server.progress j).Unsecured key taken := by
  cases found : server.progress j with
  | running sentToo restToo =>
      intro securedToo
      obtain ⟨first, sentFirst, secures⟩ := secured
      obtain ⟨second, sentSecond, securesToo⟩ := securedToo
      have held : ⟨key, true⟩ ∈ (server.progress i).held := by
        rw [reached]
        exact List.mem_flatMap.mpr ⟨first, sentFirst, secures.locks⟩
      have heldToo : ⟨key, true⟩ ∈ (server.progress j).held := by
        rw [found]
        exact List.mem_flatMap.mpr ⟨second, sentSecond, securesToo.locks⟩
      have conflict := exclusive i j apart.symm _ held _ heldToo
      simp [Lock.conflicts] at conflict
  | committed sentToo value =>
      rw [found] at uncommitted
      exact uncommitted
  | ended outcome => trivial

/-- Every move but a commit changes only the progress of its transaction. -/
theorem Server.Unclaimed.moved (unclaimed : server.Unclaimed key taken programs db)
    (moves : server.Moves i after) (same : after.db = server.db)
    (uncommitted : (after.progress i).Uncommitted)
    (inForce
      : ∀ sent rest, after.progress i = .running sent rest → Secured key taken sent
        → taken (overlay sent db))
    : after.Unclaimed key taken programs db := by
  refine ⟨same.trans unclaimed.untouched, ?_, ?_, ?_⟩
  · intro j
    by_cases moved : j = i
    · subst moved
      have undisturbed := unclaimed.undisturbed j
      rw [← unclaimed.untouched] at undisturbed ⊢
      exact moves.undisturbed undisturbed
    · exact moves.others moved ▸ unclaimed.undisturbed j
  · intro j
    by_cases moved : j = i
    · exact moved ▸ uncommitted
    · exact moves.others moved ▸ unclaimed.uncommitted j
  · intro j sent rest reached
    by_cases moved : j = i
    · exact inForce sent rest (moved ▸ reached)
    · exact unclaimed.inForce j sent rest (moves.others moved ▸ reached)

/-- The commit of a transaction that has taken the key claims it. -/
theorem Server.Unclaimed.claimed (unclaimed : server.Unclaimed key taken programs db)
    (exclusive : server.Exclusive) (moves : server.Moves i after)
    {sent : List (Statement Db Key Err)} {value : α}
    (reached : server.progress i = .running sent (.commit value))
    (secured : Secured key taken sent) (finished : after.progress i = .committed sent value)
    (wrote : after.db = overlay sent server.db)
    : after.ClaimedBy key taken programs db i := by
  have inForce := unclaimed.inForce i sent _ reached secured
  have alone := unclaimed.undisturbed i
  rw [reached] at alone
  rw [unclaimed.untouched] at wrote
  refine ⟨wrote ▸ inForce, ⟨sent, value, finished, wrote ▸ alone.symm⟩, fun j apart => ?_⟩
  rw [moves.others apart]
  exact exclusive.unsecured reached secured apart (unclaimed.uncommitted j)

/-- While nothing is committed, a move leaves it so, unless it is the commit of a transaction
that has taken the key.
-/
theorem Server.Unclaimed.step (unclaimed : server.Unclaimed key taken programs db)
    (exclusive : server.Exclusive)
    (answers : (server.progress i).Answers committed left)
    (secures : ∀ sent value, committed sent value → Secured key taken sent)
    (only : (server.progress i).Only (Keeps taken)) (moves : server.Moves i after)
    : after.Unclaimed key taken programs db
      ∨ after.ClaimedBy key taken programs db i := by
  have taken_ := moves
  cases taken_ with
  | @select sent next reached =>
      refine .inl (unclaimed.moved moves rfl ?_ ?_)
      · rw [moved_self]
        trivial
      · intro sentNow restNow reachedNow
        rw [moved_self] at reachedNow
        cases reachedNow
        exact unclaimed.inForce i sent _ reached
  | @execute sent statement next view reached free ran =>
      refine .inl (unclaimed.moved moves rfl ?_ ?_)
      · rw [moved_self]
        trivial
      · intro sentNow restNow reachedNow secured
        rw [moved_self] at reachedNow
        cases reachedNow
        rw [unclaimed.untouched] at ran
        rw [overlay_snoc ran]
        rcases secured_snoc secured with before | secures
        · rw [reached] at only
          exact only.2.1 _ _ ran (unclaimed.inForce i sent _ reached before)
        · exact secures.takes _ _ ran
  | refuse reached ran =>
      refine .inl (unclaimed.moved moves rfl ?_ ?_)
      · rw [moved_self]
        trivial
      · intro sentNow restNow reachedNow
        rw [moved_self] at reachedNow
        cases reachedNow
  | leave reached =>
      refine .inl (unclaimed.moved moves rfl ?_ ?_)
      · rw [moved_self]
        trivial
      · intro sentNow restNow reachedNow
        rw [moved_self] at reachedNow
        cases reachedNow
  | @commit sent value reached =>
      rw [reached] at answers
      have secured := secures sent value answers
      exact .inr (unclaimed.claimed exclusive moves reached secured (server.moved_self i _) rfl)

/-- After a commit nothing more is committed: the key stays taken, so no other takes it. -/
theorem Server.ClaimedBy.step (claimed : server.ClaimedBy key taken programs db winner)
    (answers : (server.progress i).Answers committed left)
    (secures : ∀ sent value, committed sent value → Secured key taken sent)
    (only : (server.progress i).Only (Keeps taken)) (moves : server.Moves i after)
    : after.ClaimedBy key taken programs db winner := by
  obtain ⟨sentWon, value, won, alone⟩ := claimed.won
  have apart : i ≠ winner := by
    rintro rfl
    obtain ⟨sent, rest, running⟩ := moves.running
    cases won.symm.trans running
  have lost := claimed.lost i apart
  have stays (same : after.db = server.db) (unsecured : (after.progress i).Unsecured key taken)
      : after.ClaimedBy key taken programs db winner := by
    refine ⟨same ▸ claimed.settled, ⟨sentWon, value, ?_, same ▸ alone⟩, ?_⟩
    · exact (moves.others apart.symm).trans won
    · intro j other
      by_cases moved : j = i
      · exact moved ▸ unsecured
      · exact moves.others moved ▸ claimed.lost j other
  cases moves with
  | select reached =>
      rw [reached] at lost
      refine stays rfl ?_
      rw [moved_self]
      exact lost
  | @execute sent statement next view reached free ran =>
      rw [reached] at lost only
      refine stays rfl ?_
      rw [moved_self]
      intro secured
      rcases secured_snoc secured with before | secures
      · exact lost before
      · exact secures.free _ _ ran (overlay_keeps only.1 claimed.settled)
  | refuse reached ran =>
      refine stays rfl ?_
      rw [moved_self]
      trivial
  | leave reached =>
      refine stays rfl ?_
      rw [moved_self]
      trivial
  | commit reached =>
      rw [reached] at lost answers
      exact absurd (secures _ _ answers) lost

variable [Fintype Attempt] {guard : Server Attempt Db Key Err α → Attempt → Prop}
  {history : List Attempt}

/-- Transactions that commit only what takes the key: in every state that they reach, nothing
is committed, or one of them has committed what it does alone and no other can.
-/
theorem Interleavings.claims (answers : ∀ i, (programs i).Answers committed left [])
    (secures : ∀ sent value, committed sent value → Secured key taken sent)
    (only : ∀ i, (programs i).Only (Keeps taken))
    (ran : Interleavings guard programs db history server)
    : server.Unclaimed key taken programs db
      ∨ ∃ winner, server.ClaimedBy key taken programs db winner := by
  have kept
      : server.Exclusive
        ∧ (server.Unclaimed key taken programs db
          ∨ ∃ winner, server.ClaimedBy key taken programs db winner) := by
    refine Runs.invariant
      (fun _ server => server.Exclusive
        ∧ (server.Unclaimed key taken programs db
          ∨ ∃ winner, server.ClaimedBy key taken programs db winner)) ?_ ?_ ran
    · refine ⟨fun _ _ _ _ held => (nomatch held), .inl ⟨rfl, fun _ => rfl, fun _ => trivial, ?_⟩⟩
      intro i sent rest reached secured
      cases reached
      obtain ⟨statement, member, _⟩ := secured
      cases member
    · rintro history server i after ran ⟨exclusive, claims⟩ stepped
      have moves := Server.advance_moves stepped.1
      have fits := Interleavings.answers answers ran i
      have sends := Interleavings.only only ran i
      refine ⟨exclusive.step moves, ?_⟩
      rcases claims with unclaimed | ⟨winner, claimed⟩
      · rcases unclaimed.step exclusive fits secures sends moves with still | claimed
        · exact .inl still
        · exact .inr ⟨i, claimed⟩
      · exact .inr ⟨winner, claimed.step fits secures sends moves⟩
  exact kept.2

end Claims

end SpecterCloud.Foundations
