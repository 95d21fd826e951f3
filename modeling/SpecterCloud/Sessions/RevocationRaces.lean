import SpecterCloud.Foundations.ClaimRaces
import SpecterCloud.Sessions.ConcurrentRevocations

/-! Revocations that run concurrently. Two that both find a session active both report it, and
the second overwrites the time and the reason of the first; without such overlaps a session is
revoked once.
-/

namespace SpecterCloud.Auth

open SpecterCloud.Foundations
open SpecterCloud.Models
open SpecterCloud.Core
open SpecterCloud.Api

/-- Every row of the session is revoked. -/
def Revoked (sessionId : UUID) (db : Database) : Prop :=
  ∀ row ∈ db.sessions, row.id = sessionId → row.revokedAt ≠ none

/-- What a revocation writes to a session. -/
def revocationColumns (sessionId : UUID) (db : Database)
    : Option (Option Instant × Option String) :=
  (db.sessionById sessionId).map (fun row => (row.revokedAt, row.revokedReason))

/-- The state of a server of revocations. -/
abbrev RevocationServer (n : Nat) := Server (Fin n) Database UUID Raised RevocationAnswer

/-- The steps of revocations. -/
def revocations {n : Nat} (calls : Fin n → RevocationCall) (i : Fin n)
    : SessionSteps RevocationAnswer :=
  (calls i).steps

/-- The call has reported the session as revoked by it. -/
def ReportsRevoked (sessionId : UUID)
    (progress : Progress Database UUID Raised RevocationAnswer)
    : Prop :=
  ∃ answer, progress.outcome = some (.ok answer) ∧ answer.Reports sessionId

/-- No query finds a session active while another call in flight has found it active. -/
def RevocationsApart {n : Nat} (server : RevocationServer n) (i : Fin n) : Prop :=
  ∀ sessionId, server.Apart sessionId i

section Statements

variable {sessionId other : UUID} {now : Instant} {reason : String} {db next : Database}

/-- An UPDATE that revokes and succeeds writes its columns. -/
theorem updateSession_writes {columns : SessionColumns}
    (ran : db.updateSession other columns = .ok next)
    : next = db.writeSession other columns := by
  unfold Database.updateSession at ran
  split at ran
  · exact (Except.ok.inj ran).symm
  · cases ran

/-- A revocation writes a row of its session, and only such rows. -/
theorem revoked_writeSession
    : Revoked sessionId (db.writeSession other (revocation now reason))
      ↔ other = sessionId ∨ Revoked sessionId db := by
  unfold Revoked
  rw [Database.writeSession_sessions]
  constructor
  · intro revoked
    by_cases same : other = sessionId
    · exact .inl same
    · refine .inr fun row stored id => ?_
      have apart : ¬ row.id = other := fun also => same (also.symm.trans id)
      have kept : row ∈ rewriteWhere (fun row => row.id = other) (revocation now reason).write
          db.sessions :=
        mem_rewriteWhere.mpr ⟨row, stored, by simp [apart]⟩
      exact revoked row kept id
  · rintro revoked row member id
    obtain ⟨old, stored, rfl⟩ := mem_rewriteWhere.mp member
    by_cases written : old.id = other
    · simp [written, SessionColumns.write, revocation]
    · rw [if_neg (by simpa using written)] at id ⊢
      rcases revoked with same | revoked
      · exact absurd (id.trans same.symm) written
      · exact revoked old stored id

/-- Only an UPDATE of its row revokes a session, and none makes it active. -/
theorem revocation_takes (sessionId other : UUID) (now : Instant) (reason : String)
    : Takes sessionId (Revoked sessionId)
        (updateSessionStatement other (revocation now reason)) := by
  intro db next ran
  obtain rfl := updateSession_writes ran
  rw [revoked_writeSession]
  refine ⟨?_, .inr⟩
  rintro (rfl | revoked)
  · exact .inr ⟨List.mem_singleton.mpr rfl, db, _, ran⟩
  · exact .inl revoked

/-- An UPDATE of another row leaves the columns of a revocation alone. -/
theorem revocation_leaves (sessionId other : UUID) (now : Instant) (reason : String)
    : Leaves sessionId (revocationColumns sessionId)
        (updateSessionStatement other (revocation now reason)) := by
  intro unclaimed db next ran
  obtain rfl := updateSession_writes ran
  have apart : other ≠ sessionId := by
    rintro rfl
    exact unclaimed ⟨List.mem_singleton.mpr rfl, db, _, ran⟩
  unfold revocationColumns
  rw [Database.writeSession_sessionById]
  cases found : db.sessionById sessionId with
  | none => rfl
  | some row =>
      obtain ⟨_, rfl⟩ := findBy_sound found
      simp [apart.symm]

/-- A statement that revokes the session does so whenever it runs. -/
theorem revoked_of_sent {sent : List (Statement Database UUID Raised)}
    (revocations
      : ∀ statement ∈ sent, ∃ other now reason,
          statement = updateSessionStatement other (revocation now reason))
    (claimed : Claimed sessionId sent) (db : Database)
    : Revoked sessionId (overlay sent db) := by
  have takes : ∀ statement ∈ sent, Takes sessionId (Revoked sessionId) statement := by
    intro statement member
    obtain ⟨other, now, reason, rfl⟩ := revocations statement member
    exact revocation_takes sessionId other now reason
  induction sent generalizing db with
  | nil => exact absurd claimed not_claimed_nil
  | cons statement rest ih =>
      obtain ⟨claiming, member, claims⟩ := claimed
      rw [overlay, List.foldl_cons]
      rcases List.mem_cons.mp member with rfl | later
      · obtain ⟨other, now, reason, rfl⟩ := revocations _ (.head _)
        obtain rfl : sessionId = other := List.mem_singleton.mp claims.locks
        obtain ⟨before, after, succeeded⟩ := claims.succeeds
        have fits : NullOr (NullOr (FitsString 40)) (revocation now reason).revokedReason := by
          by_contra unfit
          have refused
              : (updateSessionStatement sessionId (revocation now reason)).run before
                = .error (.dataError "sessions") :=
            if_neg unfit
          cases refused.symm.trans succeeded
        have ran
            : (updateSessionStatement sessionId (revocation now reason)).run db
              = .ok (db.writeSession sessionId (revocation now reason)) :=
          if_pos fits
        rw [ran]
        exact taken_overlay (fun other member => takes other (.tail _ member))
          (revoked_writeSession.mpr (.inl rfl))
      · exact ih (fun other member => revocations other (.tail _ member)) ⟨_, later, claims⟩ _
          (fun other member => takes other (.tail _ member))

end Statements

-----------------------------------------------------------------------------------------
-- Revocations check for active sessions and then revoke them
-----------------------------------------------------------------------------------------

section Calls

variable {sessionId : UUID} {call : RevocationCall}

/-- The statements that revoke sessions take no session that is revoked already. -/
theorem active_unclaimed {db : Database} {sessions : List Session} (now : Instant)
    (reason : String)
    (active : ∀ sess ∈ sessions, sess ∈ db.sessions ∧ sess.revokedAt = none)
    (revoked : Revoked sessionId db)
    : ¬ Claimed sessionId (revocationStatements now reason sessions) := by
  rintro ⟨statement, member, claims⟩
  obtain ⟨sess, chosen, rfl⟩ := List.mem_map.mp member
  obtain ⟨stored, unrevoked⟩ := active sess chosen
  exact revoked sess stored (List.mem_singleton.mp claims.locks).symm unrevoked

/-- A revocation revokes only sessions that it has found active. -/
theorem RevocationCall.checks (call : RevocationCall) (sessionId : UUID)
    : call.steps.Checks sessionId (Revoked sessionId) := by
  cases call with
  | revoke now id reason =>
      refine Transaction.Checks.map ?_ _
      intro db
      refine .inr ?_
      dsimp only
      cases found : db.sessionById id with
      | none => exact ⟨trivial, fun _ => not_claimed_nil⟩
      | some sess =>
          dsimp only
          split
          · exact ⟨trivial, fun _ => not_claimed_nil⟩
          rename_i active
          refine ⟨trivial, fun revoked => ?_⟩
          have chosen : ∀ other ∈ [sess], other ∈ db.sessions ∧ other.revokedAt = none := by
            simpa using ⟨(findBy_sound found).1, not_not.mp active⟩
          exact active_unclaimed now reason chosen revoked
  | revokeAll now userId reason transport =>
      refine Transaction.Checks.map ?_ _
      intro db
      refine .inr ?_
      dsimp only
      split
      · exact ⟨trivial, fun _ => not_claimed_nil⟩
      · refine ⟨Transaction.straight_executeAll _ _, fun revoked => ?_⟩
        rw [Transaction.ahead_executeAll]
        refine active_unclaimed now reason ?_ revoked
        intro sess member
        simp only [activeSessions, List.mem_filter, decide_eq_true_eq] at member
        exact ⟨member.1, member.2.2.1⟩

/-- A revocation reports the sessions whose rows it has locked. -/
theorem RevocationCall.answers (call : RevocationCall) (sessionId : UUID)
    : call.steps.Answers
        (fun sent answer =>
          answer.Reports sessionId
          → ∃ statement ∈ sent, sessionId ∈ statement.locks.map Lock.key)
        (fun answer => ¬ answer.Reports sessionId) [] := by
  cases call with
  | revoke now id reason =>
      refine Transaction.Answers.map ?_
      intro db
      dsimp only
      cases found : db.sessionById id with
      | none =>
          intro answer same
          cases same
          simp [RevocationAnswer.Reports]
      | some sess =>
          dsimp only
          split
          · intro answer same
            cases same
            simp [RevocationAnswer.Reports]
          · rintro ⟨rfl, _⟩
            exact ⟨_, .head _, by simp [updateSessionStatement, (findBy_sound found).2]⟩
  | revokeAll now userId reason transport =>
      refine Transaction.Answers.map ?_
      intro db
      dsimp only
      split
      · intro answer same
        cases same
        simp [RevocationAnswer.Reports]
      · refine Transaction.answers_executeAll ?_
        intro reported
        obtain ⟨sess, counted, rfl⟩ := List.mem_map.mp reported
        exact ⟨_, List.mem_map_of_mem counted, List.mem_singleton.mpr rfl⟩

end Calls

section Races

variable {n : Nat} {calls : Fin n → RevocationCall} {initial : Database} {history : List (Fin n)}
  {guard : RevocationServer n → Fin n → Prop} {server : RevocationServer n} {i : Fin n}
  {sessionId : UUID}

/-- Revocations that stay apart check for active sessions and then revoke them. -/
theorem revocations_checksApart (calls : Fin n → RevocationCall) (initial : Database)
    (sessionId : UUID)
    : ChecksApart sessionId (Revoked sessionId) RevocationsApart (revocations calls) initial where
  checks := fun i => (calls i).checks sessionId
  only := fun i => (calls i).only (revocation_takes sessionId)
  apart := fun _ _ apart => apart sessionId
  inForce := by
    intro history server ran i sent rest running claimed
    have sentOnly
        : (server.progress i).Only
            (fun statement => ∃ other now reason,
              statement = updateSessionStatement other (revocation now reason)) :=
      Interleavings.only (fun i => (calls i).only fun other now reason => ⟨_, _, _, rfl⟩) ran i
    rw [running] at sentOnly
    exact revoked_of_sent sentOnly.1 claimed server.db

/-- A call that has reported a session has committed an UPDATE of its row. -/
theorem ReportsRevoked.settled (reports : ReportsRevoked sessionId (server.progress i))
    (ran : Interleavings guard (revocations calls) initial history server)
    : (server.progress i).Settled sessionId := by
  obtain ⟨answer, ended, reported⟩ := reports
  have answers := Interleavings.answers (fun i => (calls i).answers sessionId) ran i
  have succeeded := Interleavings.succeeded ran i
  generalize server.progress i = progress at ended answers succeeded
  cases progress with
  | running sent rest => cases ended
  | committed sent value =>
      cases ended
      obtain ⟨statement, member, locks⟩ := answers reported
      exact ⟨statement, member, locks, succeeded statement member⟩
  | ended outcome =>
      cases ended
      exact absurd reported (answers answer rfl)

end Races

/-- Concurrent revocations, in every run in which no query finds a session active that another
call in flight has found active: at most one call reports a session as revoked by it, and once
a session is revoked, its time and its reason do not change again.
-/
theorem revocations_apart_revoke_once (n : Nat) (calls : Fin n → RevocationCall)
    (initial : Database) (history later : List (Fin n)) (middle server : RevocationServer n)
    (ran : Interleavings RevocationsApart (revocations calls) initial history middle)
    (goesOn : Runs (Server.stepping RevocationsApart) middle later server) (sessionId : UUID)
    : (∀ i j,
          ReportsRevoked sessionId (server.progress i)
          → ReportsRevoked sessionId (server.progress j)
          → i = j)
      ∧ ((∃ sess, middle.db.sessionById sessionId = some sess ∧ sess.revokedAt ≠ none)
          → revocationColumns sessionId server.db = revocationColumns sessionId middle.db) := by
  have apart := revocations_checksApart calls initial sessionId
  have reached := ran.append goesOn
  refine ⟨?_, ?_⟩
  · intro i j first second
    exact (apart.raceFree reached).once i j (first.settled reached) (second.settled reached)
  · rintro ⟨sess, found, revoked⟩
    obtain ⟨stored, id⟩ := findBy_sound found
    have taken : Revoked sessionId middle.db := by
      intro row member same
      exact eq_of_key_eq middle.db.sessionIds member stored (same.trans id.symm) ▸ revoked
    exact apart.frozen (fun i => (calls i).only (revocation_leaves sessionId)) ran taken goesOn

/-- Two revocations of the session of the sample user. -/
def sampleRevocations (i : Fin 2) : RevocationCall :=
  match i with
  | 0 => .revoke (minutes 10) 1 "logout"
  | 1 => .revoke (minutes 20) 1 "admin"

/-- Of two revocations, the second one started after the first has ended, the first one stays. -/
theorem successive_revocations_revoke_once
    : ∃ history later middle server,
        Interleavings RevocationsApart (revocations sampleRevocations) (signedIn .cookie)
            history middle
        ∧ Runs (Server.stepping RevocationsApart) middle later server
        ∧ ReportsRevoked 1 (middle.progress 0)
        ∧ (server.progress 1).outcome.isSome
        ∧ revocationColumns 1 server.db = revocationColumns 1 middle.db := by
  have sound
      : ∀ (server : RevocationServer 2) i, server.clear i = true → RevocationsApart server i :=
    fun server i clear sessionId => Server.clear_apart sessionId server i clear
  have checked
      : (Server.play Server.clear (.initial (signedIn .cookie) (revocations sampleRevocations))
            [0, 0, 0]).any
          (fun middle =>
            decide ((middle.progress 0).outcome = some (.ok (.revoked 1 true)))
              && (middle.db.sessionById 1).any (fun sess => sess.revokedAt ≠ none)
              && (Server.play Server.clear middle [1, 1]).any
                (fun server => (server.progress 1).outcome.isSome))
        = true := by
    decide
  obtain ⟨middle, ran, found⟩ := Server.play_finds sound checked
  obtain ⟨found, later⟩ := Bool.and_eq_true_iff.mp found
  obtain ⟨reported, read⟩ := Bool.and_eq_true_iff.mp found
  obtain ⟨server, goesOn, ended⟩ := Server.play_finds sound later
  obtain ⟨sess, found, revoked⟩ := (Option.any_eq_true _ _).mp read
  obtain ⟨_, frozen⟩ := revocations_apart_revoke_once 2 sampleRevocations (signedIn .cookie) _ _
    middle server ran goesOn 1
  exact ⟨_, _, middle, server, ran, goesOn, ⟨_, of_decide_eq_true reported, rfl, rfl⟩, ended,
    frozen ⟨sess, found, of_decide_eq_true revoked⟩⟩

/-- Two revocations that both read the session before either writes it both report it, and the
second one overwrites the time and the reason.
-/
theorem overlapping_revocations_revoke_twice
    : ∃ history later middle server,
        Interleavings Server.unguarded (revocations sampleRevocations) (signedIn .cookie)
            history middle
        ∧ Runs (Server.stepping Server.unguarded) middle later server
        ∧ ReportsRevoked 1 (server.progress 0)
        ∧ ReportsRevoked 1 (server.progress 1)
        ∧ revocationColumns 1 middle.db = some (some (minutes 10), some "logout")
        ∧ revocationColumns 1 server.db = some (some (minutes 20), some "admin") := by
  have checked
      : (Server.play (fun _ _ => true)
            (.initial (signedIn .cookie) (revocations sampleRevocations)) [0, 0, 1, 0]).any
          (fun middle =>
            decide (revocationColumns 1 middle.db = some (some (minutes 10), some "logout"))
              && (Server.play (fun _ _ => true) middle [1, 1]).any
                (fun server =>
                  decide
                    ((server.progress 0).outcome = some (.ok (.revoked 1 true))
                      ∧ (server.progress 1).outcome = some (.ok (.revoked 1 true))
                      ∧ revocationColumns 1 server.db
                        = some (some (minutes 20), some "admin"))))
        = true := by
    decide
  obtain ⟨middle, ran, found⟩ := Server.play_finds (fun _ _ _ => trivial) checked
  obtain ⟨first, later⟩ := Bool.and_eq_true_iff.mp found
  obtain ⟨server, goesOn, found⟩ := Server.play_finds (fun _ _ _ => trivial) later
  obtain ⟨left, right, second⟩ := of_decide_eq_true found
  exact ⟨_, _, middle, server, ran, goesOn, ⟨_, left, rfl, rfl⟩, ⟨_, right, rfl, rfl⟩,
    of_decide_eq_true first, second⟩

end SpecterCloud.Auth
