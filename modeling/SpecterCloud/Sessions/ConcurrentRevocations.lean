import SpecterCloud.Sessions.Transactions
import SpecterCloud.Sessions.Logout
import Mathlib.Data.Fintype.Basic

/-! Lookups and revocations that run concurrently. A lookup writes no column of a revocation, so
a committed revocation stays.
-/

namespace SpecterCloud.Auth

open SpecterCloud.Foundations
open SpecterCloud.Models
open SpecterCloud.Core
open SpecterCloud.Api

/-- A call that revokes sessions. -/
inductive RevocationCall
  | revoke (now : Instant) (sessionId : UUID) (reason : String)
  | revokeAll (now : Instant) (userId : UUID) (reason : String)
      (transport : Option SessionTransport)

/-- The answer of a revocation, with the sessions that it is about. -/
inductive RevocationAnswer
  | revoked (sessionId : UUID) (transitioned : Bool)
  | revokedAll (counted : List Session)
deriving DecidableEq

/-- The answer reports the session as revoked by its call. -/
def RevocationAnswer.Reports (sessionId : UUID) : RevocationAnswer → Prop
  | revoked id transitioned => id = sessionId ∧ transitioned = true
  | revokedAll counted => sessionId ∈ counted.map Session.id

/-- The steps of a revocation. -/
def RevocationCall.steps : RevocationCall → SessionSteps RevocationAnswer
  | revoke now sessionId reason => (revokeSteps now sessionId reason).map (.revoked sessionId)
  | revokeAll now userId reason transport =>
      (revokeAllSteps now userId reason transport).map .revokedAll

/-- A call that reads or revokes sessions. -/
inductive SessionCall
  | lookup (now : Instant) (rawToken : String)
  | revocation (call : RevocationCall)

inductive SessionReply
  | looked (found : Option Session)
  | revocation (answer : RevocationAnswer)
deriving DecidableEq

/-- The steps of a call. -/
def SessionCall.steps (runtime : Runtime) : SessionCall → SessionSteps SessionReply
  | lookup now rawToken => (lookupSteps runtime now rawToken).map .looked
  | revocation call => call.steps.map .revocation

-----------------------------------------------------------------------------------------
-- What the calls send
-----------------------------------------------------------------------------------------

section Sent

variable {allowed : Statement Database UUID Raised → Prop}

/-- A revocation sends nothing but UPDATEs that revoke. -/
theorem RevocationCall.only (call : RevocationCall)
    (revokes
      : ∀ sessionId now reason,
          allowed (updateSessionStatement sessionId (revocation now reason)))
    : call.steps.Only allowed := by
  cases call with
  | revoke now sessionId reason =>
      refine Transaction.Only.map ?_ _
      intro db
      dsimp only
      cases db.sessionById sessionId with
      | none => trivial
      | some sess =>
          dsimp only
          split
          · trivial
          · exact ⟨revokes _ _ _, trivial⟩
  | revokeAll now userId reason transport =>
      refine Transaction.Only.map ?_ _
      intro db
      dsimp only
      split
      · trivial
      · refine Transaction.only_executeAll ?_ trivial
        intro statement member
        obtain ⟨sess, _, rfl⟩ := List.mem_map.mp member
        exact revokes _ _ _

/-- A lookup sends nothing but an UPDATE of `last_seen_at`. -/
theorem lookupSteps_only (runtime : Runtime) (now : Instant) (rawToken : String)
    (touches
      : ∀ sessionId, allowed (updateSessionStatement sessionId { lastSeenAt := some now }))
    : (lookupSteps runtime now rawToken).Only allowed := by
  unfold lookupSteps
  split
  · trivial
  intro db
  dsimp only
  cases db.sessionByTokenHash (hashToken runtime rawToken) with
  | none => trivial
  | some sess =>
      by_cases live : Live now sess
      · rw [lookupFound_live live]
        split
        · exact ⟨touches _, trivial⟩
        · trivial
      · rw [lookupFound_dead live]
        trivial

/-- Calls on sessions persist. -/
theorem SessionCall.persists (runtime : Runtime) (call : SessionCall)
    : (call.steps runtime).Only (fun statement => Advances SessionsPersist statement.run) := by
  cases call with
  | lookup now rawToken =>
      refine Transaction.Only.map ?_ _
      exact lookupSteps_only runtime now rawToken fun sessionId => persist_touch sessionId now
  | revocation call =>
      refine Transaction.Only.map ?_ _
      exact call.only fun sessionId now reason => persist_revocation sessionId now reason

end Sent

-----------------------------------------------------------------------------------------
-- Revocations stay
-----------------------------------------------------------------------------------------

section Stay

variable {runtime : Runtime} {n : Nat} {calls : Fin n → SessionCall} {initial : Database}
  {history later : List (Fin n)}
  {middle server after : Server (Fin n) Database UUID Raised SessionReply} {i : Fin n}

/-- The call is not past its query, or it answers that the token has no live session. -/
inductive AnsweredByNothing (start : SessionSteps SessionReply)
    : Progress Database UUID Raised SessionReply → Prop
  | start : AnsweredByNothing start (.running [] start)
  | leaving : AnsweredByNothing start (.running [] (.leave (.ok (.looked none))))
  | ended : AnsweredByNothing start (.ended (.ok (.looked none)))

/-- A move of a lookup while its token has no live session. -/
theorem AnsweredByNothing.step {now : Instant} {rawToken : String}
    (before
      : AnsweredByNothing ((SessionCall.lookup now rawToken).steps runtime) (server.progress i))
    (missing : liveSession runtime now rawToken server.db = none) (moves : server.Moves i after)
    : AnsweredByNothing ((SessionCall.lookup now rawToken).steps runtime)
        (after.progress i) := by
  generalize reached : server.progress i = progress at before
  cases before with
  | start =>
      by_cases empty : rawToken = ""
      · have leaves
            : (SessionCall.lookup now rawToken).steps runtime
              = .leave (.ok (.looked none)) := by
          simp only [SessionCall.steps, lookupSteps, if_pos empty]
          rfl
        rw [leaves] at reached
        rw [moves.left reached]
        exact .ended
      · have selects
            : (SessionCall.lookup now rawToken).steps runtime
              = .select fun db =>
                  (lookupFound now
                    (db.sessionByTokenHash (hashToken runtime rawToken))).map .looked := by
          simp only [SessionCall.steps, lookupSteps, if_neg empty]
          rfl
        rw [selects] at reached
        have answered := lookupFound_missing empty missing
        rw [moves.selected reached]
        simp only [overlay, List.foldl_nil, answered]
        exact .leaving
  | leaving =>
      rw [moves.left reached]
      exact .ended
  | ended =>
      obtain ⟨sent, rest, running⟩ := moves.running
      cases reached.symm.trans running

end Stay

/-- In every interleaving of lookups and revocations, from every state in which a session is
revoked on: it is revoked in every committed state, and a lookup of its token whose query comes
after that state answers nothing, whatever other lookups have read before.
-/
theorem revocation_never_undone (runtime : Runtime) (n : Nat) (calls : Fin n → SessionCall)
    (initial : Database) (history later : List (Fin n))
    (middle server : Server (Fin n) Database UUID Raised SessionReply)
    (ran
      : Interleavings Server.unguarded (fun i => (calls i).steps runtime) initial history
          middle)
    (goesOn : Runs (Server.stepping Server.unguarded) middle later server)
    (sess : Session) (stored : sess ∈ middle.db.sessions) (revoked : sess.revokedAt ≠ none)
    : (∃ row, server.db.sessionById sess.id = some row ∧ row.revokedAt ≠ none)
      ∧ ∀ i now rawToken,
          calls i = .lookup now rawToken
          → hashToken runtime rawToken = sess.tokenHash
          → i ∉ history
          → AnsweredByNothing ((calls i).steps runtime) (server.progress i) := by
  have only := Interleavings.only (fun i => (calls i).persists runtime) ran
  have persist
      : ∀ {later server},
          Runs (Server.stepping Server.unguarded) middle later server
          → SessionsPersist middle.db server.db :=
    fun goesOn => Server.grows SessionsPersist.refl SessionsPersist.trans only goesOn
  refine ⟨?_, ?_⟩
  · obtain ⟨row, kept, id, _, still⟩ := persist goesOn sess stored
    exact ⟨row, (findBy_eq_some_iff server.db.sessionIds).mpr ⟨kept, id⟩, still revoked⟩
  · intro i now rawToken call token absent
    have unsent := ran.unstarted absent
    have found : middle.db.sessionByTokenHash (hashToken runtime rawToken) = some sess :=
      (findBy_eq_some_iff middle.db.sessionTokenHashes).mpr ⟨stored, token.symm⟩
    simp only [call] at unsent ⊢
    refine Runs.invariant
      (fun _ server =>
        AnsweredByNothing ((SessionCall.lookup now rawToken).steps runtime)
          (server.progress i))
      (unsent ▸ .start) ?_ goesOn
    intro later server j after goesOn before stepped
    have moves := Server.advance_moves stepped.1
    by_cases same : i = j
    · subst same
      exact before.step ((persist goesOn).rejects found revoked) moves
    · rw [moves.others same]
      exact before

/-- A lookup reads a session that a revocation then revokes, and another lookup reads it after. -/
def sampleSessionCalls (i : Fin 3) : SessionCall :=
  match i with
  | 0 => .lookup (minutes 10) "a"
  | 1 => .revocation (.revoke (minutes 10) 1 "logout")
  | 2 => .lookup (minutes 10) "a"

/-- The first lookup commits `last_seen_at` after the revocation, which stays; the second one
finds nothing.
-/
theorem touched_session_stays_revoked
    : ∃ history server,
        Interleavings Server.unguarded
            (fun i => (sampleSessionCalls i).steps sampleRuntime) (signedIn .cookie) history
            server
        ∧ (server.progress 0).outcome.isSome
        ∧ (∃ row,
            server.db.sessionById 1 = some row
            ∧ row.lastSeenAt = minutes 10 ∧ row.revokedAt ≠ none)
        ∧ AnsweredByNothing ((sampleSessionCalls 2).steps sampleRuntime)
            (server.progress 2) := by
  have checked
      : (Server.play (fun _ _ => true)
            (.initial (signedIn .cookie)
              (fun i => (sampleSessionCalls i).steps sampleRuntime)) [1, 1, 1, 0]).any
          (fun middle =>
            (middle.db.sessionById 1).any
                (fun sess =>
                  sess.tokenHash = hashToken sampleRuntime "a" ∧ sess.revokedAt ≠ none)
              && (Server.play (fun _ _ => true) middle [2, 2, 0, 0]).any
                (fun server =>
                  (server.progress 0).outcome.isSome
                  && (server.db.sessionById 1).any (fun row => row.lastSeenAt = minutes 10)))
        = true := by
    decide
  obtain ⟨middle, ran, found⟩ := Server.play_finds (fun _ _ _ => trivial) checked
  obtain ⟨found, later⟩ := Bool.and_eq_true_iff.mp found
  obtain ⟨server, goesOn, after⟩ := Server.play_finds (fun _ _ _ => trivial) later
  obtain ⟨ended, touched⟩ := Bool.and_eq_true_iff.mp after
  obtain ⟨sess, read, checks⟩ := (Option.any_eq_true _ _).mp found
  obtain ⟨token, revoked⟩ := of_decide_eq_true checks
  obtain ⟨stored, id⟩ := findBy_sound read
  obtain ⟨⟨row, kept, still⟩, answered⟩ :=
    revocation_never_undone sampleRuntime 3 sampleSessionCalls (signedIn .cookie) _ _ middle
      server ran goesOn sess stored revoked
  obtain ⟨seen, readAfter, lastSeen⟩ := (Option.any_eq_true _ _).mp touched
  rw [id] at kept
  obtain rfl := Option.some.inj (readAfter.symm.trans kept)
  exact ⟨_, server, Interleavings.append ran goesOn, ended,
    ⟨seen, readAfter, of_decide_eq_true lastSeen, still⟩,
    answered 2 (minutes 10) "a" rfl token.symm (by decide)⟩

end SpecterCloud.Auth
