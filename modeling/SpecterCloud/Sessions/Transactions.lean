import SpecterCloud.Foundations.ActionSteps
import SpecterCloud.Auth.Sessions

/-! Calls on sessions as the steps of transactions, each in a request session of its own. A flush
writes only the columns that were changed.
-/

namespace SpecterCloud.Auth

open SpecterCloud.Foundations
open SpecterCloud.Models
open SpecterCloud.Core

/-- The UPDATE of a session locks its row. -/
def updateSessionStatement (sessionId : UUID) (columns : SessionColumns)
    : Statement Database UUID Raised where
  locks := [⟨sessionId, true⟩]
  run := Database.updateSession sessionId columns

/-- The UPDATEs that revoke the sessions. -/
def revocationStatements (now : Instant) (reason : String) (sessions : List Session)
    : List (Statement Database UUID Raised) :=
  sessions.map (fun sess => updateSessionStatement sess.id (revocation now reason))

/-- The steps of a call on sessions. -/
abbrev SessionSteps (α : Type) := Transaction Database UUID Raised α

section Steps

variable (runtime : Runtime) (now : Instant)

/-- `lookup_session`, once the row of the token is read. -/
def lookupFound : Option Session → SessionSteps (Option Session)
  | none => .leave (.ok none)
  | some sess =>
      if sess.revokedAt ≠ none then
        .leave (.ok none)
      else if now > sess.expiresAt then
        .leave (.ok none)
      else if sess.lastSeenAt < now - days idleTimeoutDays then
        .leave (.ok none)
      else if now - sess.lastSeenAt > minutes lastSeenDebounceMinutes then
        .execute (updateSessionStatement sess.id { lastSeenAt := some now })
          (.commit (some { sess with lastSeenAt := now }))
      else
        .leave (.ok (some sess))

/-- `lookup_session`, as the steps of a transaction. -/
def lookupSteps (rawToken : String) : SessionSteps (Option Session) :=
  if rawToken = "" then
    .leave (.ok none)
  else
    .select fun db => lookupFound now (db.sessionByTokenHash (hashToken runtime rawToken))

/-- `revoke_session`, as the steps of a transaction. -/
def revokeSteps (sessionId : UUID) (reason : String) : SessionSteps Bool :=
  .select fun db =>
    match db.sessionById sessionId with
    | none => .leave (.ok false)
    | some sess =>
        if sess.revokedAt ≠ none then
          .leave (.ok false)
        else
          .execute (updateSessionStatement sess.id (revocation now reason)) (.commit true)

/-- `revoke_all_user_sessions`, as the steps of a transaction that ends with the sessions that
the call counts.
-/
def revokeAllSteps (userId : UUID) (reason : String) (transport : Option SessionTransport)
    : SessionSteps (List Session) :=
  .select fun db =>
    let sessions := activeSessions userId transport db
    if sessions = [] then
      .leave (.ok [])
    else
      .executeAll (revocationStatements now reason sessions) (.commit sessions)

end Steps

-----------------------------------------------------------------------------------------
-- Alone, the steps are the calls
-----------------------------------------------------------------------------------------

section Alone

variable {runtime : Runtime} {now : Instant} {rawToken reason : String} {db : Database}

/-- A row that is not live is answered by nothing. -/
theorem lookupFound_dead {sess : Session} (dead : ¬ Live now sess)
    : lookupFound now (some sess) = .leave (.ok none) := by
  simp only [lookupFound]
  split
  · rfl
  rename_i unrevoked
  split
  · rfl
  rename_i unexpired
  split
  · rfl
  rename_i recent
  exact absurd ⟨not_not.mp unrevoked, Int.not_lt.mp unexpired, Int.not_lt.mp recent⟩ dead

/-- A live row is answered, and touched if it is stale. -/
theorem lookupFound_live {sess : Session} (live : Live now sess)
    : lookupFound now (some sess)
      = if Stale now sess then
          .execute (updateSessionStatement sess.id { lastSeenAt := some now })
            (.commit (some { sess with lastSeenAt := now }))
        else
          .leave (.ok (some sess)) := by
  simp only [lookupFound]
  rw [if_neg (not_not.mpr live.unrevoked), if_neg (Int.not_lt.mpr live.unexpired),
    if_neg (Int.not_lt.mpr live.recent)]
  rfl

/-- After a query that finds no live session, nothing is done. -/
theorem lookupFound_missing (present : rawToken ≠ "")
    (missing : liveSession runtime now rawToken db = none)
    : lookupFound now (db.sessionByTokenHash (hashToken runtime rawToken))
      = .leave (.ok none) := by
  rw [liveSession, if_neg present] at missing
  cases found : db.sessionByTokenHash (hashToken runtime rawToken) with
  | none => rfl
  | some sess =>
      rw [found] at missing
      exact lookupFound_dead (by simpa using missing)

/-- A lookup takes its steps. -/
theorem lookupSession_steps (runtime : Runtime) (now : Instant) (rawToken : String)
    : (lookupSession runtime now rawToken).TakesSteps (lookupSteps runtime now rawToken) := by
  refine Action.TakesSteps.choice (fun _ => .pure none) fun _ => ?_
  refine Action.TakesSteps.read fun db => ?_
  cases db.sessionByTokenHash (hashToken runtime rawToken) with
  | none => exact .pure none
  | some sess =>
      refine .choice (fun _ => .pure none) fun _ => ?_
      refine .choice (fun _ => .pure none) fun _ => ?_
      refine .choice (fun _ => .pure none) fun _ => ?_
      refine .choice (fun _ => ?_) fun _ => .pure (some sess)
      exact .committedOne (updateSessionStatement sess.id { lastSeenAt := some now }) _

/-- A revocation takes its steps. -/
theorem revokeSession_steps (now : Instant) (sessionId : UUID) (reason : String)
    : (revokeSession now sessionId reason).TakesSteps (revokeSteps now sessionId reason) := by
  refine Action.TakesSteps.read fun db => ?_
  cases db.sessionById sessionId with
  | none => exact .pure false
  | some sess =>
      refine .choice (fun _ => .pure false) fun _ => ?_
      exact .committedOne (updateSessionStatement sess.id (revocation now reason)) true

/-- The revocation of a user's sessions takes its steps, and answers by their number. -/
theorem revokeAllUserSessions_steps (now : Instant) (userId : UUID) (reason : String)
    (transport : Option SessionTransport)
    : (revokeAllUserSessions now userId reason transport).TakesSteps
        ((revokeAllSteps now userId reason transport).map List.length) := by
  refine Action.TakesSteps.read fun db => ?_
  dsimp only
  by_cases idle : activeSessions userId transport db = []
  · rw [if_pos idle, if_pos idle]
    exact .pure 0
  · rw [if_neg idle, if_neg idle]
    have statements
        : (revocationStatements now reason (activeSessions userId transport db)).map
            Statement.run
          = (activeSessions userId transport db).map
              (fun sess => Database.updateSession sess.id (revocation now reason)) := by
      simp [revocationStatements, updateSessionStatement]
    rw [Transaction.map_executeAll, ← statements]
    exact .committedAll _ _

end Alone

end SpecterCloud.Auth
