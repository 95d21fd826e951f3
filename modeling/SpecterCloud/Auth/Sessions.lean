import SpecterCloud.Core.Runtime

/-! Server-side sessions: creation, lookup by token, and revocation. A call happens at one
instant, which both the application and the database read from their clocks.
-/

namespace SpecterCloud.Auth

open SpecterCloud.Foundations
open SpecterCloud.Models
open SpecterCloud.Core

/-- `SESSION_TTL_DAYS`. -/
def sessionTtlDays : Int := 30

/-- `IDLE_TIMEOUT_DAYS`. -/
def idleTimeoutDays : Int := 7

/-- `LAST_SEEN_DEBOUNCE_MINUTES`. -/
def lastSeenDebounceMinutes : Int := 5

/-- `_hash_token`. -/
def hashToken (runtime : Runtime) (raw : String) : String := runtime.sha256Hex raw

/-- `generate_token`: the drawn token and its hash. -/
def generateToken (runtime : Runtime) (draws : Draws) : String × String :=
  (draws.token, hashToken runtime draws.token)

/-- The row that `create_session` adds; `created_at` and `last_seen_at` default to `now()`. -/
def newSession (runtime : Runtime) (draws : Draws) (now : Instant) (userId : UUID)
    (transport : SessionTransport) (userAgent : Option String) (ipAddress : Option IpAddress)
    : Session :=
  {
    id := draws.sessionId
    userId
    tokenHash := (generateToken runtime draws).2
    transport
    userAgent
    ipAddress
    createdAt := now
    expiresAt := now + days sessionTtlDays
    lastSeenAt := now
    revokedAt := none
    revokedReason := none
  }

/-- `create_session`: the raw token and the row, flushed but not committed. -/
def createSession (runtime : Runtime) (draws : Draws) (now : Instant) (userId : UUID)
    (transport : SessionTransport) (userAgent : Option String) (ipAddress : Option IpAddress)
    : DbAction (String × Session) := do
  let sess := newSession runtime draws now userId transport userAgent ipAddress
  Action.add (Database.insertSession sess)
  Action.flush
  return ((generateToken runtime draws).1, sess)

/-- `lookup_session`. -/
def lookupSession (runtime : Runtime) (now : Instant) (rawToken : String)
    : DbAction (Option Session) :=
  if rawToken = "" then
    return none
  else do
    let tokenHash := hashToken runtime rawToken
    match ← Action.select (fun db => .ok (db.sessionByTokenHash tokenHash)) with
    | none => return none
    | some sess =>
        if sess.revokedAt ≠ none then
          return none
        else if now > sess.expiresAt then
          return none
        else if sess.lastSeenAt < now - days idleTimeoutDays then
          return none
        else if now - sess.lastSeenAt > minutes lastSeenDebounceMinutes then do
          Action.add (Database.updateSession sess.id { lastSeenAt := some now })
          Action.commit
          return some { sess with lastSeenAt := now }
        else
          return some sess

/-- The columns that a revocation writes. -/
def revocation (now : Instant) (reason : String) : SessionColumns :=
  { revokedAt := some (some now), revokedReason := some (some reason) }

/-- `revoke_session`: whether the session went from active to revoked. -/
def revokeSession (now : Instant) (sessionId : UUID) (reason : String) : DbAction Bool := do
  match ← Action.select (fun db => .ok (db.sessionById sessionId)) with
  | none => return false
  | some sess =>
      if sess.revokedAt ≠ none then
        return false
      else do
        Action.add (Database.updateSession sess.id (revocation now reason))
        Action.commit
        return true

/-- The unrevoked sessions of a user, on one transport if it is given. -/
def activeSessions (userId : UUID) (transport : Option SessionTransport) (db : Database)
    : List Session :=
  db.sessions.filter
    (fun sess =>
      sess.userId = userId ∧ sess.revokedAt = none
      ∧ (transport = none ∨ transport = some sess.transport))

/-- `revoke_all_user_sessions`: how many sessions it revoked. -/
def revokeAllUserSessions (now : Instant) (userId : UUID) (reason : String)
    (transport : Option SessionTransport)
    : DbAction Nat := do
  let sessions ← Action.select (fun db => .ok (activeSessions userId transport db))
  if sessions = [] then
    return 0
  else do
    forM (sessions.map (fun sess => Database.updateSession sess.id (revocation now reason)))
      Action.add
    Action.commit
    return sessions.length

-----------------------------------------------------------------------------------------
-- What the calls do
-----------------------------------------------------------------------------------------

/-- The tests that a lookup makes on the row it has found. -/
structure Live (now : Instant) (sess : Session) : Prop where
  unrevoked : sess.revokedAt = none
  unexpired : now ≤ sess.expiresAt
  recent : now - days idleTimeoutDays ≤ sess.lastSeenAt

instance (now : Instant) (sess : Session) : Decidable (Live now sess) :=
  decidable_of_iff
    (sess.revokedAt = none ∧ now ≤ sess.expiresAt
      ∧ now - days idleTimeoutDays ≤ sess.lastSeenAt)
    ⟨fun ⟨a, b, c⟩ => ⟨a, b, c⟩, fun ⟨a, b, c⟩ => ⟨a, b, c⟩⟩

/-- The live session of a token. -/
def liveSession (runtime : Runtime) (now : Instant) (rawToken : String) (db : Database)
    : Option Session :=
  if rawToken = "" then
    none
  else
    (db.sessionByTokenHash (hashToken runtime rawToken)).filter (fun sess => Live now sess)

/-- The session was last seen too long ago to leave its row as it is. -/
def Stale (now : Instant) (sess : Session) : Prop :=
  now - sess.lastSeenAt > minutes lastSeenDebounceMinutes

instance (now : Instant) (sess : Session) : Decidable (Stale now sess) :=
  inferInstanceAs (Decidable (_ > _))

/-- The row as a lookup returns it. -/
def seen (now : Instant) (sess : Session) : Session :=
  if Stale now sess then { sess with lastSeenAt := now } else sess

/-- The database as a lookup that has found the session leaves it. -/
def touch (now : Instant) (sess : Session) (db : Database) : Database :=
  if Stale now sess then db.writeSession sess.id { lastSeenAt := some now } else db

section Calls

variable {runtime : Runtime} {now : Instant} {rawToken : String} {db : Database}

/-- The flush of a creation sends what waits, and the new row after it. -/
theorem createSession_run {draws : Draws} {userId : UUID} {transport : SessionTransport}
    {userAgent : Option String} {ipAddress : Option IpAddress} {committed view : Database}
    {pending : List (Database → Except Raised Database)}
    : let row := newSession runtime draws now userId transport userAgent ipAddress
      (createSession runtime draws now userId transport userAgent ipAddress).run
          { committed, view, pending, status := .active }
        = match runAll (pending ++ [Database.insertSession row]) view with
          | .ok next =>
              .ok (draws.token, row)
                { committed, view := next, pending := [], status := .active }
          | .error error =>
              .error error
                { committed, view := committed, pending := [], status := .inactive } := by
  intro row
  rw [createSession, EStateM.run_bind, Action.add_run]
  simp only [EStateM.run_bind, Action.flush_active]
  cases runAll (pending ++ [Database.insertSession row]) view <;> rfl

/-- A creation that the caller commits adds its row, if the database accepts it. -/
theorem createSession_commits {draws : Draws} {userId : UUID} {transport : SessionTransport}
    {userAgent : Option String} {ipAddress : Option IpAddress}
    (accepted
      : db.AcceptsSession (newSession runtime draws now userId transport userAgent ipAddress))
    : Action.Ends
        (do
          let created ← createSession runtime draws now userId transport userAgent ipAddress
          Action.commit
          return created)
        db
        (.ok (draws.token, newSession runtime draws now userId transport userAgent ipAddress))
        (db.withSession _ accepted) := by
  show EStateM.run _ (UnitOfWork.opened db) = _
  rw [EStateM.run_bind, UnitOfWork.opened, createSession_run, List.nil_append, runAll_cons,
    Database.insertSession_accepted accepted]
  rfl

/-- Otherwise the flush raises and nothing is committed. -/
theorem createSession_rejected {draws : Draws} {userId : UUID} {transport : SessionTransport}
    {userAgent : Option String} {ipAddress : Option IpAddress}
    (rejected
      : ¬ db.AcceptsSession (newSession runtime draws now userId transport userAgent ipAddress))
    : ∃ error,
        Action.Ends
          (do
            let created ← createSession runtime draws now userId transport userAgent ipAddress
            Action.commit
            return created)
          db (.error error) db := by
  obtain ⟨error, refused⟩ := Database.insertSession_rejected rejected
  refine ⟨error, { committed := db, view := db, pending := [], status := .inactive }, ?_, rfl⟩
  rw [EStateM.run_bind, UnitOfWork.opened, createSession_run, List.nil_append, runAll_cons,
    refused]
  rfl

/-- A token without a live session is answered by nothing, and nothing changes. -/
theorem lookupSession_rejects (missing : liveSession runtime now rawToken db = none)
    : (lookupSession runtime now rawToken).Ends db (.ok none) db := by
  unfold liveSession at missing
  unfold lookupSession
  by_cases empty : rawToken = ""
  · rw [if_pos empty]
    exact Action.Ends.pure _
  rw [if_neg empty] at missing ⊢
  refine Action.Ends.selected rfl ?_
  cases found : db.sessionByTokenHash (hashToken runtime rawToken) with
  | none => exact Action.Ends.pure _
  | some sess =>
      have dead : ¬ Live now sess := by simpa [found] using missing
      show Action.Ends (if _ then _ else _) db _ db
      split
      · exact Action.Ends.pure _
      rename_i unrevoked
      split
      · exact Action.Ends.pure _
      rename_i unexpired
      split
      · exact Action.Ends.pure _
      rename_i recent
      exact absurd ⟨not_not.mp unrevoked, Int.not_lt.mp unexpired, Int.not_lt.mp recent⟩ dead

/-- A live session is the stored row of a token that is not empty. -/
theorem liveSession_found {sess : Session}
    (found : liveSession runtime now rawToken db = some sess)
    : rawToken ≠ "" ∧ db.sessionByTokenHash (hashToken runtime rawToken) = some sess
      ∧ Live now sess := by
  unfold liveSession at found
  split at found
  · cases found
  · rename_i present
    obtain ⟨stored, live⟩ := Option.filter_eq_some_iff.mp found
    exact ⟨present, stored, by simpa using live⟩

/-- A token with a live session is answered by the session, last seen within the debounce. -/
theorem lookupSession_finds {sess : Session}
    (found : liveSession runtime now rawToken db = some sess)
    : (lookupSession runtime now rawToken).Ends db (.ok (some (seen now sess)))
        (touch now sess db) := by
  obtain ⟨present, stored, live⟩ := liveSession_found found
  unfold lookupSession
  rw [if_neg present]
  refine Action.Ends.selected rfl ?_
  simp only [stored]
  rw [if_neg (not_not.mpr live.unrevoked), if_neg (Int.not_lt.mpr live.unexpired),
    if_neg (Int.not_lt.mpr live.recent)]
  by_cases stale : Stale now sess
  · rw [seen, touch, if_pos stale, if_pos stale,
      if_pos (show now - sess.lastSeenAt > minutes lastSeenDebounceMinutes from stale)]
    exact Action.Ends.committed rfl (Action.Ends.pure _)
  · rw [seen, touch, if_neg stale, if_neg stale,
      if_neg (show ¬ now - sess.lastSeenAt > minutes lastSeenDebounceMinutes from stale)]
    exact Action.Ends.pure _

/-- After a lookup the token finds the row that the lookup returned. -/
theorem touch_sessionByTokenHash {sess : Session} {tokenHash : String}
    (found : db.sessionByTokenHash tokenHash = some sess)
    : (touch now sess db).sessionByTokenHash tokenHash = some (seen now sess) := by
  unfold touch seen
  split
  · rw [Database.writeSession_sessionByTokenHash, found]
    simp [SessionColumns.write]
  · exact found

theorem seen_id (now : Instant) (sess : Session) : (seen now sess).id = sess.id := by
  unfold seen
  split <;> rfl

theorem seen_revokedAt (now : Instant) (sess : Session)
    : (seen now sess).revokedAt = sess.revokedAt := by
  unfold seen
  split <;> rfl

/-- Revoking an absent or a revoked session changes nothing. -/
theorem revokeSession_idle {sessionId : UUID} {reason : String}
    (idle : ∀ sess, db.sessionById sessionId = some sess → sess.revokedAt ≠ none)
    : (revokeSession now sessionId reason).Ends db (.ok false) db := by
  unfold revokeSession
  refine Action.Ends.selected rfl ?_
  cases found : db.sessionById sessionId with
  | none => exact Action.Ends.pure _
  | some sess =>
      show Action.Ends (if _ then _ else _) db _ db
      rw [if_pos (idle sess found)]
      exact Action.Ends.pure _

/-- Revoking an active session writes the time and the reason, if the reason fits. -/
theorem revokeSession_revokes {sessionId : UUID} {reason : String} {sess : Session}
    (found : db.sessionById sessionId = some sess) (active : sess.revokedAt = none)
    (fits : FitsString 40 reason)
    : (revokeSession now sessionId reason).Ends db (.ok true)
        (db.writeSession sessionId (revocation now reason)) := by
  unfold revokeSession
  refine Action.Ends.selected rfl ?_
  simp only [found]
  rw [if_neg (not_not.mpr active)]
  obtain ⟨_, rfl⟩ := findBy_sound found
  exact Action.Ends.committed (if_pos fits) (Action.Ends.pure _)

/-- A reason that does not fit its column makes the commit raise. -/
theorem revokeSession_rejected {sessionId : UUID} {reason : String} {sess : Session}
    (found : db.sessionById sessionId = some sess) (active : sess.revokedAt = none)
    (fits : ¬ FitsString 40 reason)
    : (revokeSession now sessionId reason).Ends db (.error (.dataError "sessions")) db := by
  unfold revokeSession
  refine Action.Ends.selected rfl ?_
  simp only [found]
  rw [if_neg (not_not.mpr active)]
  exact Action.Ends.rejected (if_neg fits)

/-- The database with several sessions revoked, one statement after the other. -/
def revokeAll (now : Instant) (reason : String) (sessions : List Session) (db : Database)
    : Database :=
  sessions.foldl (fun db sess => db.writeSession sess.id (revocation now reason)) db

/-- Revoking several sessions is one update of their rows, by induction on the sessions. -/
theorem revokeAll_sessions {reason : String} (sessions : List Session) (db : Database)
    : (revokeAll now reason sessions db).sessions
      = rewriteWhere (fun row => row.id ∈ sessions.map Session.id) (revocation now reason).write
          db.sessions := by
  induction sessions generalizing db with
  | nil => simp [revokeAll, rewriteWhere]
  | cons sess rest ih =>
      have settled
          : ∀ row, (revocation now reason).write ((revocation now reason).write row)
              = (revocation now reason).write row :=
        fun _ => rfl
      have keeps
          : ∀ row, (decide (((revocation now reason).write row).id ∈ rest.map Session.id))
              = decide (row.id ∈ rest.map Session.id) :=
        fun _ => rfl
      calc (revokeAll now reason (sess :: rest) db).sessions
        _ = rewriteWhere (fun row => row.id ∈ rest.map Session.id) (revocation now reason).write
              (db.writeSession sess.id (revocation now reason)).sessions := ih _
        _ = rewriteWhere (fun row => decide (row.id = sess.id) || row.id ∈ rest.map Session.id)
              (revocation now reason).write db.sessions := by
          rw [Database.writeSession_sessions, rewriteWhere_rewriteWhere settled keeps]
        _ = _ := by
          congr 1
          funext row
          simp

/-- The selected sessions are the active ones of the user, on the transport if there is one. -/
theorem mem_activeSessions_id {userId : UUID} {transport : Option SessionTransport}
    {row : Session} (stored : row ∈ db.sessions)
    : row.id ∈ (activeSessions userId transport db).map Session.id
      ↔ row.userId = userId ∧ row.revokedAt = none
        ∧ (transport = none ∨ transport = some row.transport) := by
  have selected : row ∈ activeSessions userId transport db
      ↔ row.userId = userId ∧ row.revokedAt = none
        ∧ (transport = none ∨ transport = some row.transport) := by
    simp [activeSessions, stored]
  rw [← selected]
  constructor
  · intro member
    obtain ⟨other, active, same⟩ := List.mem_map.mp member
    have storedOther := (List.mem_filter.mp active).1
    exact eq_of_key_eq db.sessionIds storedOther stored same ▸ active
  · exact List.mem_map_of_mem

theorem runAll_updateSession {reason : String} (fits : FitsString 40 reason)
    (sessions : List Session) (db : Database)
    : runAll (sessions.map (fun sess => Database.updateSession sess.id (revocation now reason)))
        db
      = .ok (revokeAll now reason sessions db) := by
  induction sessions generalizing db with
  | nil => rfl
  | cons sess rest ih =>
      have ran
          : db.updateSession sess.id (revocation now reason)
            = .ok (db.writeSession sess.id (revocation now reason)) :=
        if_pos fits
      rw [List.map_cons, runAll_cons, ran]
      exact ih _

/-- Without an active session there is nothing to revoke. -/
theorem revokeAllUserSessions_idle {userId : UUID} {reason : String}
    {transport : Option SessionTransport} (idle : activeSessions userId transport db = [])
    : (revokeAllUserSessions now userId reason transport).Ends db (.ok 0) db := by
  unfold revokeAllUserSessions
  refine Action.Ends.selected rfl ?_
  rw [if_pos idle]
  exact Action.Ends.pure _

/-- Every active session that is selected gets the time and the reason, if the reason fits. -/
theorem revokeAllUserSessions_revokes {userId : UUID} {reason : String}
    {transport : Option SessionTransport} (some_ : activeSessions userId transport db ≠ [])
    (fits : FitsString 40 reason)
    : (revokeAllUserSessions now userId reason transport).Ends db
        (.ok (activeSessions userId transport db).length)
        (revokeAll now reason (activeSessions userId transport db) db) := by
  unfold revokeAllUserSessions
  refine Action.Ends.selected rfl ?_
  rw [if_neg some_]
  exact Action.Ends.committedAll (runAll_updateSession fits _ db) (Action.Ends.pure _)

/-- A reason that does not fit makes the commit raise, and no session is revoked. -/
theorem revokeAllUserSessions_rejected {userId : UUID} {reason : String}
    {transport : Option SessionTransport} (some_ : activeSessions userId transport db ≠ [])
    (fits : ¬ FitsString 40 reason)
    : (revokeAllUserSessions now userId reason transport).Ends db
        (.error (.dataError "sessions")) db := by
  unfold revokeAllUserSessions
  refine Action.Ends.selected rfl ?_
  rw [if_neg some_]
  obtain ⟨first, rest, selected⟩ := List.exists_cons_of_ne_nil some_
  rw [selected]
  refine Action.Ends.rejectedAll ?_
  have refused
      : db.updateSession first.id (revocation now reason) = .error (.dataError "sessions") :=
    if_neg fits
  rw [List.map_cons, runAll_cons, refused]
  rfl

end Calls

end SpecterCloud.Auth
