import SpecterCloud.Sessions.KeptRelations

/-! No operation of the application removes a session or takes a revocation back. -/

namespace SpecterCloud.Auth

open SpecterCloud.Foundations
open SpecterCloud.Models
open SpecterCloud.Core
open SpecterCloud.Api

/-- Every session stays, under its id and its token hash, and revoked if it was revoked. -/
def SessionsPersist (before after : Database) : Prop :=
  ∀ old ∈ before.sessions, ∃ new ∈ after.sessions,
    new.id = old.id
    ∧ new.tokenHash = old.tokenHash
    ∧ (old.revokedAt ≠ none → new.revokedAt ≠ none)

theorem SessionsPersist.of_eq {before after : Database}
    (same : after.sessions = before.sessions)
    : SessionsPersist before after :=
  fun old stored => ⟨old, same ▸ stored, rfl, rfl, id⟩

theorem SessionsPersist.refl (db : Database) : SessionsPersist db db := .of_eq rfl

theorem SessionsPersist.trans (a b c : Database) (first : SessionsPersist a b)
    (second : SessionsPersist b c)
    : SessionsPersist a c := by
  intro old stored
  obtain ⟨middle, kept, id, tokenHash, revoked⟩ := first old stored
  obtain ⟨new, keptAgain, idAgain, tokenHashAgain, revokedAgain⟩ := second middle kept
  exact ⟨new, keptAgain, idAgain.trans id, tokenHashAgain.trans tokenHash,
    revokedAgain ∘ revoked⟩

/-- An update of a session persists unless it writes NULL to `revoked_at`. -/
theorem persist_updateSession (sessionId : UUID) {columns : SessionColumns}
    (keeps : columns.revokedAt ≠ some none)
    : Advances SessionsPersist (Database.updateSession sessionId columns) := by
  intro db next ran old stored
  obtain rfl := Database.updateSession_ok ran
  refine ⟨if old.id = sessionId then columns.write old else old,
    mem_rewriteWhere.mpr ⟨old, stored, by simp⟩, ?_⟩
  split
  · refine ⟨rfl, rfl, ?_⟩
    intro revoked
    cases written : columns.revokedAt with
    | none => simpa [SessionColumns.write, written] using revoked
    | some value =>
        intro cleared
        have none_ : value = none := by simpa [SessionColumns.write, written] using cleared
        exact keeps (none_ ▸ written)
  · exact ⟨rfl, rfl, id⟩

theorem persist_touch (sessionId : UUID) (now : Instant)
    : Advances SessionsPersist (Database.updateSession sessionId { lastSeenAt := some now }) :=
  persist_updateSession sessionId (by simp)

theorem persist_revocation (sessionId : UUID) (now : Instant) (reason : String)
    : Advances SessionsPersist (Database.updateSession sessionId (revocation now reason)) :=
  persist_updateSession sessionId (by simp [revocation])

theorem persist_updateUser (id : UUID) (columns : UserColumns) (now : Instant)
    : Advances SessionsPersist (Database.updateUser id columns now) := by
  intro db next ran
  obtain rfl := Database.updateUser_ok ran
  exact .of_eq rfl

/-- Every statement of a request persists. -/
theorem SessionsPersist.kept : KeptByRequests SessionsPersist where
  refl := SessionsPersist.refl
  trans := SessionsPersist.trans
  insertSession := by
    intro row db next ran
    obtain ⟨accepted, rfl⟩ := Database.insertSession_ok ran
    exact fun old stored => ⟨old, List.mem_append_left _ stored, rfl, rfl, id⟩
  insertAuditLog := by
    intro row db next ran
    obtain rfl := Database.insertAuditLog_ok ran
    exact .of_eq rfl
  revoke := fun sessionId now reason => persist_revocation sessionId now reason

-----------------------------------------------------------------------------------------
-- The operations
-----------------------------------------------------------------------------------------

/-- A request to the application, or a change of the database outside the sessions. -/
inductive Operation
  | createSession (draws : Draws) (now : Instant) (userId : UUID)
      (transport : SessionTransport) (userAgent : Option String)
      (ipAddress : Option IpAddress)
  | lookupSession (now : Instant) (token : String)
  | revokeSession (now : Instant) (sessionId : UUID) (reason : String)
  | revokeAllUserSessions (now : Instant) (userId : UUID) (reason : String)
      (transport : Option SessionTransport)
  | login (draws : Draws) (now : Instant) (payload : LoginRequest) (request : Request)
  | currentUser (now : Instant) (cookieToken authorization : Option String)
  | logout (now : Instant) (cookieToken authorization : Option String)
  | other (change : Database → Database)
      (untouched : ∀ db, (change db).sessions = db.sessions)

/-- The database after an operation; whoever creates a session also commits it. -/
def Operation.apply (runtime : Runtime) (db : Database) : Operation → Database
  | createSession draws now userId transport userAgent ipAddress =>
      (Action.perform
        (do
          let _ ← Auth.createSession runtime draws now userId transport userAgent ipAddress
          Action.commit)
        db).2
  | lookupSession now token => ((Auth.lookupSession runtime now token).perform db).2
  | revokeSession now sessionId reason =>
      ((Auth.revokeSession now sessionId reason).perform db).2
  | revokeAllUserSessions now userId reason transport =>
      ((Auth.revokeAllUserSessions now userId reason transport).perform db).2
  | login draws now payload request =>
      ((Api.login runtime draws now payload request).perform db).2
  | currentUser now cookieToken authorization =>
      ((getCurrentUser runtime now cookieToken authorization).perform db).2
  | logout now cookieToken authorization =>
      ((logoutRequest runtime now cookieToken authorization).perform db).2
  | other change _ => change db

/-- What all statements keep is kept by an operation that is neither a login nor a change of
something else.
-/
theorem Operation.grows {Grows : Database → Database → Prop} (kept : KeptByRequests Grows)
    (touches : KeptByTouch Grows) {runtime : Runtime} {db : Database} {operation : Operation}
    (logins
      : ∀ draws now payload request,
          operation = .login draws now payload request
          → Grows db (operation.apply runtime db))
    (others
      : ∀ change untouched, operation = .other change untouched → Grows db (change db))
    : Grows db (operation.apply runtime db) := by
  cases operation with
  | createSession draws now userId transport userAgent ipAddress =>
      have created :=
        createSession_respects kept runtime draws now userId transport userAgent ipAddress
      exact (created.bind fun _ => Action.Respects.commit kept.trans).perform kept.refl db
  | lookupSession now token =>
      exact (lookupSession_respects kept runtime now touches token).perform kept.refl db
  | revokeSession now sessionId reason =>
      exact (revokeSession_respects kept now sessionId reason).perform kept.refl db
  | revokeAllUserSessions now userId reason transport =>
      exact (revokeAllUserSessions_respects kept now userId reason transport).perform kept.refl
        db
  | login draws now payload request => exact logins draws now payload request rfl
  | currentUser now cookieToken authorization =>
      have dependency :=
        getCurrentUser_respects kept runtime now touches cookieToken authorization
      exact dependency.perform kept.refl db
  | logout now cookieToken authorization =>
      have dependency :=
        getCurrentUser_respects kept runtime now touches cookieToken authorization
      exact (dependency.bind fun user => logout_respects kept runtime now user
        cookieToken).perform kept.refl db
  | other change untouched => exact others change untouched rfl

/-- One operation keeps every session and every revocation. -/
theorem Operation.persists (runtime : Runtime) (db : Database) (operation : Operation)
    : SessionsPersist db (operation.apply runtime db) := by
  have kept := SessionsPersist.kept
  refine Operation.grows kept persist_touch ?_ ?_
  · rintro draws now payload request rfl
    have attempted :=
      attemptLogin_respects kept persist_updateUser runtime draws now
        (loginAttempt payload request)
    exact (attempted.bind (answerLogin_respects kept runtime payload request)).perform kept.refl db
  · rintro change untouched rfl
    exact .of_eq (untouched db)

/-- So do any number of them, by induction on the operations. -/
theorem operations_persist (runtime : Runtime) (operations : List Operation) (db : Database)
    : SessionsPersist db (operations.foldl (Operation.apply runtime) db) := by
  induction operations generalizing db with
  | nil => exact .refl db
  | cons operation rest ih =>
      exact SessionsPersist.trans _ _ _ (operation.persists runtime db) (ih _)

/-- The token of a revoked session has no live session, now and ever after. -/
theorem SessionsPersist.rejects {runtime : Runtime} {now : Instant} {token : String}
    {before after : Database} {sess : Session} (persist : SessionsPersist before after)
    (found : before.sessionByTokenHash (hashToken runtime token) = some sess)
    (revoked : sess.revokedAt ≠ none)
    : liveSession runtime now token after = none := by
  obtain ⟨stored, hash⟩ := findBy_sound found
  obtain ⟨new, kept, _, tokenHash, still⟩ := persist sess stored
  have foundAgain : after.sessionByTokenHash (hashToken runtime token) = some new :=
    (findBy_eq_some_iff after.sessionTokenHashes).mpr ⟨kept, tokenHash.trans hash⟩
  have dead : ¬ Live now new := fun live => still revoked live.unrevoked
  unfold liveSession
  rw [foundAgain]
  simp [dead]

end SpecterCloud.Auth
