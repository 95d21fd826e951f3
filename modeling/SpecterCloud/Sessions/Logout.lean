import SpecterCloud.Sessions.Revocation

/-! Which logouts end the session that made the request. -/

namespace SpecterCloud.Api

open SpecterCloud.Foundations
open SpecterCloud.Models
open SpecterCloud.Core
open SpecterCloud.Auth

/-- The answer of every logout. -/
def loggedOut : LogoutResponse :=
  { detail := "logged out", deletedCookie := (sessionCookieName, "/") }

section Logout

variable {runtime : Runtime} {now : Instant} {user : User} {db : Database}

theorem logoutEntry_accepted (known : user.id ∈ db.users.map User.id)
    : db.AcceptsAuditLog (logoutEntry user) := by
  have texts : FitsString 60 "logout" ∧ FitsString 10 "allow" := by decide
  refine ⟨?_, known, trivial, trivial, trivial⟩
  exact ⟨texts.1, trivial, trivial, trivial, texts.2, trivial, trivial, trivial⟩

theorem logoutEntry_valid : (logoutEntry user).decision ∈ Audit.validDecisions :=
  List.mem_of_elem_eq_true rfl

/-- A logout with the cookie of an unrevoked session revokes that session. -/
theorem logout_cookie {token : String} {sess : Session} (present : token ≠ "")
    (found : db.sessionByTokenHash (hashToken runtime token) = some sess)
    (unrevoked : sess.revokedAt = none) (known : user.id ∈ db.users.map User.id)
    : (logout runtime now user (some token)).Ends db (.ok loggedOut)
        ((db.writeSession sess.id (revocation now "logout")).withAuditRow
          (logoutEntry user)) := by
  have byId : db.sessionById sess.id = some sess :=
    (findBy_eq_some_iff db.sessionIds).mpr ⟨(findBy_sound found).1, rfl⟩
  have revoked
      : (revokeCookieSession runtime now (some token)).Ends db (.ok ())
          (db.writeSession sess.id (revocation now "logout")) := by
    unfold revokeCookieSession
    simp only [Option.filter, present, ne_eq, not_false_eq_true, decide_true, if_true]
    refine Action.Ends.selected rfl ?_
    rw [found]
    exact (revokeSession_revokes byId unrevoked (by decide)).bind (Action.Ends.pure _)
  have accepted
      : (db.writeSession sess.id (revocation now "logout")).AcceptsAuditLog
          (logoutEntry user) :=
    logoutEntry_accepted known
  refine revoked.bind ?_
  exact Audit.write_committed logoutEntry_valid accepted (Action.Ends.pure _)

/-- A logout without a cookie writes its audit row and nothing else. -/
theorem logout_bearer (known : user.id ∈ db.users.map User.id)
    : (logout runtime now user none).Ends db (.ok loggedOut)
        (db.withAuditRow (logoutEntry user)) := by
  refine (Action.Ends.pure ()).bind ?_
  exact Audit.write_committed logoutEntry_valid (logoutEntry_accepted known)
    (Action.Ends.pure _)

end Logout

/-- The session that authenticated the request on `db` is revoked on `after`, and there and
after any further operations its credential is refused at every time.
-/
structure SessionEnded (runtime : Runtime) (cookieToken authorization : Option String)
    (db after : Database)
    : Prop where
  revoked
    : ∃ token sess ended,
        rawToken runtime cookieToken authorization = some token
        ∧ db.sessionByTokenHash (hashToken runtime token) = some sess
        ∧ after.sessionById sess.id = some ended
        ∧ ended.revokedAt ≠ none
  refused
    : ∀ (operations : List Operation) (later : Instant), ∃ detail,
        ((getCurrentUser runtime later cookieToken authorization).perform
          (operations.foldl (Operation.apply runtime) after)).1
        = .error (unauthorized detail)

/-- What a request whose credential is accepted presents, and what its lookup leaves. -/
structure Accepted (runtime : Runtime) (now : Instant) (cookieToken authorization : Option String)
    (user : User) (db : Database) (token : String) (sess : Session)
    : Prop where
  presented : rawToken runtime cookieToken authorization = some token
  present : token ≠ ""
  found : db.sessionByTokenHash (hashToken runtime token) = some sess
  ends
    : (getCurrentUser runtime now cookieToken authorization).Ends db (.ok user)
        (touch now sess db)
  known : user.id ∈ (touch now sess db).users.map User.id
  touched
    : (touch now sess db).sessionByTokenHash (hashToken runtime token) = some (seen now sess)
  unrevoked : (seen now sess).revokedAt = none

section Requests

variable {runtime : Runtime} {now : Instant} {cookieToken authorization : Option String}
  {user : User} {db : Database} {token : String} {sess : Session}

theorem accepted_of_authenticated
    (authenticated
      : ((getCurrentUser runtime now cookieToken authorization).perform db).1 = .ok user)
    : ∃ token sess, Accepted runtime now cookieToken authorization user db token sess := by
  obtain ⟨token, sess, presented, live, stored, ends⟩ :=
    getCurrentUser_authenticates authenticated
  obtain ⟨present, found, alive⟩ := liveSession_found live
  have users : (touch now sess db).users = db.users := by
    unfold touch
    split <;> rfl
  refine ⟨token, sess, presented, present, found, ends, ?_, touch_sessionByTokenHash found, ?_⟩
  · rw [users]
    exact List.mem_map_of_mem stored
  · rw [seen_revokedAt]
    exact alive.unrevoked

/-- The lookup leaves the session under its id. -/
theorem Accepted.stored
    (accepted : Accepted runtime now cookieToken authorization user db token sess)
    : (touch now sess db).sessionById sess.id = some (seen now sess) :=
  (findBy_eq_some_iff (touch now sess db).sessionIds).mpr
    ⟨(findBy_sound accepted.touched).1, seen_id now sess⟩

/-- Without a cookie the handler revokes nothing. -/
theorem Accepted.bearer (accepted : Accepted runtime now none authorization user db token sess)
    : (logoutRequest runtime now none authorization).Ends db (.ok loggedOut)
        ((touch now sess db).withAuditRow (logoutEntry user)) :=
  accepted.ends.bind (logout_bearer accepted.known)

/-- The session that such a request leaves unrevoked is the one that authenticated it. -/
theorem Accepted.bearer_keeps
    (accepted : Accepted runtime now none authorization user db token sess)
    : ¬ SessionEnded runtime none authorization db
          ((touch now sess db).withAuditRow (logoutEntry user)) := by
  intro ended
  obtain ⟨again, same, kept, presented, found, keptFound, revoked⟩ := ended.revoked
  obtain rfl : again = token := Option.some.inj (presented.symm.trans accepted.presented)
  obtain rfl : same = sess := Option.some.inj (found.symm.trans accepted.found)
  obtain rfl : kept = seen now same := Option.some.inj (keptFound.symm.trans accepted.stored)
  exact revoked accepted.unrevoked

/-- With a cookie, which then is the credential, the handler revokes its session. -/
theorem Accepted.cookie
    (accepted : Accepted runtime now (some token) authorization user db token sess)
    : (logoutRequest runtime now (some token) authorization).Ends db (.ok loggedOut)
        (((touch now sess db).writeSession (seen now sess).id
          (revocation now "logout")).withAuditRow (logoutEntry user)) :=
  accepted.ends.bind
    (logout_cookie accepted.present accepted.touched accepted.unrevoked accepted.known)

/-- The revocation lasts, so the session has ended for good. -/
theorem Accepted.cookie_ends
    (accepted : Accepted runtime now cookieToken authorization user db token sess)
    : SessionEnded runtime cookieToken authorization db
        (((touch now sess db).writeSession (seen now sess).id
          (revocation now "logout")).withAuditRow (logoutEntry user)) := by
  have written := Database.writeSession_sessionByTokenHash (seen now sess).id
    (revocation now "logout") (touch now sess db) (hashToken runtime token)
  rw [accepted.touched] at written
  have writtenById := Database.writeSession_sessionById (seen now sess).id sess.id
    (revocation now "logout") (touch now sess db)
  rw [accepted.stored] at writtenById
  simp only [Option.map_some, if_true] at written writtenById
  have revoked : ((revocation now "logout").write (seen now sess)).revokedAt ≠ none := nofun
  refine ⟨⟨token, sess, _, accepted.presented, accepted.found, writtenById, revoked⟩, ?_⟩
  intro operations later
  have persist := operations_persist runtime operations
    (((touch now sess db).writeSession (seen now sess).id
      (revocation now "logout")).withAuditRow (logoutEntry user))
  have dead : liveSession runtime later token _ = none := persist.rejects written revoked
  exact ⟨_, congrArg Prod.fst (getCurrentUser_rejects accepted.presented dead).perform⟩

end Requests

/-- A logout that answers 200 has ended the session of the request exactly when the request
carries the session cookie: a bearer session is authenticated but never looked for.
-/
theorem logout_ends_session (runtime : Runtime) (now : Instant)
    (cookieToken authorization : Option String) (user : User) (db : Database)
    (authenticated
      : ((getCurrentUser runtime now cookieToken authorization).perform db).1 = .ok user)
    : (∀ response,
          ((logoutRequest runtime now cookieToken authorization).perform db).1 = .ok response
          → SessionEnded runtime cookieToken authorization db
              ((logoutRequest runtime now cookieToken authorization).perform db).2)
      ↔ cookieToken ≠ none := by
  obtain ⟨token, sess, accepted⟩ := accepted_of_authenticated authenticated
  cases cookieToken with
  | none =>
      rw [accepted.bearer.perform]
      exact iff_of_false (fun ends => accepted.bearer_keeps (ends loggedOut rfl))
        (fun carries => carries rfl)
  | some cookie =>
      obtain rfl : cookie = token := Option.some.inj accepted.presented
      rw [accepted.cookie.perform]
      exact iff_of_true (fun _ _ => accepted.cookie_ends) nofun

/-- The user of the sample database with a session under the token `a`. -/
def signedIn (transport : SessionTransport) : Database :=
  sampleDatabase.withSession
    (newSession sampleRuntime ⟨"a", 1, "somesalt"⟩ 0 sampleUser.id transport none none)
    ⟨⟨sampleRuntime.sha256Hex_fits "a", trivial, trivial⟩, nofun, nofun,
      List.mem_map_of_mem List.mem_cons_self⟩

/-- A logout by bearer token answers 200, and the token goes on being accepted. -/
theorem bearerLogout_keeps_session
    : let ended :=
        (logoutRequest sampleRuntime 0 none (some "Bearer a")).perform (signedIn .bearer)
      ((getCurrentUser sampleRuntime 0 none (some "Bearer a")).perform (signedIn .bearer)).1
        = .ok sampleUser
      ∧ ended.1 = .ok loggedOut
      ∧ ¬ SessionEnded sampleRuntime none (some "Bearer a") (signedIn .bearer) ended.2 := by
  intro ended
  refine ⟨rfl, rfl, ?_⟩
  intro ends
  obtain ⟨detail, refused⟩ := ends.refused [] 0
  have accepted
      : ((getCurrentUser sampleRuntime 0 none (some "Bearer a")).perform ended.2).1
        = .ok sampleUser := by
    rfl
  cases accepted.symm.trans refused

/-- A logout by cookie ends the session. -/
theorem cookieLogout_ends_session
    : SessionEnded sampleRuntime (some "a") none (signedIn .cookie)
        ((logoutRequest sampleRuntime 0 (some "a") none).perform (signedIn .cookie)).2 :=
  (logout_ends_session sampleRuntime 0 (some "a") none sampleUser (signedIn .cookie) rfl).mpr
    nofun loggedOut rfl

end SpecterCloud.Api
