import SpecterCloud.Auth.ApiKeys
import SpecterCloud.Auth.Sessions
import SpecterCloud.Core.PythonText

/-! `get_current_drone`: a drone by its API key. `get_current_user`: a human user by session
cookie or bearer token.
-/

namespace SpecterCloud.Auth

open SpecterCloud.Foundations
open SpecterCloud.Models
open SpecterCloud.Core

/-- The 401 of `get_current_drone`, with its challenge. -/
def droneUnauthorized (detail : String) : Raised :=
  .httpException 401 detail [("WWW-Authenticate", "ApiKey")]

/-- `get_current_drone`. -/
def getCurrentDrone (sha256Hex : String → HexDigest) (now : Instant) (xApiKey : Option String)
    : FleetAction Drone := do
  match xApiKey with
  | none => throw (droneUnauthorized "Missing API Key")
  | some raw =>
      match ← verifyApiKey sha256Hex now raw with
      | none => throw (droneUnauthorized "Invalid API Key")
      | some drone => return drone

/-- A request is let through as a drone exactly when `verify_api_key` answers that drone for the
key in its header.
-/
theorem getCurrentDrone_ok_iff {sha256Hex : String → HexDigest} {now : Instant}
    {xApiKey : Option String} {db after : FleetTables} {drone : Drone}
    : (getCurrentDrone sha256Hex now xApiKey).perform db = (.ok drone, after)
      ↔ ∃ raw,
          xApiKey = some raw
          ∧ (verifyApiKey sha256Hex now raw).perform db = (.ok (some drone), after) := by
  cases xApiKey with
  | none => exact ⟨nofun, nofun⟩
  | some raw =>
      simp only [Option.some.injEq, exists_eq_left', getCurrentDrone, Action.perform,
        EStateM.run_bind]
      cases (verifyApiKey sha256Hex now raw).run (.opened db) with
      | error error session => exact ⟨nofun, nofun⟩
      | ok found session =>
          cases found with
          | none => exact ⟨nofun, nofun⟩
          | some other =>
              constructor <;>
                · intro ran
                  cases ran
                  rfl

/-- The 401 of the dependency, with its challenge. -/
def unauthorized (detail : String) : Raised :=
  .httpException 401 detail [("WWW-Authenticate", "Bearer")]

/-- The token of an `Authorization: Bearer` header; blank tokens do not count. -/
def bearerToken (runtime : Runtime) (authorization : String) : Option String :=
  match splitOnce ' ' authorization with
  | none => none
  | some (scheme, token) =>
      if runtime.lower scheme = "bearer" ∧ strip token ≠ "" then some (strip token) else none

/-- The credential of the request: the cookie if there is one, otherwise the bearer token. -/
def rawToken (runtime : Runtime) (cookieToken authorization : Option String) : Option String :=
  match cookieToken with
  | some token => some token
  | none => authorization.bind (bearerToken runtime)

/-- `get_current_user`. -/
def getCurrentUser (runtime : Runtime) (now : Instant)
    (cookieToken authorization : Option String)
    : DbAction User := do
  match rawToken runtime cookieToken authorization with
  | none => throw (unauthorized "Authentication required")
  | some token =>
      match ← lookupSession runtime now token with
      | none => throw (unauthorized "Invalid or expired session")
      | some sess =>
          match ← Action.select (fun db => .ok (db.userById sess.userId)) with
          | none => throw (unauthorized "Account inactive")
          | some user =>
              if !user.isActive then
                throw (unauthorized "Account inactive")
              else
                return user

section CurrentUser

variable {runtime : Runtime} {now : Instant} {cookieToken authorization : Option String}
  {db : Database} {token : String}

/-- A token without a live session is refused. -/
theorem getCurrentUser_rejects
    (presented : rawToken runtime cookieToken authorization = some token)
    (missing : liveSession runtime now token db = none)
    : (getCurrentUser runtime now cookieToken authorization).Ends db
        (.error (unauthorized "Invalid or expired session")) db := by
  unfold getCurrentUser
  rw [presented]
  exact (lookupSession_rejects missing).bind (Action.Ends.throw _)

/-- The active user of a session. -/
def activeUser (db : Database) (sess : Session) : Option User :=
  (db.userById sess.userId).filter User.isActive

/-- A token with a live session gives the session's user, if that user is active. -/
theorem getCurrentUser_resolves {sess : Session}
    (presented : rawToken runtime cookieToken authorization = some token)
    (live : liveSession runtime now token db = some sess)
    : (getCurrentUser runtime now cookieToken authorization).Ends db
        ((activeUser db sess).elim (.error (unauthorized "Account inactive")) .ok)
        (touch now sess db) := by
  have users : (touch now sess db).userById sess.userId = db.userById sess.userId := by
    unfold touch
    split <;> rfl
  have owner : (seen now sess).userId = sess.userId := by
    unfold seen
    split <;> rfl
  unfold getCurrentUser activeUser
  rw [presented]
  refine (lookupSession_finds live).bind ?_
  refine Action.Ends.selected rfl ?_
  rw [owner, users]
  cases db.userById sess.userId with
  | none => exact Action.Ends.throw _
  | some user =>
      cases active : user.isActive with
      | false =>
          simp only [Option.filter, active]
          exact Action.Ends.throw _
      | true =>
          simp only [Option.filter, active]
          exact Action.Ends.pure _

/-- A credential that is accepted presents the token of a live session of an active user. -/
theorem getCurrentUser_authenticates {user : User}
    (authenticated
      : ((getCurrentUser runtime now cookieToken authorization).perform db).1 = .ok user)
    : ∃ token sess,
        rawToken runtime cookieToken authorization = some token
        ∧ liveSession runtime now token db = some sess
        ∧ user ∈ db.users
        ∧ (getCurrentUser runtime now cookieToken authorization).Ends db (.ok user)
            (touch now sess db) := by
  cases presented : rawToken runtime cookieToken authorization with
  | none =>
      unfold getCurrentUser at authenticated
      rw [presented] at authenticated
      cases authenticated
  | some token =>
      cases live : liveSession runtime now token db with
      | none =>
          rw [(getCurrentUser_rejects presented live).perform] at authenticated
          cases authenticated
      | some sess =>
          have resolved := getCurrentUser_resolves presented live
          rw [resolved.perform] at authenticated
          cases found : activeUser db sess with
          | none =>
              rw [found] at authenticated
              cases authenticated
          | some owner =>
              rw [found] at authenticated resolved
              cases authenticated
              obtain ⟨stored, _⟩ := Option.filter_eq_some_iff.mp found
              exact ⟨token, sess, rfl, live, (findBy_sound stored).1, resolved⟩

end CurrentUser

end SpecterCloud.Auth
