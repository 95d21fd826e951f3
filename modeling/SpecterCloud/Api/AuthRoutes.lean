import SpecterCloud.Audit.Log
import SpecterCloud.Auth.Dependencies
import SpecterCloud.Auth.Login

/-! The login and logout routes. -/

namespace SpecterCloud.Api

open SpecterCloud.Foundations
open SpecterCloud.Models
open SpecterCloud.Core
open SpecterCloud.Auth

/-- `SESSION_COOKIE_NAME`. -/
def sessionCookieName : String := "specter_session"

/-- A body that the validation of `LoginRequest` accepts. -/
structure LoginRequest where
  email : String
  password : String
  emailLength : 3 ≤ email.length ∧ email.length ≤ 254
  passwordLength : 1 ≤ password.length ∧ password.length ≤ 1024

structure UserView where
  id : UUID
  email : String
  name : String
  orgId : UUID
deriving DecidableEq

def UserView.fromModel (user : User) : UserView :=
  { id := user.id, email := user.email, name := user.name, orgId := user.orgId }

/-- The arguments of `response.set_cookie`. -/
structure SetCookie where
  key : String
  value : String
  maxAge : Int
  httponly : Bool
  secure : Bool
  samesite : String
  path : String

/-- A 200 of the login route: its body and the cookie that it sets. -/
structure LoginResponse where
  user : UserView
  cookie : SetCookie

/-- A 200 of the logout route: its body and the cookie that it deletes, with its path. -/
structure LogoutResponse where
  detail : String
  deletedCookie : String × String

/-- The audit rows of the login route differ in these arguments. -/
def loginEntry (request : Request) (action decision : String) (userId : Option UUID)
    (reason : Option String) (extra : Option (List (String × ExtraValue)))
    : AuditLog :=
  {
    action
    decision
    userId
    reason
    ipAddress := request.clientHost
    userAgent := request.userAgent
    extra
  }

def failedEntry (runtime : Runtime) (payload : LoginRequest) (request : Request) : AuditLog :=
  loginEntry request "login.failed" "deny" none (some "invalid_credentials")
    (some [("attempted_email", .text (normalizeEmail runtime payload.email))])

def lockedEntry (runtime : Runtime) (payload : LoginRequest) (request : Request)
    (untilTime : Instant)
    : AuditLog :=
  loginEntry request "login.locked" "deny" none (some "account_locked")
    (some
      [("attempted_email", .text (normalizeEmail runtime payload.email)),
        ("locked_until", .isoformat untilTime)])

def successEntry (request : Request) (user : User) : AuditLog :=
  loginEntry request "login.success" "allow" (some user.id) none none

/-- The arguments that `login` gives to `attempt_login`. -/
def loginAttempt (payload : LoginRequest) (request : Request) : LoginAttempt :=
  {
    email := payload.email
    password := payload.password
    transport := .cookie
    userAgent := request.userAgent
    ipAddress := request.clientHost
  }

/-- What `login` does with the result of the attempt: its audit row, a commit, an answer. -/
def answerLogin (runtime : Runtime) (payload : LoginRequest) (request : Request)
    : LoginResult → DbAction LoginResponse
  | .invalid => do
      let _ ← Audit.write (failedEntry runtime payload request)
      Action.commit
      throw (.httpException 401 "Invalid credentials" [])
  | .locked untilTime => do
      let _ ← Audit.write (lockedEntry runtime payload request untilTime)
      Action.commit
      throw
        (.httpException 423 "Account temporarily locked due to repeated failed attempts" [])
  | .success user rawToken _ => do
      let cookie : SetCookie :=
        {
          key := sessionCookieName
          value := rawToken
          maxAge := sessionTtlDays * 24 * 60 * 60
          httponly := true
          secure := runtime.settings.sessionCookieSecure
          samesite := runtime.settings.sessionCookieSamesite
          path := "/"
        }
      let _ ← Audit.write (successEntry request user)
      Action.commit
      return { user := UserView.fromModel user, cookie }

/-- `POST /api/v1/auth/login`. -/
def login (runtime : Runtime) (draws : Draws) (now : Instant) (payload : LoginRequest)
    (request : Request)
    : DbAction LoginResponse := do
  let result ← attemptLogin runtime draws now (loginAttempt payload request)
  answerLogin runtime payload request result

/-- The part of `logout` that revokes: the session of the cookie, if there is a cookie. -/
def revokeCookieSession (runtime : Runtime) (now : Instant) (cookieToken : Option String)
    : DbAction Unit := do
  match cookieToken.filter (fun token => token ≠ "") with
  | none => return ()
  | some token =>
      match ← Action.select (fun db => .ok (db.sessionByTokenHash (hashToken runtime token)))
      with
      | none => return ()
      | some sess => do
          let _ ← revokeSession now sess.id "logout"
          return ()

/-- The audit row of a logout. -/
def logoutEntry (user : User) : AuditLog :=
  { action := "logout", decision := "allow", userId := some user.id }

/-- `POST /api/v1/auth/logout`, for the user that the dependency has authenticated. -/
def logout (runtime : Runtime) (now : Instant) (user : User) (cookieToken : Option String)
    : DbAction LogoutResponse := do
  revokeCookieSession runtime now cookieToken
  let _ ← Audit.write (logoutEntry user)
  Action.commit
  return { detail := "logged out", deletedCookie := (sessionCookieName, "/") }

/-- A whole logout request: the dependency, then the handler on the same session. -/
def logoutRequest (runtime : Runtime) (now : Instant)
    (cookieToken authorization : Option String)
    : DbAction LogoutResponse := do
  let user ← getCurrentUser runtime now cookieToken authorization
  logout runtime now user cookieToken

end SpecterCloud.Api
