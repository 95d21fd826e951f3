import SpecterCloud.Foundations.ProgramInterleavings
import SpecterCloud.Service.Requests

/-! The requests of the service step by step, as programs that can run concurrently. On a session
of its own, each acts as the request does.
-/

namespace SpecterCloud.Service.Programs

open SpecterCloud.Foundations
open SpecterCloud.Models
open SpecterCloud.Core
open SpecterCloud.Auth
open SpecterCloud.Api
open SpecterCloud.Scripts

/-- The statements of the service; `handled` is one of a route's handler. -/
inductive ServiceStatement
  | insertSession (row : Session)
  | insertAuditLog (row : AuditLog)
  | updateSession (sessionId : UUID) (columns : SessionColumns)
  | updateUser (userId : UUID) (columns : UserColumns) (now : Instant)
  | insertOrg (row : Org)
  | insertUser (row : User)
  | insertUserRole (row : UserRole)
  | handled (run : Database → Except Raised Database)

def ServiceStatement.run : ServiceStatement → Database → Except Raised Database
  | insertSession row => Database.insertSession row
  | insertAuditLog row => Database.insertAuditLog row
  | updateSession sessionId columns => Database.updateSession sessionId columns
  | updateUser userId columns now => Database.updateUser userId columns now
  | insertOrg row => Database.insertOrg row
  | insertUser row => Database.insertUser row
  | insertUserRole row => Database.insertUserRole row
  | handled run => run

abbrev DbProgram (α : Type) := Program ServiceStatement Database Raised α

-----------------------------------------------------------------------------------------
-- Sessions and users
-----------------------------------------------------------------------------------------

section Sessions

variable (runtime : Runtime) (now : Instant)

def createSession (draws : Draws) (userId : UUID) (transport : SessionTransport)
    (userAgent : Option String) (ipAddress : Option IpAddress)
    : DbProgram (String × Session) :=
  let sess := newSession runtime draws now userId transport userAgent ipAddress
  .add (.insertSession sess) (.flush (.done ((generateToken runtime draws).1, sess)))

def lookupSession (rawToken : String) : DbProgram (Option Session) :=
  if rawToken = "" then
    return none
  else do
    let tokenHash := hashToken runtime rawToken
    match ← Program.query (fun db => .ok (db.sessionByTokenHash tokenHash)) with
    | none => return none
    | some sess =>
        if sess.revokedAt ≠ none then
          return none
        else if now > sess.expiresAt then
          return none
        else if sess.lastSeenAt < now - days idleTimeoutDays then
          return none
        else if now - sess.lastSeenAt > minutes lastSeenDebounceMinutes then
          .add (.updateSession sess.id { lastSeenAt := some now })
            (.commit (.done (some { sess with lastSeenAt := now })))
        else
          return some sess

def revokeSession (sessionId : UUID) (reason : String) : DbProgram Bool := do
  match ← Program.query (fun db => .ok (db.sessionById sessionId)) with
  | none => return false
  | some sess =>
      if sess.revokedAt ≠ none then
        return false
      else
        .add (.updateSession sess.id (revocation now reason)) (.commit (.done true))

def revokeAllUserSessions (userId : UUID) (reason : String)
    (transport : Option SessionTransport)
    : DbProgram Nat := do
  let sessions ← Program.query (fun db => .ok (activeSessions userId transport db))
  if sessions = [] then
    return 0
  else do
    Program.addAll
      (sessions.map (fun sess => .updateSession sess.id (revocation now reason)))
    .commit (.done sessions.length)

def getCurrentUser (cookieToken authorization : Option String) : DbProgram User := do
  match rawToken runtime cookieToken authorization with
  | none => .raise (unauthorized "Authentication required")
  | some token =>
      match ← lookupSession runtime now token with
      | none => .raise (unauthorized "Invalid or expired session")
      | some sess =>
          match ← Program.query (fun db => .ok (db.userById sess.userId)) with
          | none => .raise (unauthorized "Account inactive")
          | some user =>
              if !user.isActive then
                .raise (unauthorized "Account inactive")
              else
                return user

theorem createSession_action (draws : Draws) (userId : UUID) (transport : SessionTransport)
    (userAgent : Option String) (ipAddress : Option IpAddress)
    : (createSession runtime now draws userId transport userAgent ipAddress).action
          ServiceStatement.run
      = Auth.createSession runtime draws now userId transport userAgent ipAddress :=
  rfl

theorem lookupSession_action (rawToken : String)
    : (lookupSession runtime now rawToken).action ServiceStatement.run
      = Auth.lookupSession runtime now rawToken := by
  unfold lookupSession Auth.lookupSession
  split
  · rfl
  · dsimp only
    rw [Program.action_bind, Program.action_query]
    refine bind_congr fun found => ?_
    cases found with
    | none => rfl
    | some sess =>
        dsimp only
        split_ifs <;> rfl

theorem revokeSession_action (sessionId : UUID) (reason : String)
    : (revokeSession now sessionId reason).action ServiceStatement.run
      = Auth.revokeSession now sessionId reason := by
  unfold revokeSession Auth.revokeSession
  rw [Program.action_bind, Program.action_query]
  refine bind_congr fun found => ?_
  cases found with
  | none => rfl
  | some sess =>
      dsimp only
      split_ifs <;> rfl

theorem revokeAllUserSessions_action (userId : UUID) (reason : String)
    (transport : Option SessionTransport)
    : (revokeAllUserSessions now userId reason transport).action ServiceStatement.run
      = Auth.revokeAllUserSessions now userId reason transport := by
  unfold revokeAllUserSessions Auth.revokeAllUserSessions
  rw [Program.action_bind, Program.action_query]
  refine bind_congr fun sessions => ?_
  split
  · rfl
  · rw [Program.action_bind, Program.action_addAll, List.map_map]
    rfl

theorem getCurrentUser_action (cookieToken authorization : Option String)
    : (getCurrentUser runtime now cookieToken authorization).action ServiceStatement.run
      = Auth.getCurrentUser runtime now cookieToken authorization := by
  unfold getCurrentUser Auth.getCurrentUser
  cases rawToken runtime cookieToken authorization with
  | none => rfl
  | some token =>
      dsimp only
      rw [Program.action_bind, lookupSession_action]
      refine bind_congr fun found => ?_
      cases found with
      | none => rfl
      | some sess =>
          dsimp only
          rw [Program.action_bind, Program.action_query]
          refine bind_congr fun found => ?_
          cases found with
          | none => rfl
          | some user =>
              dsimp only
              split_ifs <;> rfl

end Sessions

-----------------------------------------------------------------------------------------
-- Logins and logouts
-----------------------------------------------------------------------------------------

/-- `audit.write`. -/
def write (entry : AuditLog) : DbProgram AuditLog :=
  if entry.decision ∉ Audit.validDecisions then
    .raise
      (.valueError
        ("invalid decision '" ++ entry.decision ++ "'; must be one of "
          ++ "frozenset(\x7b'allow', 'deny'\x7d)"))
  else
    .add (.insertAuditLog entry) (.done entry)

section Logins

variable (runtime : Runtime) (now : Instant)

def completeLogin (draws : Draws) (attempt : LoginAttempt) (user : User)
    : DbProgram LoginResult := do
  let rehashed ←
    Program.ofExcept (rehash runtime draws.salt attempt.password user.passwordHash)
  let columns := successColumns now rehashed
  .add (.updateUser user.id columns now)
    (do
      let created ←
        createSession runtime now draws user.id attempt.transport attempt.userAgent
          attempt.ipAddress
      .commit (.done (.success (columns.write now user) created.1 created.2)))

def attemptLogin (draws : Draws) (attempt : LoginAttempt) : DbProgram LoginResult := do
  let email := normalizeEmail runtime attempt.email
  match ← Program.query (fun db => db.userByEmail email) with
  | none => do
      let _ ← Program.ofExcept (hashPassword runtime draws.salt "placeholder-to-burn-cpu")
      return .invalid
  | some user =>
      if !user.isActive then
        return .invalid
      else
        match user.lockedUntil.filter (fun untilTime => untilTime > now) with
        | some untilTime => return .locked untilTime
        | none =>
            if !verifyPassword runtime attempt.password user.passwordHash then
              .add (.updateUser user.id (failureColumns now user) now) (.commit (.done .invalid))
            else
              completeLogin runtime now draws attempt user

def answerLogin (payload : LoginRequest) (request : Request)
    : LoginResult → DbProgram LoginResponse
  | .invalid => do
      let _ ← write (failedEntry runtime payload request)
      .commit (.raise (.httpException 401 "Invalid credentials" []))
  | .locked untilTime => do
      let _ ← write (lockedEntry runtime payload request untilTime)
      .commit
        (.raise
          (.httpException 423 "Account temporarily locked due to repeated failed attempts" []))
  | .success user rawToken _ => do
      let cookie : SetCookie :=
        {
          key := sessionCookieName
          value := rawToken
          maxAge := sessionTtlDays * 24 * 60 * 60
          httponly := true
          secure := runtime.settings.sessionCookieSecure
          samesite := runtime.settings.sessionCookieSamesite
          path := "/"
        }
      let _ ← write (successEntry request user)
      .commit (.done { user := UserView.fromModel user, cookie })

def login (draws : Draws) (payload : LoginRequest) (request : Request)
    : DbProgram LoginResponse := do
  let result ← attemptLogin runtime now draws (loginAttempt payload request)
  answerLogin runtime payload request result

def revokeCookieSession (cookieToken : Option String) : DbProgram Unit := do
  match cookieToken.filter (fun token => token ≠ "") with
  | none => return ()
  | some token =>
      match ← Program.query (fun db => .ok (db.sessionByTokenHash (hashToken runtime token)))
      with
      | none => return ()
      | some sess => do
          let _ ← revokeSession now sess.id "logout"
          return ()

def logout (user : User) (cookieToken : Option String) : DbProgram LogoutResponse := do
  revokeCookieSession runtime now cookieToken
  let _ ← write (logoutEntry user)
  .commit (.done { detail := "logged out", deletedCookie := (sessionCookieName, "/") })

def logoutRequest (cookieToken authorization : Option String) : DbProgram LogoutResponse := do
  let user ← getCurrentUser runtime now cookieToken authorization
  logout runtime now user cookieToken

theorem write_action (entry : AuditLog)
    : (write entry).action ServiceStatement.run = Audit.write entry := by
  unfold write Audit.write
  split_ifs <;> rfl

theorem completeLogin_action (draws : Draws) (attempt : LoginAttempt) (user : User)
    : (completeLogin runtime now draws attempt user).action ServiceStatement.run
      = Auth.completeLogin runtime draws now attempt user := by
  unfold completeLogin Auth.completeLogin
  rw [Program.action_bind, Program.action_ofExcept]
  refine bind_congr fun rehashed => ?_
  dsimp only
  rw [Program.action]
  refine bind_congr fun _ => ?_
  rw [Program.action_bind, createSession_action]
  rfl

theorem attemptLogin_action (draws : Draws) (attempt : LoginAttempt)
    : (attemptLogin runtime now draws attempt).action ServiceStatement.run
      = Auth.attemptLogin runtime draws now attempt := by
  unfold attemptLogin Auth.attemptLogin
  dsimp only
  rw [Program.action_bind, Program.action_query]
  refine bind_congr fun found => ?_
  cases found with
  | none =>
      dsimp only
      rw [Program.action_bind, Program.action_ofExcept]
      rfl
  | some user =>
      dsimp only
      split_ifs
      · rfl
      · cases user.lockedUntil.filter (fun untilTime => untilTime > now) with
        | some untilTime => rfl
        | none => rfl
      · cases user.lockedUntil.filter (fun untilTime => untilTime > now) with
        | some untilTime => rfl
        | none => exact completeLogin_action runtime now draws attempt user

theorem answerLogin_action (payload : LoginRequest) (request : Request) (result : LoginResult)
    : (answerLogin runtime payload request result).action ServiceStatement.run
      = Api.answerLogin runtime payload request result := by
  cases result with
  | invalid =>
      unfold answerLogin Api.answerLogin
      rw [Program.action_bind, write_action]
      rfl
  | locked untilTime =>
      unfold answerLogin Api.answerLogin
      rw [Program.action_bind, write_action]
      rfl
  | success user token session =>
      unfold answerLogin Api.answerLogin
      dsimp only
      rw [Program.action_bind, write_action]
      rfl

theorem login_action (draws : Draws) (payload : LoginRequest) (request : Request)
    : (login runtime now draws payload request).action ServiceStatement.run
      = Api.login runtime draws now payload request := by
  unfold login Api.login
  rw [Program.action_bind, attemptLogin_action]
  exact bind_congr fun result => answerLogin_action runtime payload request result

theorem revokeCookieSession_action (cookieToken : Option String)
    : (revokeCookieSession runtime now cookieToken).action ServiceStatement.run
      = Api.revokeCookieSession runtime now cookieToken := by
  unfold revokeCookieSession Api.revokeCookieSession
  cases cookieToken.filter (fun token => token ≠ "") with
  | none => rfl
  | some token =>
      dsimp only
      rw [Program.action_bind, Program.action_query]
      refine bind_congr fun found => ?_
      cases found with
      | none => rfl
      | some sess =>
          dsimp only
          rw [Program.action_bind, revokeSession_action]
          rfl

theorem logoutRequest_action (cookieToken authorization : Option String)
    : (logoutRequest runtime now cookieToken authorization).action ServiceStatement.run
      = Api.logoutRequest runtime now cookieToken authorization := by
  unfold logoutRequest Api.logoutRequest
  rw [Program.action_bind, getCurrentUser_action]
  refine bind_congr fun user => ?_
  unfold logout Api.logout
  rw [Program.action_bind, revokeCookieSession_action]
  refine bind_congr fun _ => ?_
  rw [Program.action_bind, write_action]
  rfl

end Logins

-----------------------------------------------------------------------------------------
-- Guarded routes and bootstraps
-----------------------------------------------------------------------------------------

section Routes

variable (runtime : Runtime) (now : Instant)

def resolveTarget (target : Option (Request → Database → Except Raised UUID))
    (request : Request) (user : User)
    : DbProgram UUID :=
  match target with
  | some query => Program.query (query request)
  | none => pure user.orgId

def requirePermission (permission : Permission)
    (target : Option (Request → Database → Except Raised UUID)) (request : Request)
    (user : User)
    : DbProgram User := do
  let targetOrgId ← resolveTarget target request user
  let result ←
    Program.query (fun db => .ok (checkPermission db.toAccessTables user permission targetOrgId))
  let _ ← write (decisionEntry runtime request user permission targetOrgId result)
  if !result.allowed then
    .commit (.raise (.httpException 403 "Insufficient permissions" []))
  else
    return user

def guardedRequest {α : Type} (credential : Credential) (permission : Permission)
    (target : Option (Request → Database → Except Raised UUID)) (request : Request)
    (handler : User → DbProgram α)
    : DbProgram α := do
  let user ← getCurrentUser runtime now credential.cookieToken credential.authorization
  let user ← requirePermission runtime permission target request user
  handler user

theorem requirePermission_action (permission : Permission)
    (target : Option (Request → Database → Except Raised UUID)) (request : Request)
    (user : User)
    : (requirePermission runtime permission target request user).action ServiceStatement.run
      = Auth.requirePermission runtime permission (target.map lookupResolver) request user := by
  have resolves
      : (resolveTarget target request user).action ServiceStatement.run
        = Auth.resolveTarget (target.map lookupResolver) request user := by
    cases target with
    | none => rfl
    | some query => exact Program.action_query _ _
  unfold requirePermission Auth.requirePermission
  rw [Program.action_bind, resolves]
  refine bind_congr fun targetOrgId => ?_
  rw [Program.action_bind, Program.action_query]
  refine bind_congr fun result => ?_
  rw [Program.action_bind, write_action]
  refine bind_congr fun _ => ?_
  split_ifs <;> rfl

theorem guardedRequest_action {α : Type} (credential : Credential) (permission : Permission)
    (target : Option (Request → Database → Except Raised UUID)) (request : Request)
    (handler : User → DbProgram α)
    : (guardedRequest runtime now credential permission target request handler).action
          ServiceStatement.run
      = Service.guardedRequest runtime now credential permission (target.map lookupResolver)
          request (fun user => (handler user).action ServiceStatement.run) := by
  unfold guardedRequest Service.guardedRequest guardedUser currentUser
  rw [Program.action_bind, getCurrentUser_action, bind_assoc]
  refine bind_congr fun user => ?_
  rw [Program.action_bind, requirePermission_action]

end Routes

section Bootstrap

variable (runtime : Runtime) (isPrintable : Char → Bool) (draws : BootstrapDraws)
  (now : Instant) (orgId : UUID)

def grantRoles (userId : UUID) (adminRole : Role) : DbProgram Bool := do
  match ← Program.query (fun db => .ok (roleByName "developer" db)) with
  | none => .raise (.valueError "'developer' role not found. Migrations may be incomplete.")
  | some developerRole => do
      Program.addAll
        (([adminRole, developerRole].map (bootstrapGrant userId orgId)).map .insertUserRole)
      .commit (.done true)

def createAdmin (email password name : String) (adminRole : Role) : DbProgram Bool := do
  match ← Program.query (fun db => db.userByEmail email) with
  | some _ =>
      .raise
        (.valueError
          ("user with email " ++ repr isPrintable email
            ++ " already exists. Cannot proceed — manual intervention required."))
  | none => do
      let passwordHash ← Program.ofExcept (hashPassword runtime draws.salt password)
      let user := bootstrapUser draws now orgId email passwordHash name
      .add (.insertUser user) (.flush (grantRoles orgId user.id adminRole))

def bootstrap (email password name : String) : DbProgram Bool := do
  let email := normalizeEmail runtime email
  let name := strip name
  match ← Program.query (fun db => .ok (roleByName "admin" db)) with
  | none =>
      .raise
        (.valueError
          "'admin' role not found in roles table. Run alembic migrations first.")
  | some adminRole =>
      match ← Program.query (fun db => .ok (activeGrant orgId adminRole.id db)) with
      | some _ => return false
      | none =>
          match ← Program.query (fun db => .ok (db.orgById orgId)) with
          | none =>
              .add (.insertOrg (specterOrg orgId))
                (.flush
                  (createAdmin runtime isPrintable draws now orgId email password name
                    adminRole))
          | some _ =>
              createAdmin runtime isPrintable draws now orgId email password name adminRole

theorem grantRoles_action (userId : UUID) (adminRole : Role)
    : (grantRoles orgId userId adminRole).action ServiceStatement.run
      = Scripts.grantRoles orgId userId adminRole := by
  unfold grantRoles Scripts.grantRoles
  rw [Program.action_bind, Program.action_query]
  refine bind_congr fun found => ?_
  cases found with
  | none => rfl
  | some developerRole => rfl

theorem createAdmin_action (email password name : String) (adminRole : Role)
    : (createAdmin runtime isPrintable draws now orgId email password name adminRole).action
          ServiceStatement.run
      = Scripts.createAdmin runtime isPrintable draws now orgId email password name
          adminRole := by
  unfold createAdmin Scripts.createAdmin
  rw [Program.action_bind, Program.action_query]
  refine bind_congr fun found => ?_
  cases found with
  | some user => rfl
  | none =>
      dsimp only
      rw [Program.action_bind, Program.action_ofExcept]
      refine bind_congr fun passwordHash => ?_
      simp only [Program.action, grantRoles_action]
      rfl

theorem bootstrap_action (email password name : String)
    : (bootstrap runtime isPrintable draws now orgId email password name).action
          ServiceStatement.run
      = Scripts.bootstrap runtime isPrintable draws now orgId email password name := by
  unfold bootstrap Scripts.bootstrap
  dsimp only
  rw [Program.action_bind, Program.action_query]
  refine bind_congr fun found => ?_
  cases found with
  | none => rfl
  | some adminRole =>
      dsimp only
      rw [Program.action_bind, Program.action_query]
      refine bind_congr fun grant => ?_
      cases grant with
      | some _ => rfl
      | none =>
          dsimp only
          rw [Program.action_bind, Program.action_query]
          refine bind_congr fun org => ?_
          cases org with
          | none =>
              simp only [Program.action, createAdmin_action]
              rfl
          | some _ => exact createAdmin_action runtime isPrintable draws now orgId _ password _ _

end Bootstrap

end SpecterCloud.Service.Programs
