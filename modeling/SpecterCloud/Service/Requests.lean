import SpecterCloud.Auth.PermissionGuards
import SpecterCloud.Foundations.Runs
import SpecterCloud.Scripts.Bootstrap
import SpecterCloud.Sessions.KeptRelations

/-! The requests of human users, the revocations of operators and the runs of the bootstrap
script, served one after another on one database.
-/

namespace SpecterCloud.Service

open SpecterCloud.Foundations
open SpecterCloud.Models
open SpecterCloud.Core
open SpecterCloud.Auth
open SpecterCloud.Api
open SpecterCloud.Scripts

/-- The session cookie and the `Authorization` header of a request. -/
structure Credential where
  cookieToken : Option String
  authorization : Option String

/-- An org resolver that looks the target up. -/
def lookupResolver (query : Request → Database → Except Raised UUID) : OrgResolver :=
  fun request => Action.select (query request)

section Routes

variable (runtime : Runtime) (now : Instant) (credential : Credential)

/-- The dependency of a route: the user of the request. -/
def currentUser : DbAction User :=
  getCurrentUser runtime now credential.cookieToken credential.authorization

/-- `GET /api/v1/auth/me`. -/
def meRequest : DbAction UserView := do
  let user ← currentUser runtime now credential
  return UserView.fromModel user

/-- The dependency of a route that `require_permission` guards. -/
def guardedUser (permission : Permission) (orgResolver : Option OrgResolver)
    (request : Request)
    : DbAction User := do
  let user ← currentUser runtime now credential
  requirePermission runtime permission orgResolver request user

/-- A request to a guarded route, whose handler runs on the same session. -/
def guardedRequest {α : Type} (permission : Permission) (orgResolver : Option OrgResolver)
    (request : Request) (handler : User → DbAction α)
    : DbAction α := do
  let user ← guardedUser runtime now credential permission orgResolver request
  handler user

end Routes

-----------------------------------------------------------------------------------------
-- Calls
-----------------------------------------------------------------------------------------

inductive ServiceRequest
  | login (draws : Draws) (payload : LoginRequest) (request : Request)
  | logout (credential : Credential)
  | me (credential : Credential)
  | guarded (credential : Credential) (permission : Permission)
      (target : Option (Request → Database → Except Raised UUID)) (request : Request)
      (handler : User → DbAction Unit)
  | revoke (sessionId : UUID) (reason : String)
  | revokeAll (userId : UUID) (reason : String) (transport : Option SessionTransport)
  | bootstrap (draws : BootstrapDraws) (orgId : UUID) (email password name : String)

structure ServiceCall where
  now : Instant
  request : ServiceRequest

/-- What a call answers. A guarded route tells whom its dependency let through, whatever the
handler did next.
-/
inductive ServiceAnswer
  | loggedIn (response : LoginResponse)
  | loggedOut (response : LogoutResponse)
  | profile (view : UserView)
  | guarded (passed : Except Raised User)
  | revoked (transitioned : Bool)
  | revokedAll (count : Nat)
  | bootstrapped (created : Bool)
  | raised (error : Raised)

abbrev ServiceEvent := ServiceCall × ServiceAnswer

/-- The answer of a request that returned, or that it raised. -/
def answeredBy {α : Type} (answer : α → ServiceAnswer) (ended : Except Raised α × Database)
    : ServiceAnswer × Database :=
  match ended.1 with
  | .ok value => (answer value, ended.2)
  | .error error => (.raised error, ended.2)

section Runs

variable (runtime : Runtime) (isPrintable : Char → Bool)

/-- A call as a request of its own. -/
def serveService (db : Database) (call : ServiceCall) : ServiceAnswer × Database :=
  match call.request with
  | .login draws payload request =>
      answeredBy .loggedIn ((login runtime draws call.now payload request).perform db)
  | .logout credential =>
      answeredBy .loggedOut
        ((logoutRequest runtime call.now credential.cookieToken
            credential.authorization).perform db)
  | .me credential => answeredBy .profile ((meRequest runtime call.now credential).perform db)
  | .guarded credential permission target request handler =>
      let resolver := target.map lookupResolver
      (.guarded
          ((guardedUser runtime call.now credential permission resolver request).perform db).1,
        ((guardedRequest runtime call.now credential permission resolver request
            handler).perform db).2)
  | .revoke sessionId reason =>
      answeredBy .revoked ((revokeSession call.now sessionId reason).perform db)
  | .revokeAll userId reason transport =>
      answeredBy .revokedAll
        ((revokeAllUserSessions call.now userId reason transport).perform db)
  | .bootstrap draws orgId email password name =>
      answeredBy .bootstrapped
        ((bootstrap runtime isPrintable draws call.now orgId email password name).perform db)

/-- The handler of a guarded request stays within what `allowed` says of handlers. -/
def ServiceRequest.HandledBy (allowed : (User → DbAction Unit) → Prop) : ServiceRequest → Prop
  | guarded _ _ _ _ handler => allowed handler
  | _ => True

/-- Runs of calls that are permitted after what has happened before them. -/
abbrev ServiceRuns (permitted : List ServiceEvent → ServiceCall → Prop) (initial : Database)
    (history : List ServiceEvent) (db : Database)
    : Prop :=
  Runs (served permitted (serveService runtime isPrintable)) initial history db

end Runs

-----------------------------------------------------------------------------------------
-- What the calls keep
-----------------------------------------------------------------------------------------

/-- The relation holds along the INSERTs of the bootstrap script. -/
structure KeptByBootstrap (Grows : Database → Database → Prop) : Prop where
  insertOrg : ∀ row, row.parentOrgId = none → Advances Grows (Database.insertOrg row)
  insertUser : ∀ row, row.failedLoginCount = 0 → Advances Grows (Database.insertUser row)
  insertUserRole : ∀ row, row.grantedBy = none → Advances Grows (Database.insertUserRole row)

section Kept

variable {Grows : Database → Database → Prop}

section Audits

variable (trans : ∀ a b c, Grows a b → Grows b c → Grows a c)
  (appends : ∀ row, Advances Grows (Database.insertAuditLog row)) (runtime : Runtime)

include appends

theorem write_grows (entry : AuditLog) : Action.Respects Grows (Audit.write entry) := by
  have added
      : Action.Respects Grows
          (do
            Action.add (Database.insertAuditLog entry)
            return entry) :=
    (Action.Respects.add (appends entry)).bind fun _ => Action.Respects.pure _
  unfold Audit.write
  split
  · exact (Action.Respects.throw _).bind fun _ => added
  · exact added

include trans

/-- What `login` does after the attempt only adds an audit row. -/
theorem answerLogin_grows (payload : LoginRequest) (request : Request) (result : LoginResult)
    : Action.Respects Grows (answerLogin runtime payload request result) := by
  have committed (entry : AuditLog) {α : Type} {last : DbAction α}
      (ends : Action.Respects Grows last)
      : Action.Respects Grows
          (Audit.write entry >>= fun _ => Action.commit >>= fun _ => last) :=
    (write_grows appends entry).bind fun _ =>
      (Action.Respects.commit trans).bind fun _ => ends
  cases result with
  | invalid => exact committed _ (Action.Respects.throw _)
  | locked untilTime => exact committed _ (Action.Respects.throw _)
  | success user token session => exact committed _ (Action.Respects.pure _)

/-- The checker reads, and adds an audit row. -/
theorem requirePermission_grows (permission : Permission)
    (target : Option (Request → Database → Except Raised UUID)) (request : Request)
    (user : User)
    : Action.Respects Grows
        (requirePermission runtime permission (target.map lookupResolver) request user) := by
  have resolves
      : Action.Respects Grows
          (resolveTarget (target.map lookupResolver) request user) := by
    cases target with
    | none => exact Action.Respects.pure _
    | some query => exact Action.Respects.select _
  refine resolves.bind fun targetOrgId => ?_
  refine (Action.Respects.select _).bind fun result => ?_
  refine (write_grows appends _).bind fun _ => ?_
  show Action.Respects Grows (if _ then _ else _)
  split
  · exact (Action.Respects.commit trans).bind fun _ =>
      (Action.Respects.throw _).bind fun _ => Action.Respects.pure _
  · exact Action.Respects.pure _

end Audits

section Bootstrap

variable (trans : ∀ a b c, Grows a b → Grows b c → Grows a c) (kept : KeptByBootstrap Grows)
  (runtime : Runtime) (isPrintable : Char → Bool) (draws : BootstrapDraws) (now : Instant)
  (orgId : UUID)

include trans kept

theorem grantRoles_grows (userId : UUID) (adminRole : Role)
    : Action.Respects Grows (grantRoles orgId userId adminRole) := by
  refine (Action.Respects.select _).bind fun found => ?_
  cases found with
  | none => exact Action.Respects.throw _
  | some developerRole =>
      refine (Action.Respects.forM_add ?_).bind fun _ =>
        (Action.Respects.commit trans).bind fun _ => Action.Respects.pure _
      intro statement member
      obtain ⟨row, granted, rfl⟩ := List.mem_map.mp member
      obtain ⟨role, _, rfl⟩ := List.mem_map.mp granted
      exact kept.insertUserRole _ rfl

theorem createAdmin_grows (email password name : String) (adminRole : Role)
    : Action.Respects Grows
        (createAdmin runtime isPrintable draws now orgId email password name adminRole) := by
  refine (Action.Respects.select _).bind fun existing => ?_
  cases existing with
  | some user => exact Action.Respects.throw _
  | none =>
      exact (Action.Respects.ofExcept _).bind fun _ =>
        (Action.Respects.add (kept.insertUser _ rfl)).bind fun _ =>
          (Action.Respects.flush trans).bind fun _ =>
            grantRoles_grows trans kept orgId _ adminRole

theorem bootstrap_grows (email password name : String)
    : Action.Respects Grows
        (bootstrap runtime isPrintable draws now orgId email password name) := by
  refine (Action.Respects.select _).bind fun found => ?_
  cases found with
  | none => exact Action.Respects.throw _
  | some adminRole =>
      refine (Action.Respects.select _).bind fun grant => ?_
      cases grant with
      | some _ => exact Action.Respects.pure _
      | none =>
          have creates :=
            createAdmin_grows trans kept runtime isPrintable draws now orgId
              (normalizeEmail runtime email) password (strip name) adminRole
          refine (Action.Respects.select _).bind fun org => ?_
          cases org with
          | none =>
              exact (Action.Respects.add (kept.insertOrg _ rfl)).bind fun _ =>
                (Action.Respects.flush trans).bind fun _ => creates
          | some _ => exact creates

end Bootstrap

/-- The database of an answer is the one that the request committed. -/
theorem answeredBy_snd {α : Type} (answer : α → ServiceAnswer)
    (ended : Except Raised α × Database)
    : (answeredBy answer ended).2 = ended.2 := by
  unfold answeredBy
  split <;> rfl

/-- A relation that every update of a user keeps is kept by every login. -/
theorem login_grows (requests : KeptByRequests Grows) (updates : KeptByUserUpdates Grows)
    (runtime : Runtime) (draws : Draws) (now : Instant) (payload : LoginRequest)
    (request : Request) (db : Database)
    : Grows db ((login runtime draws now payload request).perform db).2 := by
  have attempt :=
    attemptLogin_respects requests updates runtime draws now (loginAttempt payload request)
  refine (attempt.bind fun result => ?_).perform requests.refl db
  exact answerLogin_respects requests runtime payload request result

/-- A login answers on the database that its attempt leaves. -/
theorem login_answers {runtime : Runtime} {draws : Draws} {now : Instant}
    {payload : LoginRequest} {request : Request} {result : LoginResult} {db middle : Database}
    (ends
      : (attemptLogin runtime draws now (loginAttempt payload request)).Ends db (.ok result)
          middle)
    : (login runtime draws now payload request).perform db
      = (answerLogin runtime payload request result).perform middle := by
  unfold login Action.perform
  rw [EStateM.run_bind,
    show (attemptLogin runtime draws now (loginAttempt payload request)).run _ = _ from ends]

/-- A relation that every INSERT of the bootstrap script keeps is kept by every run of it. -/
theorem bootstrapped_grows (requests : KeptByRequests Grows) (bootstraps : KeptByBootstrap Grows)
    (runtime : Runtime) (isPrintable : Char → Bool) (draws : BootstrapDraws) (now : Instant)
    (orgId : UUID) (email password name : String) (db : Database)
    : Grows db
        ((bootstrap runtime isPrintable draws now orgId email password name).perform db).2 :=
  (bootstrap_grows requests.trans bootstraps runtime isPrintable draws now orgId email password
    name).perform requests.refl db

/-- A relation that every statement keeps is kept by every call, whether it returns or raises. -/
theorem serveService_grows (requests : KeptByRequests Grows) (touches : KeptByTouch Grows)
    (runtime : Runtime) (isPrintable : Char → Bool) (call : ServiceCall)
    (logins
      : ∀ draws payload request, call.request = .login draws payload request
        → ∀ db, Grows db ((login runtime draws call.now payload request).perform db).2)
    (bootstraps
      : ∀ draws orgId email password name,
          call.request = .bootstrap draws orgId email password name
          → ∀ db,
              Grows db
                ((bootstrap runtime isPrintable draws call.now orgId email password
                    name).perform db).2)
    (handled
      : call.request.HandledBy (fun handler => ∀ user, Action.Respects Grows (handler user)))
    (db : Database)
    : Grows db (serveService runtime isPrintable db call).2 := by
  obtain ⟨now, request⟩ := call
  have user (credential : Credential)
      : Action.Respects Grows (currentUser runtime now credential) :=
    getCurrentUser_respects requests runtime now touches _ _
  unfold serveService
  cases request with
  | login draws payload request =>
      rw [answeredBy_snd]
      exact logins draws payload request rfl db
  | logout credential =>
      rw [answeredBy_snd]
      refine ((user credential).bind fun authenticated => ?_).perform requests.refl db
      exact logout_respects requests runtime now authenticated _
  | me credential =>
      rw [answeredBy_snd]
      exact ((user credential).bind fun _ => Action.Respects.pure _).perform requests.refl db
  | guarded credential permission target request handler =>
      have guard :=
        (user credential).bind fun authenticated =>
          requirePermission_grows requests.trans requests.insertAuditLog runtime permission
            target request authenticated
      exact (guard.bind handled).perform requests.refl db
  | revoke sessionId reason =>
      rw [answeredBy_snd]
      exact (revokeSession_respects requests now sessionId reason).perform requests.refl db
  | revokeAll userId reason transport =>
      rw [answeredBy_snd]
      exact
        (revokeAllUserSessions_respects requests now userId reason transport).perform
          requests.refl db
  | bootstrap draws orgId email password name =>
      rw [answeredBy_snd]
      exact bootstraps draws orgId email password name rfl db

end Kept

end SpecterCloud.Service
