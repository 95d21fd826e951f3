import SpecterCloud.Audit.Log
import SpecterCloud.Auth.PermissionChecks

/-! `require_permission`: the check of a route, its audit row, and the commit on deny. -/

namespace SpecterCloud.Auth

open SpecterCloud.Foundations
open SpecterCloud.Models
open SpecterCloud.Core

/-- An org resolver reads the target org from the request. -/
abbrev OrgResolver := Request → DbAction UUID

/-- `_extract_request_id`: an absent or malformed id is recorded as NULL. -/
def extractRequestId (runtime : Runtime) (request : Request) : Option UUID :=
  request.requestId.bind runtime.parseUuid

/-- The target of the check; without a resolver it is the user's home org. -/
def resolveTarget (orgResolver : Option OrgResolver) (request : Request) (user : User)
    : DbAction UUID :=
  match orgResolver with
  | some resolver => resolver request
  | none => pure user.orgId

/-- The audit row of a decision. -/
def decisionEntry (runtime : Runtime) (request : Request) (user : User)
    (permission : Permission) (targetOrgId : UUID) (result : PermissionCheckResult)
    : AuditLog :=
  {
    action := if result.allowed then "authz.granted" else "authz.denied"
    decision := if result.allowed then "allow" else "deny"
    userId := some user.id
    requestId := extractRequestId runtime request
    permission := some permission.value
    targetOrgId := some targetOrgId
    matchedRoleId := result.matchedRoleId
    matchedOrgId := result.matchedOrgId
    reason := some result.reason
    ipAddress := request.clientHost
    userAgent := request.userAgent
  }

/-- The `checker` that `require_permission(permission, org_resolver)` returns, for a user
that `get_current_user` has authenticated.
-/
def requirePermission (runtime : Runtime) (permission : Permission)
    (orgResolver : Option OrgResolver) (request : Request) (user : User)
    : DbAction User := do
  let targetOrgId ← resolveTarget orgResolver request user
  let result ←
    Action.select (fun db => .ok (checkPermission db.toAccessTables user permission targetOrgId))
  let _ ← Audit.write (decisionEntry runtime request user permission targetOrgId result)
  if !result.allowed then
    Action.commit
    throw (.httpException 403 "Insufficient permissions" [])
  return user

/-- The row of a decision fits its columns up to the User-Agent and the text of the reason. -/
theorem decisionEntry_fits {runtime : Runtime} {request : Request} {user : User}
    {permission : Permission} {targetOrgId : UUID} {result : PermissionCheckResult}
    (userAgent : NullOr (FitsString 500) request.userAgent) (reason : Storable result.reason)
    : (decisionEntry runtime request user permission targetOrgId result).Fits := by
  have action : FitsString 60 (if result.allowed then "authz.granted" else "authz.denied") := by
    split <;> decide
  have decision : FitsString 10 (if result.allowed then "allow" else "deny") := by
    split <;> decide
  exact
    {
      action
      permission := permission.value_fits
      resourceType := trivial
      resourceId := trivial
      decision
      reason
      userAgent
      extra := trivial
    }

section Checker

variable {runtime : Runtime} {permission : Permission} {orgResolver : Option OrgResolver}
  {request : Request} {user : User} {db : Database} {targetOrgId : UUID}

/-- Up to its branch the checker reads, and leaves the audit row of its decision unsent. -/
theorem requirePermission_run
    (resolved
      : (resolveTarget orgResolver request user).run (.opened db)
        = .ok targetOrgId (.opened db))
    {result : PermissionCheckResult}
    (decided : checkPermission db.toAccessTables user permission targetOrgId = result)
    : (requirePermission runtime permission orgResolver request user).run (.opened db)
      = EStateM.run
          (do
            if !result.allowed then
              Action.commit
              throw (.httpException 403 "Insufficient permissions" [])
            return user)
          (.waiting db
            [Database.insertAuditLog
              (decisionEntry runtime request user permission targetOrgId result)]) := by
  subst decided
  have valid
      : (decisionEntry runtime request user permission targetOrgId
          (checkPermission db.toAccessTables user permission targetOrgId)).decision
        ∈ Audit.validDecisions := by
    unfold decisionEntry
    split <;> simp [Audit.validDecisions]
  unfold requirePermission
  rw [EStateM.run_bind, resolved]
  simp only [EStateM.run_bind, UnitOfWork.opened, Action.select_active, Audit.write_run valid]
  rfl

/-- An allow leaves its audit row to whoever commits next. -/
theorem requirePermission_allowed
    (resolved
      : (resolveTarget orgResolver request user).run (.opened db)
        = .ok targetOrgId (.opened db))
    {result : PermissionCheckResult}
    (decided : checkPermission db.toAccessTables user permission targetOrgId = result)
    (allowed : result.allowed = true)
    : (requirePermission runtime permission orgResolver request user).run (.opened db)
      = .ok user
          (.waiting db
            [Database.insertAuditLog
              (decisionEntry runtime request user permission targetOrgId result)]) := by
  rw [requirePermission_run resolved decided, allowed]
  rfl

/-- A deny commits its audit row and answers 403, unless the database rejects the row. -/
theorem requirePermission_denied
    (resolved
      : (resolveTarget orgResolver request user).run (.opened db)
        = .ok targetOrgId (.opened db))
    {result : PermissionCheckResult}
    (decided : checkPermission db.toAccessTables user permission targetOrgId = result)
    (denied : result.allowed = false)
    : (requirePermission runtime permission orgResolver request user).perform db
      = match
          db.insertAuditLog (decisionEntry runtime request user permission targetOrgId result)
        with
        | .ok next => (.error (.httpException 403 "Insufficient permissions" []), next)
        | .error error => (.error error, db) := by
  unfold Action.perform
  rw [requirePermission_run resolved decided, denied]
  simp only [Bool.not_false, if_true, EStateM.run_bind, UnitOfWork.waiting, UnitOfWork.opened,
    Action.commit_active, runAll_cons, Action.throw_run]
  cases db.insertAuditLog _ <;> rfl

end Checker

end SpecterCloud.Auth
