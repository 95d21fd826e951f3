import SpecterCloud.Auth.PermissionGuards
import SpecterCloud.Authorization.CheckSpecification

/-! Denied requests: which of them leave the audit row that the checker writes for them. -/

namespace SpecterCloud.Auth

open SpecterCloud.Foundations
open SpecterCloud.Models
open SpecterCloud.Core

/-- The request was answered 403, and all it committed is one row that records the denial. -/
def DenialAudited (db : Database) (user : User) (permission : Permission)
    (targetOrgId : UUID) (ended : Except Raised User × Database)
    : Prop :=
  ended.1 = .error (.httpException 403 "Insufficient permissions" [])
  ∧ ∃ row,
      ended.2 = db.withAuditRow row
      ∧ row.action = "authz.denied"
      ∧ row.decision = "deny"
      ∧ row.userId = some user.id
      ∧ row.permission = some permission.value
      ∧ row.targetOrgId = some targetOrgId
      ∧ row.reason = some (checkPermission db.toAccessTables user permission targetOrgId).reason

/-- The database accepts the row of a denial exactly when the target org exists and the
User-Agent fits its column.
-/
theorem acceptsAuditLog_denied (runtime : Runtime) {request : Request} {user : User}
    (permission : Permission) {db : Database} {targetOrgId : UUID}
    (authenticated : user ∈ db.users)
    : db.AcceptsAuditLog
        (decisionEntry runtime request user permission targetOrgId
          (.denied "no_matching_role_grant"))
      ↔ targetOrgId ∈ db.orgs.map Org.id ∧ NullOr (FitsString 500) request.userAgent := by
  constructor
  · intro accepted
    exact ⟨accepted.targetOrgId, accepted.fits.userAgent⟩
  · rintro ⟨known, userAgent⟩
    exact ⟨decisionEntry_fits userAgent (by decide), List.mem_map_of_mem authenticated, known,
      trivial, trivial⟩

/-- A denied request is answered 403 with one committed audit row exactly when the target org
exists and the User-Agent fits its column; otherwise the insert raises in the place of the 403.
-/
theorem requirePermission_deny_audited (runtime : Runtime) (permission : Permission)
    (orgResolver : Option OrgResolver) (request : Request) (user : User) (db : Database)
    (targetOrgId : UUID)
    (authenticated : user ∈ db.users)
    (resolved
      : (resolveTarget orgResolver request user).run (.opened db)
        = .ok targetOrgId (.opened db))
    (denied : (checkPermission db.toAccessTables user permission targetOrgId).allowed = false)
    : DenialAudited db user permission targetOrgId
        ((requirePermission runtime permission orgResolver request user).perform db)
      ↔ targetOrgId ∈ db.orgs.map Org.id ∧ NullOr (FitsString 500) request.userAgent := by
  have decided := checkPermission_refused denied
  rw [← acceptsAuditLog_denied runtime permission authenticated,
    requirePermission_denied resolved decided rfl]
  by_cases accepted : db.AcceptsAuditLog
      (decisionEntry runtime request user permission targetOrgId
        (.denied "no_matching_role_grant"))
  · rw [Database.insertAuditLog_accepted accepted]
    refine iff_of_true ⟨rfl, _, rfl, rfl, rfl, rfl, rfl, rfl, ?_⟩ accepted
    rw [decided]
    rfl
  · obtain ⟨error, raised⟩ := Database.insertAuditLog_rejected accepted
    rw [raised]
    refine iff_of_false ?_ accepted
    rintro ⟨_, row, same, _⟩
    exact db.withAuditRow_ne row same.symm

/-- A denial at an org without a row is answered by the database's error, and leaves no row. -/
theorem requirePermission_deny_unaudited
    : let ended :=
        (requirePermission sampleRuntime .droneRead (some fun _ => pure 2) {}
          sampleUser).perform sampleDatabase
      sampleUser ∈ sampleDatabase.users
      ∧ (resolveTarget (some fun _ => pure 2) {} sampleUser).run (.opened sampleDatabase)
        = .ok 2 (.opened sampleDatabase)
      ∧ (checkPermission sampleDatabase.toAccessTables sampleUser .droneRead 2).allowed = false
      ∧ ¬ DenialAudited sampleDatabase sampleUser .droneRead 2 ended := by
  intro ended
  have raised : ended.1 = .error (.integrityError "audit_log.target_org_id") := by
    rfl
  refine ⟨by simp [sampleDatabase, Database.singleUser], rfl, by decide, ?_⟩
  rintro ⟨answered, _⟩
  rw [raised] at answered
  cases answered

/-- A denial at the user's home org under a short User-Agent is recorded. -/
theorem homeOrgDenial_audited
    : DenialAudited sampleDatabase sampleUser .devDebug 1
        ((requirePermission sampleRuntime .devDebug none { userAgent := some "curl/8.5.0" }
          sampleUser).perform sampleDatabase) :=
  (requirePermission_deny_audited sampleRuntime .devDebug none
    { userAgent := some "curl/8.5.0" } sampleUser sampleDatabase 1
    (by simp [sampleDatabase, Database.singleUser]) rfl (by decide)).mpr
    ⟨by decide, by decide⟩

end SpecterCloud.Auth
