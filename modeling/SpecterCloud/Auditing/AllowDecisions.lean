import SpecterCloud.Auth.PermissionGuards
import SpecterCloud.Foundations.SessionScripts

/-! Allowed requests: the audit row of the decision waits on the request's session, so what
becomes of it is up to the handler that runs on the same session.
-/

namespace SpecterCloud.Auth

open SpecterCloud.Foundations
open SpecterCloud.Models
open SpecterCloud.Core

/-- The rows of granted decisions, which only the checker writes. -/
def grantedRows (db : Database) : List AuditLog :=
  db.auditLog.filter (fun row => row.action = "authz.granted")

/-- A route handler may do with the request's session what it likes, but its own statements
leave the checker's rows alone.
-/
abbrev RouteHandler (α : Type) := User → Script Raised α grantedRows

/-- The end of a request: the answer, the handler's calls on the session, and the database. -/
structure ServedRequest (α : Type) where
  outcome : Except Raised α
  calls : List (SessionCall Raised grantedRows × Bool)
  database : Database

/-- A request to a guarded route. The checker and the handler share the session of `get_db`,
which closes it afterwards and keeps only what was committed.
-/
def serveGuarded {α : Type} (runtime : Runtime) (permission : Permission)
    (orgResolver : Option OrgResolver) (request : Request) (user : User)
    (handler : RouteHandler α) (db : Database)
    : ServedRequest α :=
  match (requirePermission runtime permission orgResolver request user).run (.opened db) with
  | .error error stopped =>
      { outcome := .error error, calls := [], database := stopped.committed }
  | .ok user session =>
      let ended := (handler user).run session
      {
        outcome := ended.outcome
        calls := ended.calls
        database := ended.session.committed
      }

/-- A request that completed has committed one granted row, which records its decision; one
that raised before it committed anything has committed no granted row.
-/
structure AllowAudited {α : Type} (db : Database) (user : User) (permission : Permission)
    (targetOrgId : UUID) (served : ServedRequest α)
    : Prop where
  completed
    : ∀ value, served.outcome = .ok value
      → ∃ row,
          grantedRows served.database = grantedRows db ++ [row]
          ∧ row.action = "authz.granted"
          ∧ row.decision = "allow"
          ∧ row.userId = some user.id
          ∧ row.permission = some permission.value
          ∧ row.targetOrgId = some targetOrgId
          ∧ row.matchedRoleId
            = (checkPermission db.toAccessTables user permission targetOrgId).matchedRoleId
          ∧ row.matchedOrgId
            = (checkPermission db.toAccessTables user permission targetOrgId).matchedOrgId
  raised
    : ∀ error, served.outcome = .error error
      → (.commit, true) ∉ served.calls
      → grantedRows served.database = grantedRows db

/-- The insert that waits brings its own row among the granted ones. -/
theorem awaiting_grantedRow {db : Database} {entry : AuditLog}
    (granted : entry.action = "authz.granted")
    : Awaiting grantedRows (grantedRows db) (grantedRows db ++ [entry])
        (.waiting db [Database.insertAuditLog entry]) := by
  refine ⟨rfl, rfl, ?_⟩
  intro before next same sent
  have inserted : before.insertAuditLog entry = .ok next := by
    have split : runAll ([] ++ [Database.insertAuditLog entry]) before = .ok next := sent
    obtain ⟨middle, nothing, inserted⟩ := runAll_snoc.mp split
    cases nothing
    exact inserted
  by_cases accepted : before.AcceptsAuditLog entry
  · rw [Database.insertAuditLog_accepted accepted] at inserted
    cases inserted
    rw [← show grantedRows before = grantedRows db from same]
    simp [grantedRows, Database.withAuditRow, granted]
  · obtain ⟨error, rejected⟩ := Database.insertAuditLog_rejected accepted
    rw [rejected] at inserted
    cases inserted

/-- What the checker leaves waiting is committed exactly when the handler commits first. -/
theorem serveGuarded_allowed {α : Type} (runtime : Runtime) {permission : Permission}
    {orgResolver : Option OrgResolver} {request : Request} {user : User}
    (handler : RouteHandler α) {db : Database} {targetOrgId : UUID}
    (resolved
      : (resolveTarget orgResolver request user).run (.opened db)
        = .ok targetOrgId (.opened db))
    {result : PermissionCheckResult}
    (decided : checkPermission db.toAccessTables user permission targetOrgId = result)
    (allowed : result.allowed = true)
    : let served := serveGuarded runtime permission orgResolver request user handler db
      (CommitsFirst served.calls
        ∧ grantedRows served.database
          = grantedRows db
            ++ [decisionEntry runtime request user permission targetOrgId result])
      ∨ (¬ CommitsFirst served.calls ∧ grantedRows served.database = grantedRows db) := by
  intro served
  have granted
      : (decisionEntry runtime request user permission targetOrgId result).action
        = "authz.granted" := by
    simp [decisionEntry, allowed]
  simp only [served, serveGuarded, requirePermission_allowed resolved decided allowed]
  exact (awaiting_grantedRow granted).run (handler user)

/-- An allow leaves its audit row exactly when a handler that completes has itself committed
the session, before any rollback or failed call: neither the checker nor `get_db` does.
-/
theorem requirePermission_allow_audited {α : Type} (runtime : Runtime) (permission : Permission)
    (orgResolver : Option OrgResolver) (request : Request) (user : User)
    (handler : RouteHandler α) (db : Database) (targetOrgId : UUID)
    (resolved
      : (resolveTarget orgResolver request user).run (.opened db)
        = .ok targetOrgId (.opened db))
    (allowed : (checkPermission db.toAccessTables user permission targetOrgId).allowed = true)
    : let served := serveGuarded runtime permission orgResolver request user handler db
      AllowAudited db user permission targetOrgId served
      ↔ ∀ value, served.outcome = .ok value → CommitsFirst served.calls := by
  intro served
  have fate := serveGuarded_allowed runtime handler resolved rfl allowed
  constructor
  · intro audited value completed
    rcases fate with ⟨first, _⟩ | ⟨_, unchanged⟩
    · exact first
    · obtain ⟨row, committed, _⟩ := audited.completed value completed
      rw [unchanged] at committed
      simp at committed
  · intro commits
    constructor
    · intro value completed
      rcases fate with ⟨_, committed⟩ | ⟨lost, _⟩
      · refine ⟨_, committed, ?_, ?_, rfl, rfl, rfl, rfl, rfl⟩ <;>
          simp [decisionEntry, allowed]
      · exact absurd (commits value completed) lost
    · intro error _ uncommitted
      rcases fate with ⟨first, _⟩ | ⟨_, unchanged⟩
      · exact absurd first.committed uncommitted
      · exact unchanged

/-- A handler that completes without touching the session loses the row of its allow. -/
theorem requirePermission_allow_unaudited
    : let served :=
        serveGuarded (α := Unit) sampleRuntime .userInvite none {} sampleUser
          (fun _ => .finish (.ok ())) sampleDatabase
      (resolveTarget none {} sampleUser).run (.opened sampleDatabase)
        = .ok 1 (.opened sampleDatabase)
      ∧ (checkPermission sampleDatabase.toAccessTables sampleUser .userInvite 1).allowed = true
      ∧ ¬ AllowAudited sampleDatabase sampleUser .userInvite 1 served := by
  intro served
  refine ⟨rfl, by decide, ?_⟩
  intro audited
  obtain ⟨row, committed, _⟩ := audited.completed () rfl
  cases committed

/-- A handler that commits before it answers leaves the row of its allow. -/
theorem committingHandler_audited
    : AllowAudited sampleDatabase sampleUser .userInvite 1
        (serveGuarded sampleRuntime .userInvite none {} sampleUser
          (fun _ => .call .commit (fun _ => .finish (.ok ()))) sampleDatabase) :=
  (requirePermission_allow_audited sampleRuntime .userInvite none {} sampleUser
    (fun _ => .call .commit (fun _ => .finish (.ok ()))) sampleDatabase 1 rfl
    (by decide)).mpr (fun _ _ => .commits)

end SpecterCloud.Auth
