import SpecterCloud.Auditing.AllowDecisions
import SpecterCloud.Core.Middleware

/-! The id of a request in its audit row: the middleware does not leave it where the checker
looks for it.
-/

namespace SpecterCloud.Auth

open SpecterCloud.Foundations
open SpecterCloud.Models
open SpecterCloud.Core

/-- The response of a route, or of the framework for an `HTTPException`. -/
def routeResponse {α : Type} : Except Raised α → Except Raised (Response (String ⊕ α))
  | .ok value => .ok ⟨200, [], .inr value⟩
  | .error (.httpException statusCode detail headers) =>
      .ok ⟨statusCode, headers, .inl detail⟩
  | .error error => .error error

/-- A guarded route as the middleware calls it; the checker does not read the variables that
structlog merges.
-/
def callGuarded {α : Type} (runtime : Runtime) (permission : Permission)
    (orgResolver : Option OrgResolver) (user : User) (handler : RouteHandler α) (db : Database)
    (_context : ContextVars) (request : Request)
    : Except Raised (Response (String ⊕ α)) × Database :=
  let served := serveGuarded runtime permission orgResolver request user handler db
  (routeResponse served.outcome, served.database)

/-- The audit rows under the action that the checker writes for such a decision. -/
def decisionRows (allowed : Bool) (db : Database) : List AuditLog :=
  db.auditLog.filter (fun row =>
    row.action = if allowed then "authz.granted" else "authz.denied")

/-- The row that the request has left for its decision carries the id, and the decision stands:
the row records it, and a denied request is answered 403.
-/
def RequestIdAudited {α : Type} (db : Database) (allowed : Bool) (requestId : Option UUID)
    (ended : Except Raised (Response (String ⊕ α)) × Database)
    : Prop :=
  ∀ row, decisionRows allowed ended.2 = decisionRows allowed db ++ [row]
    → row.requestId = requestId
      ∧ row.decision = (if allowed then "allow" else "deny")
      ∧ (allowed = false
        → ∃ response, ended.1 = .ok response ∧ response.statusCode = 403)

/-- Behind the middleware `request.state` has no id. -/
theorem extractRequestId_incoming (runtime : Runtime) (incoming : IncomingRequest)
    : extractRequestId runtime incoming.request = none := rfl

/-- A row of a decision is found again among the rows of its kind. -/
theorem decisionRows_withAuditRow (runtime : Runtime) (request : Request) (user : User)
    (permission : Permission) (db : Database) (targetOrgId : UUID)
    (result : PermissionCheckResult)
    : let row := decisionEntry runtime request user permission targetOrgId result
      decisionRows result.allowed (db.withAuditRow row)
      = decisionRows result.allowed db ++ [row] := by
  simp [decisionRows, Database.withAuditRow, decisionEntry]

section Guarded

variable {α : Type} {runtime : Runtime} {permission : Permission}
  {orgResolver : Option OrgResolver} {request : Request} {user : User}
  {handler : RouteHandler α} {db : Database} {targetOrgId : UUID}
  {result : PermissionCheckResult}

/-- A request whose checker raises never reaches its handler, and ends as the checker does. -/
theorem serveGuarded_raised {error : Raised} {after : Database}
    (raised
      : (requirePermission runtime permission orgResolver request user).perform db
        = (.error error, after))
    : serveGuarded runtime permission orgResolver request user handler db
      = { outcome := .error error, calls := [], database := after } := by
  unfold Action.perform at raised
  unfold serveGuarded
  cases ran : (requirePermission runtime permission orgResolver request user).run (.opened db)
  all_goals
    rw [ran] at raised
    cases raised
  rfl

end Guarded

section Behind

variable {α : Type} {runtime : Runtime} {permission : Permission} {incoming : IncomingRequest}
  {user : User} {db : Database} {targetOrgId : UUID} {result : PermissionCheckResult}
  {requestId : Option UUID} {ended : Except Raised (Response (String ⊕ α)) × Database}

/-- A row that is left has no id, whatever the id of its request was. -/
theorem requestIdAudited_left
    (left
      : decisionRows result.allowed ended.2
        = decisionRows result.allowed db
          ++ [decisionEntry runtime incoming.request user permission targetOrgId result])
    (answered
      : result.allowed = false
        → ∃ response, ended.1 = .ok response ∧ response.statusCode = 403)
    : RequestIdAudited db result.allowed requestId ended ↔ requestId = none := by
  constructor
  · intro audited
    exact (audited _ left).1.symm
  · rintro rfl row found
    obtain rfl := List.singleton_inj.mp (List.append_cancel_left (left.symm.trans found))
    exact ⟨extractRequestId_incoming runtime incoming, rfl, answered⟩

/-- Nothing is asked of a request that has left no row. -/
theorem requestIdAudited_lost {allowed : Bool}
    (lost : decisionRows allowed ended.2 = decisionRows allowed db)
    : RequestIdAudited db allowed requestId ended := by
  intro row found
  rw [lost] at found
  exact absurd found.symm (by simp)

end Behind

/-- Behind the middleware, the row that a request leaves for its decision agrees with the id of
the request only where both are absent: an id that parses as a UUID is missing from every row
that a handler commits of an allow, and from every one that the database accepts of a denial.
-/
theorem dispatch_request_id_audited_iff {α : Type} (runtime : Runtime) (permission : Permission)
    (orgResolver : Option OrgResolver) (generated : UUID) (incoming : IncomingRequest)
    (user : User) (handler : RouteHandler α) (db : Database) (targetOrgId : UUID)
    (resolved
      : (resolveTarget orgResolver incoming.request user).run (.opened db)
        = .ok targetOrgId (.opened db))
    : let requestId := runtime.parseUuid (usedRequestId generated incoming)
      let result := checkPermission db.toAccessTables user permission targetOrgId
      let served :=
        serveGuarded runtime permission orgResolver incoming.request user handler db
      RequestIdAudited db result.allowed requestId
        (dispatch generated incoming
          (callGuarded runtime permission orgResolver user handler db))
      ↔ requestId = none
        ∨ (result.allowed = true ∧ ¬ CommitsFirst served.calls)
        ∨ (result.allowed = false
          ∧ ¬ db.AcceptsAuditLog
              (decisionEntry runtime incoming.request user permission targetOrgId result)) := by
  intro requestId result served
  rw [dispatch_run]
  rcases Bool.eq_false_or_eq_true result.allowed with allowed | denied
  · have fate := serveGuarded_allowed runtime handler resolved rfl allowed
    have granted (database : Database)
        : decisionRows result.allowed database = grantedRows database := by
      rw [allowed]
      rfl
    rcases fate with ⟨first, left⟩ | ⟨lost, unchanged⟩
    · rw [← granted, ← granted] at left
      rw [requestIdAudited_left left fun denied => absurd (denied.symm.trans allowed) nofun]
      simp [allowed, served, first]
    · rw [← granted, ← granted] at unchanged
      exact iff_of_true (requestIdAudited_lost unchanged) (.inr (.inl ⟨allowed, lost⟩))
  · have checked
        : (requirePermission runtime permission orgResolver incoming.request user).perform db
          = _ :=
      requirePermission_denied resolved rfl denied
    by_cases accepted : db.AcceptsAuditLog
        (decisionEntry runtime incoming.request user permission targetOrgId result)
    · rw [Database.insertAuditLog_accepted accepted] at checked
      have left := decisionRows_withAuditRow runtime incoming.request user permission db
        targetOrgId result
      simp only [callGuarded, serveGuarded_raised checked]
      rw [requestIdAudited_left left fun _ => ⟨_, rfl, rfl⟩]
      simp [denied, accepted]
    · obtain ⟨error, rejected⟩ := Database.insertAuditLog_rejected accepted
      rw [rejected] at checked
      simp only [callGuarded, serveGuarded_raised checked]
      exact iff_of_true (requestIdAudited_lost rfl) (.inr (.inr ⟨denied, accepted⟩))

/-- An id as `uuid.uuid4` draws it. -/
def sampleRequestId : UUID := 0x6f1c2e1a4b7d4c3e9a5b0d1e2f3a4b5c

/-- A runtime whose `uuid.UUID` reads that id. -/
def tracingRuntime : Runtime where
  lower := sampleRuntime.lower
  parseUuid := fun text => if text = uuidText sampleRequestId then some sampleRequestId else none
  sha256Hex := sampleRuntime.sha256Hex
  argon2Hash := sampleRuntime.argon2Hash
  argon2Verify := sampleRuntime.argon2Verify
  argon2NeedsRehash := sampleRuntime.argon2NeedsRehash
  sha256Hex_fits := sampleRuntime.sha256Hex_fits
  argon2Hash_fits := sampleRuntime.argon2Hash_fits

/-- A denied request without a header is recorded without the id that was generated for it. -/
theorem generatedRequestId_unaudited
    : let ended :=
        dispatch sampleRequestId {}
          (callGuarded (α := Unit) tracingRuntime .devDebug none sampleUser
            (fun _ => .finish (.ok ())) sampleDatabase)
      (checkPermission sampleDatabase.toAccessTables sampleUser .devDebug 1).allowed = false
      ∧ tracingRuntime.parseUuid (usedRequestId sampleRequestId {}) = some sampleRequestId
      ∧ ended.2.auditLog.map AuditLog.requestId = [none]
      ∧ ¬ RequestIdAudited sampleDatabase false (some sampleRequestId) ended := by
  intro ended
  refine ⟨by decide, by simp [tracingRuntime, usedRequestId], rfl, ?_⟩
  intro audited
  have recorded := (audited _ rfl).1
  cases recorded

/-- A denied request with an id that is no UUID is recorded without one, and answered 403. -/
theorem malformedRequestId_audited
    : RequestIdAudited sampleDatabase
        (checkPermission sampleDatabase.toAccessTables sampleUser .devDebug 1).allowed
        (tracingRuntime.parseUuid
          (usedRequestId sampleRequestId { xRequestId := some "trace-1" }))
        (dispatch sampleRequestId { xRequestId := some "trace-1" }
          (callGuarded tracingRuntime .devDebug none sampleUser
            (fun _ => .finish (.ok ())) sampleDatabase)) :=
  (dispatch_request_id_audited_iff (α := Unit) tracingRuntime .devDebug none sampleRequestId
    { xRequestId := some "trace-1" } sampleUser (fun _ => .finish (.ok ())) sampleDatabase 1
    rfl).mpr (.inl (by decide))

end SpecterCloud.Auth
