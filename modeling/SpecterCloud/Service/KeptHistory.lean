import SpecterCloud.Service.Requests

/-! No call rewrites what the audit needs: audit rows and grants are only appended, and rows of
sessions and users stay with what identifies them.
-/

namespace SpecterCloud.Service

open SpecterCloud.Foundations
open SpecterCloud.Models
open SpecterCloud.Core
open SpecterCloud.Auth
open SpecterCloud.Api

-----------------------------------------------------------------------------------------
-- What is kept
-----------------------------------------------------------------------------------------

/-- The row is of the same session. A revocation is never taken back. -/
structure KeepsSession (row next : Session) : Prop where
  id : next.id = row.id
  userId : next.userId = row.userId
  tokenHash : next.tokenHash = row.tokenHash
  transport : next.transport = row.transport
  userAgent : next.userAgent = row.userAgent
  ipAddress : next.ipAddress = row.ipAddress
  createdAt : next.createdAt = row.createdAt
  expiresAt : next.expiresAt = row.expiresAt
  revoked : row.revokedAt ≠ none → next.revokedAt ≠ none

/-- The row is of the same user, who is neither moved nor deactivated nor reactivated. -/
structure KeepsUser (row next : User) : Prop where
  id : next.id = row.id
  email : next.email = row.email
  name : next.name = row.name
  orgId : next.orgId = row.orgId
  isActive : next.isActive = row.isActive

/-- Audit rows, grants and orgs are only appended, roles stay, and no session or user is lost. -/
structure KeepsHistory (before after : Database) : Prop where
  auditLog : before.auditLog <+: after.auditLog
  userRoles : before.userRoles <+: after.userRoles
  orgs : before.orgs <+: after.orgs
  roles : after.roles = before.roles
  sessions : ∀ row ∈ before.sessions, ∃ next ∈ after.sessions, KeepsSession row next
  users : ∀ row ∈ before.users, ∃ next ∈ after.users, KeepsUser row next

theorem KeepsSession.refl (row : Session) : KeepsSession row row :=
  ⟨rfl, rfl, rfl, rfl, rfl, rfl, rfl, rfl, fun revoked => revoked⟩

theorem KeepsUser.refl (row : User) : KeepsUser row row := ⟨rfl, rfl, rfl, rfl, rfl⟩

theorem KeepsSession.trans {row middle next : Session} (first : KeepsSession row middle)
    (second : KeepsSession middle next)
    : KeepsSession row next where
  id := second.id.trans first.id
  userId := second.userId.trans first.userId
  tokenHash := second.tokenHash.trans first.tokenHash
  transport := second.transport.trans first.transport
  userAgent := second.userAgent.trans first.userAgent
  ipAddress := second.ipAddress.trans first.ipAddress
  createdAt := second.createdAt.trans first.createdAt
  expiresAt := second.expiresAt.trans first.expiresAt
  revoked := second.revoked ∘ first.revoked

theorem KeepsUser.trans {row middle next : User} (first : KeepsUser row middle)
    (second : KeepsUser middle next)
    : KeepsUser row next where
  id := second.id.trans first.id
  email := second.email.trans first.email
  name := second.name.trans first.name
  orgId := second.orgId.trans first.orgId
  isActive := second.isActive.trans first.isActive

theorem KeepsHistory.refl (db : Database) : KeepsHistory db db where
  auditLog := List.prefix_rfl
  userRoles := List.prefix_rfl
  orgs := List.prefix_rfl
  roles := rfl
  sessions := fun row stored => ⟨row, stored, KeepsSession.refl row⟩
  users := fun row stored => ⟨row, stored, KeepsUser.refl row⟩

theorem KeepsHistory.trans (a b c : Database) (first : KeepsHistory a b)
    (second : KeepsHistory b c)
    : KeepsHistory a c where
  auditLog := first.auditLog.trans second.auditLog
  userRoles := first.userRoles.trans second.userRoles
  orgs := first.orgs.trans second.orgs
  roles := second.roles.trans first.roles
  sessions := by
    intro row stored
    obtain ⟨middle, kept, same⟩ := first.sessions row stored
    obtain ⟨next, keptAgain, sameAgain⟩ := second.sessions middle kept
    exact ⟨next, keptAgain, same.trans sameAgain⟩
  users := by
    intro row stored
    obtain ⟨middle, kept, same⟩ := first.users row stored
    obtain ⟨next, keptAgain, sameAgain⟩ := second.users middle kept
    exact ⟨next, keptAgain, same.trans sameAgain⟩

-----------------------------------------------------------------------------------------
-- The statements keep it
-----------------------------------------------------------------------------------------

section Statements

variable {db : Database}

/-- An update of a session keeps the history if it takes no revocation back. -/
theorem KeepsHistory.writeSession (sessionId : UUID) {columns : SessionColumns}
    (revoked : columns.revokedAt ≠ some none)
    : KeepsHistory db (db.writeSession sessionId columns) :=
  { KeepsHistory.refl db with
    sessions := by
      intro row stored
      refine ⟨if row.id = sessionId then columns.write row else row,
        mem_rewriteWhere.mpr ⟨row, stored, by simp⟩, ?_⟩
      split
      · refine ⟨rfl, rfl, rfl, rfl, rfl, rfl, rfl, rfl, ?_⟩
        intro already
        show columns.revokedAt.getD row.revokedAt ≠ none
        cases written : columns.revokedAt with
        | none => exact already
        | some value => exact fun none_ => revoked (written.trans (congrArg some none_))
      · exact KeepsSession.refl row }

theorem KeepsHistory.requests : KeptByRequests KeepsHistory where
  refl := KeepsHistory.refl
  trans := KeepsHistory.trans
  insertSession := by
    intro row db next ran
    obtain ⟨accepted, rfl⟩ := Database.insertSession_ok ran
    exact
      { KeepsHistory.refl db with
        sessions := fun old stored =>
          ⟨old, List.mem_append_left _ stored, KeepsSession.refl old⟩ }
  insertAuditLog := by
    intro row db next ran
    obtain rfl := Database.insertAuditLog_ok ran
    exact { KeepsHistory.refl db with auditLog := List.prefix_append _ _ }
  revoke := by
    intro sessionId now reason db next ran
    obtain rfl := Database.updateSession_ok ran
    exact .writeSession sessionId nofun

theorem KeepsHistory.touches : KeptByTouch KeepsHistory := by
  intro sessionId now db next ran
  obtain rfl := Database.updateSession_ok ran
  exact .writeSession sessionId nofun

theorem KeepsHistory.updates : KeptByUserUpdates KeepsHistory := by
  intro userId columns now db next ran
  obtain rfl := Database.updateUser_ok ran
  refine { KeepsHistory.refl db with users := ?_ }
  intro row stored
  refine ⟨if row.id = userId then columns.write now row else row,
    mem_rewriteWhere.mpr ⟨row, stored, by simp⟩, ?_⟩
  split
  · exact ⟨rfl, rfl, rfl, rfl, rfl⟩
  · exact KeepsUser.refl row

theorem KeepsHistory.insertOrg (row : Org)
    : Advances KeepsHistory (Database.insertOrg row) := by
  intro db next ran
  obtain ⟨accepted, rfl⟩ := Database.insertOrg_ok ran
  exact { KeepsHistory.refl db with orgs := List.prefix_append _ _ }

theorem KeepsHistory.insertUser (row : User)
    : Advances KeepsHistory (Database.insertUser row) := by
  intro db next ran
  obtain ⟨accepted, rfl⟩ := Database.insertUser_ok ran
  exact
    { KeepsHistory.refl db with
      users := fun old stored => ⟨old, List.mem_append_left _ stored, KeepsUser.refl old⟩ }

theorem KeepsHistory.insertUserRole (row : UserRole)
    : Advances KeepsHistory (Database.insertUserRole row) := by
  intro db next ran
  obtain ⟨accepted, rfl⟩ := Database.insertUserRole_ok ran
  exact { KeepsHistory.refl db with userRoles := List.prefix_append _ _ }

theorem KeepsHistory.bootstraps : KeptByBootstrap KeepsHistory where
  insertOrg := fun row _ => KeepsHistory.insertOrg row
  insertUser := fun row _ => KeepsHistory.insertUser row
  insertUserRole := fun row _ => KeepsHistory.insertUserRole row

end Statements

-----------------------------------------------------------------------------------------
-- Over runs
-----------------------------------------------------------------------------------------

/-- A handler whose own statements keep the history, however it ends. -/
def KeepingHandler (handler : User → DbAction Unit) : Prop :=
  ∀ user, Action.Respects KeepsHistory (handler user)

/-- Whatever calls a service has served up to some moment, and whatever it serves from then on,
with requests that raise in between: the audit rows and the grants of that moment are the first
ones at the end, in their order and unchanged, and every session and every user of that moment is
still there, with a session that was revoked still revoked.
-/
theorem service_keeps_history (runtime : Runtime) (isPrintable : Char → Bool)
    (initial middle db : Database) (earlier later : List ServiceEvent)
    (before
      : ServiceRuns runtime isPrintable
          (fun _ call => call.request.HandledBy KeepingHandler) initial earlier middle)
    (ran
      : ServiceRuns runtime isPrintable
          (fun _ call => call.request.HandledBy KeepingHandler) initial (later ++ earlier) db)
    : KeepsHistory middle db := by
  induction later generalizing db with
  | nil =>
      obtain rfl := before.served_unique ran
      exact KeepsHistory.refl middle
  | cons event rest ih =>
      cases ran with
      | @next _ state _ _ ranBefore stepped =>
          refine KeepsHistory.trans _ _ _ (ih state ranBefore) ?_
          have grows :=
            serveService_grows KeepsHistory.requests KeepsHistory.touches runtime isPrintable
              event.1
              (fun draws payload request _ =>
                login_grows KeepsHistory.requests KeepsHistory.updates runtime draws event.1.now
                  payload request)
              (fun draws orgId email password name _ =>
                bootstrapped_grows KeepsHistory.requests KeepsHistory.bootstraps runtime
                  isPrintable draws event.1.now orgId email password name)
              stepped.1 state
          rwa [stepped.2] at grows

-----------------------------------------------------------------------------------------
-- A sign-in and a logout
-----------------------------------------------------------------------------------------

/-- The credentials of the sample user. -/
def samplePayload : LoginRequest where
  email := sampleUser.email
  password := "password"
  emailLength := by decide
  passwordLength := by decide

/-- The sample user logs in at time 0, and gets the token `a`. -/
def sampleSignIn : ServiceCall := ⟨0, .login ⟨"a", 1, "somesalt"⟩ samplePayload {}⟩

def sampleSignOut : ServiceCall := ⟨1, .logout ⟨some "a", none⟩⟩

/-- What the service answers to a call with every character printable. -/
def serveSample (db : Database) (call : ServiceCall) : ServiceAnswer × Database :=
  serveService sampleRuntime (fun _ => true) db call

/-- The database after the sign-in, and after the logout. -/
def signedInDatabase : Database := (serveSample sampleDatabase sampleSignIn).2

def signedOutDatabase : Database := (serveSample signedInDatabase sampleSignOut).2

/-- The logout keeps the session and the audit row of the login, and adds a row of its own. -/
theorem sampleSignOut_keeps_history
    : KeepsHistory signedInDatabase signedOutDatabase
      ∧ signedInDatabase.auditLog.map AuditLog.action = ["login.success"]
      ∧ signedOutDatabase.auditLog.map AuditLog.action = ["login.success", "logout"] := by
  have signedIn
      : ServiceRuns sampleRuntime (fun _ => true)
          (fun _ call => call.request.HandledBy KeepingHandler) sampleDatabase
          [(sampleSignIn, (serveSample sampleDatabase sampleSignIn).1)] signedInDatabase :=
    .next .start ⟨trivial, rfl⟩
  refine ⟨?_, rfl, rfl⟩
  exact service_keeps_history sampleRuntime (fun _ => true) sampleDatabase signedInDatabase
    signedOutDatabase _ [(sampleSignOut, (serveSample signedInDatabase sampleSignOut).1)]
    signedIn (.next signedIn ⟨trivial, rfl⟩)

end SpecterCloud.Service
