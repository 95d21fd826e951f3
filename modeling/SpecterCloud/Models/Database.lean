import SpecterCloud.Foundations.KeyedRows
import SpecterCloud.Foundations.UnitOfWork
import SpecterCloud.Models.Rows

/-! The database as the tables with the constraints that hold of every committed state, and
the statements that the application sends to it.
-/

namespace SpecterCloud.Models

open SpecterCloud.Foundations

/-- The exceptions of the modelled code: those of the database driver and the session, and
those the application raises itself.
-/
inductive Raised
  | integrityError (column : String)
  | dataError (table : String)
  | inFailedTransaction
  | pendingRollback
  | multipleResultsFound
  | httpException (statusCode : Nat) (detail : String) (headers : List (String × String))
  | valueError (message : String)
deriving DecidableEq

instance : TransactionErrors Raised where
  inFailedTransaction := .inFailedTransaction
  pendingRollback := .pendingRollback

/-- The tables that `check_permission` reads, with their primary keys and `roles.name`. -/
structure AccessTables where
  orgs : List Org
  userRoles : List UserRole
  roles : List Role
  orgIds : (orgs.map Org.id).Nodup
  grantKeys : (userRoles.map UserRole.key).Nodup
  roleIds : (roles.map Role.id).Nodup
  roleNames : (roles.map Role.name).Nodup

/-- The whole database: unique constraints, the reference of users to their org, and text
that is read back as it was stored.
-/
structure Database extends AccessTables where
  users : List User
  sessions : List Session
  auditLog : List AuditLog
  orgSlugs : (orgs.map Org.slug).Nodup
  userIds : (users.map User.id).Nodup
  userEmails : (users.map User.email).Nodup
  sessionIds : (sessions.map Session.id).Nodup
  sessionTokenHashes : (sessions.map Session.tokenHash).Nodup
  userOrgs : ∀ user ∈ users, user.orgId ∈ orgs.map Org.id
  userEmailsStorable : ∀ user ∈ users, Storable user.email
  roleNamesStorable : ∀ role ∈ roles, Storable role.name

/-- The empty database. -/
def Database.empty : Database where
  orgs := []
  userRoles := []
  roles := []
  orgIds := .nil
  grantKeys := .nil
  roleIds := .nil
  roleNames := .nil
  users := []
  sessions := []
  auditLog := []
  orgSlugs := .nil
  userIds := .nil
  userEmails := .nil
  sessionIds := .nil
  sessionTokenHashes := .nil
  userOrgs := by simp
  userEmailsStorable := by simp
  roleNamesStorable := by simp

/-- One org with one user, who holds the given grants of the given roles. -/
def Database.singleUser (org : Org) (user : User) (home : user.orgId = org.id)
    (storable : Storable user.email) (userRoles : List UserRole) (roles : List Role)
    (grantKeys : (userRoles.map UserRole.key).Nodup) (roleIds : (roles.map Role.id).Nodup)
    (roleNames : (roles.map Role.name).Nodup)
    (roleNamesStorable : ∀ role ∈ roles, Storable role.name)
    : Database where
  orgs := [org]
  userRoles
  roles
  orgIds := List.nodup_singleton _
  grantKeys
  roleIds
  roleNames
  users := [user]
  sessions := []
  auditLog := []
  orgSlugs := List.nodup_singleton _
  userIds := List.nodup_singleton _
  userEmails := List.nodup_singleton _
  sessionIds := .nil
  sessionTokenHashes := .nil
  userOrgs := by simp [home]
  userEmailsStorable := by simpa using storable
  roleNamesStorable

def AccessTables.orgById (tables : AccessTables) (id : UUID) : Option Org :=
  findBy Org.id id tables.orgs

def Database.userById (db : Database) (id : UUID) : Option User :=
  findBy User.id id db.users

def Database.sessionById (db : Database) (id : UUID) : Option Session :=
  findBy Session.id id db.sessions

def Database.sessionByTokenHash (db : Database) (tokenHash : String) : Option Session :=
  findBy Session.tokenHash tokenHash db.sessions

/-- `select(User).where(User.email == email)`; text that cannot be sent is an error. -/
def Database.userByEmail (db : Database) (email : String) : Except Raised (Option User) :=
  if Storable email then .ok (findBy User.email email db.users) else .error (.dataError "users")

/-- An answered query was sent, and its answer is the user under the email. -/
theorem Database.userByEmail_answered {db : Database} {email : String} {answer : Option User}
    (answered : db.userByEmail email = .ok answer)
    : Storable email ∧ findBy User.email email db.users = answer := by
  unfold userByEmail at answered
  split at answered
  · rename_i storable
    exact ⟨storable, Except.ok.inj answered⟩
  · cases answered

/-- The query for a user reads nothing but the users. -/
theorem Database.userByEmail_congr {before after : Database} (same : after.users = before.users)
    (email : String)
    : after.userByEmail email = before.userByEmail email := by
  unfold userByEmail
  rw [same]

-----------------------------------------------------------------------------------------
-- Updates of single columns
-----------------------------------------------------------------------------------------

/-- The `SET` list of an `UPDATE users`: the columns whose values were changed. -/
structure UserColumns where
  passwordHash : Option String := none
  lastLoginAt : Option (Option Instant) := none
  failedLoginCount : Option Int := none
  lockedUntil : Option (Option Instant) := none

/-- The row after the update; `updated_at` has `onupdate=func.now()`. -/
def UserColumns.write (columns : UserColumns) (now : Instant) (row : User) : User :=
  { row with
    passwordHash := columns.passwordHash.getD row.passwordHash
    lastLoginAt := columns.lastLoginAt.getD row.lastLoginAt
    failedLoginCount := columns.failedLoginCount.getD row.failedLoginCount
    lockedUntil := columns.lockedUntil.getD row.lockedUntil
    updatedAt := now }

/-- The `SET` list of an `UPDATE sessions`. -/
structure SessionColumns where
  lastSeenAt : Option Instant := none
  revokedAt : Option (Option Instant) := none
  revokedReason : Option (Option String) := none

def SessionColumns.write (columns : SessionColumns) (row : Session) : Session :=
  { row with
    lastSeenAt := columns.lastSeenAt.getD row.lastSeenAt
    revokedAt := columns.revokedAt.getD row.revokedAt
    revokedReason := columns.revokedReason.getD row.revokedReason }

/-- The database with the columns of one user written. -/
def Database.writeUser (id : UUID) (columns : UserColumns) (now : Instant) (db : Database)
    : Database :=
  { db with
    users := rewriteWhere (fun user => user.id = id) (columns.write now) db.users
    userIds := nodup_rewriteWhere db.userIds (fun _ => rfl)
    userEmails := nodup_rewriteWhere db.userEmails (fun _ => rfl)
    userOrgs := by
      intro user member
      obtain ⟨old, stored, rfl⟩ := mem_rewriteWhere.mp member
      have known := db.userOrgs old stored
      split <;> exact known
    userEmailsStorable := by
      intro user member
      obtain ⟨old, stored, rfl⟩ := mem_rewriteWhere.mp member
      have storable := db.userEmailsStorable old stored
      split <;> exact storable }

/-- Writing columns of a user keeps every user under its id. -/
theorem Database.writeUser_ids (id : UUID) (columns : UserColumns) (now : Instant)
    (db : Database)
    : (db.writeUser id columns now).users.map User.id = db.users.map User.id := by
  have keeps : ∀ user, (columns.write now user).id = user.id := fun _ => rfl
  exact map_rewriteWhere keeps db.users

/-- Lookup by email after a write finds the same user, as written. -/
theorem Database.writeUser_userByEmail (id : UUID) (columns : UserColumns) (now : Instant)
    (db : Database) (email : String)
    : (db.writeUser id columns now).userByEmail email
      = (db.userByEmail email).map
          (Option.map (fun user => if user.id = id then columns.write now user else user)) := by
  have keeps : ∀ user, (columns.write now user).email = user.email := fun _ => rfl
  unfold userByEmail writeUser
  rw [findBy_rewriteWhere keeps]
  split <;> simp [Except.map]

/-- `UPDATE users SET … WHERE id = …`. -/
def Database.updateUser (id : UUID) (columns : UserColumns) (now : Instant) (db : Database)
    : Except Raised Database :=
  if NullOr (FitsString 128) columns.passwordHash then
    .ok (db.writeUser id columns now)
  else
    .error (.dataError "users")

/-- The database with the columns of one session written. -/
def Database.writeSession (id : UUID) (columns : SessionColumns) (db : Database) : Database :=
  { db with
    sessions := rewriteWhere (fun session => session.id = id) columns.write db.sessions
    sessionIds := nodup_rewriteWhere db.sessionIds (fun _ => rfl)
    sessionTokenHashes := nodup_rewriteWhere db.sessionTokenHashes (fun _ => rfl) }

theorem Database.writeSession_sessions (id : UUID) (columns : SessionColumns) (db : Database)
    : (db.writeSession id columns).sessions
      = rewriteWhere (fun session => session.id = id) columns.write db.sessions :=
  rfl

/-- Lookup by token hash after a write finds the same session, as written. -/
theorem Database.writeSession_sessionByTokenHash (id : UUID) (columns : SessionColumns)
    (db : Database) (tokenHash : String)
    : (db.writeSession id columns).sessionByTokenHash tokenHash
      = (db.sessionByTokenHash tokenHash).map
          (fun session => if session.id = id then columns.write session else session) := by
  have keeps : ∀ session, (columns.write session).tokenHash = session.tokenHash := fun _ => rfl
  unfold sessionByTokenHash writeSession
  rw [findBy_rewriteWhere keeps]
  simp

/-- Lookup by id after a write finds the same session, as written. -/
theorem Database.writeSession_sessionById (id wanted : UUID) (columns : SessionColumns)
    (db : Database)
    : (db.writeSession id columns).sessionById wanted
      = (db.sessionById wanted).map
          (fun session => if session.id = id then columns.write session else session) := by
  have keeps : ∀ session, (columns.write session).id = session.id := fun _ => rfl
  unfold sessionById writeSession
  rw [findBy_rewriteWhere keeps]
  simp

/-- `UPDATE sessions SET … WHERE id = …`. -/
def Database.updateSession (id : UUID) (columns : SessionColumns) (db : Database)
    : Except Raised Database :=
  if NullOr (NullOr (FitsString 40)) columns.revokedReason then
    .ok (db.writeSession id columns)
  else
    .error (.dataError "sessions")

-----------------------------------------------------------------------------------------
-- Inserts
-----------------------------------------------------------------------------------------

/-- The limits, keys and reference that a session row has to meet. -/
structure Database.AcceptsSession (db : Database) (row : Session) : Prop where
  fits : row.Fits
  freshId : row.id ∉ db.sessions.map Session.id
  freshTokenHash : row.tokenHash ∉ db.sessions.map Session.tokenHash
  userId : row.userId ∈ db.users.map User.id

/-- The database with one more session. -/
def Database.withSession (db : Database) (row : Session) (accepted : db.AcceptsSession row)
    : Database :=
  { db with
    sessions := db.sessions ++ [row]
    sessionIds := nodup_append_fresh db.sessionIds accepted.freshId
    sessionTokenHashes := nodup_append_fresh db.sessionTokenHashes accepted.freshTokenHash }

/-- `INSERT INTO sessions`: column limits, then keys, then the reference to `users`. -/
def Database.insertSession (row : Session) (db : Database) : Except Raised Database :=
  if fits : ¬ row.Fits then
    .error (.dataError "sessions")
  else if freshId : row.id ∈ db.sessions.map Session.id then
    .error (.integrityError "sessions.id")
  else if freshTokenHash : row.tokenHash ∈ db.sessions.map Session.tokenHash then
    .error (.integrityError "sessions.token_hash")
  else if userId : row.userId ∉ db.users.map User.id then
    .error (.integrityError "sessions.user_id")
  else
    .ok (db.withSession row ⟨not_not.mp fits, freshId, freshTokenHash, not_not.mp userId⟩)

/-- `INSERT INTO audit_log`: column limits, then the four nullable references. -/
def Database.insertAuditLog (row : AuditLog) (db : Database) : Except Raised Database :=
  if ¬ row.Fits then
    .error (.dataError "audit_log")
  else if ¬ NullOr (· ∈ db.users.map User.id) row.userId then
    .error (.integrityError "audit_log.user_id")
  else if ¬ NullOr (· ∈ db.orgs.map Org.id) row.targetOrgId then
    .error (.integrityError "audit_log.target_org_id")
  else if ¬ NullOr (· ∈ db.roles.map Role.id) row.matchedRoleId then
    .error (.integrityError "audit_log.matched_role_id")
  else if ¬ NullOr (· ∈ db.orgs.map Org.id) row.matchedOrgId then
    .error (.integrityError "audit_log.matched_org_id")
  else
    .ok { db with auditLog := db.auditLog ++ [row] }

/-- A user that is updated has the columns written. -/
theorem Database.updateUser_ok {id : UUID} {columns : UserColumns} {now : Instant}
    {db next : Database} (ran : db.updateUser id columns now = .ok next)
    : next = db.writeUser id columns now := by
  unfold updateUser at ran
  split at ran
  · exact (Except.ok.inj ran).symm
  · cases ran

/-- A session that is updated has the columns written. -/
theorem Database.updateSession_ok {id : UUID} {columns : SessionColumns} {db next : Database}
    (ran : db.updateSession id columns = .ok next)
    : next = db.writeSession id columns := by
  unfold updateSession at ran
  split at ran
  · exact (Except.ok.inj ran).symm
  · cases ran

/-- An accepted session is appended and nothing else changes. -/
theorem Database.insertSession_accepted {db : Database} {row : Session}
    (accepted : db.AcceptsSession row)
    : db.insertSession row = .ok (db.withSession row accepted) := by
  unfold insertSession
  rw [dif_neg (not_not.mpr accepted.fits), dif_neg accepted.freshId,
    dif_neg accepted.freshTokenHash, dif_neg (not_not.mpr accepted.userId)]

/-- A session that breaks a limit, a key or the reference makes the insert raise. -/
theorem Database.insertSession_rejected {db : Database} {row : Session}
    (rejected : ¬ db.AcceptsSession row)
    : ∃ error, db.insertSession row = .error error := by
  unfold insertSession
  split
  · exact ⟨_, rfl⟩
  rename_i fits
  split
  · exact ⟨_, rfl⟩
  rename_i freshId
  split
  · exact ⟨_, rfl⟩
  rename_i freshTokenHash
  split
  · exact ⟨_, rfl⟩
  rename_i userId
  exact absurd ⟨not_not.mp fits, freshId, freshTokenHash, not_not.mp userId⟩ rejected

/-- A session that is inserted is accepted and appended. -/
theorem Database.insertSession_ok {db next : Database} {row : Session}
    (ran : db.insertSession row = .ok next)
    : ∃ accepted, next = db.withSession row accepted := by
  by_cases accepted : db.AcceptsSession row
  · exact ⟨accepted, Except.ok.inj (ran.symm.trans (insertSession_accepted accepted))⟩
  · obtain ⟨error, rejected⟩ := insertSession_rejected accepted
    cases rejected.symm.trans ran

/-- The limits and references that an audit row has to meet. -/
structure Database.AcceptsAuditLog (db : Database) (row : AuditLog) : Prop where
  fits : row.Fits
  userId : NullOr (· ∈ db.users.map User.id) row.userId
  targetOrgId : NullOr (· ∈ db.orgs.map Org.id) row.targetOrgId
  matchedRoleId : NullOr (· ∈ db.roles.map Role.id) row.matchedRoleId
  matchedOrgId : NullOr (· ∈ db.orgs.map Org.id) row.matchedOrgId

/-- The database with one more audit row. -/
def Database.withAuditRow (db : Database) (row : AuditLog) : Database :=
  { db with auditLog := db.auditLog ++ [row] }

/-- An accepted row is appended and nothing else changes. -/
theorem Database.insertAuditLog_accepted {db : Database} {row : AuditLog}
    (accepted : db.AcceptsAuditLog row)
    : db.insertAuditLog row = .ok (db.withAuditRow row) := by
  unfold insertAuditLog
  rw [if_neg (not_not.mpr accepted.fits), if_neg (not_not.mpr accepted.userId),
    if_neg (not_not.mpr accepted.targetOrgId), if_neg (not_not.mpr accepted.matchedRoleId),
    if_neg (not_not.mpr accepted.matchedOrgId)]
  rfl

/-- A row that breaks a limit or a reference makes the insert raise. -/
theorem Database.insertAuditLog_rejected {db : Database} {row : AuditLog}
    (rejected : ¬ db.AcceptsAuditLog row)
    : ∃ error, db.insertAuditLog row = .error error := by
  unfold insertAuditLog
  split
  · exact ⟨_, rfl⟩
  rename_i fits
  split
  · exact ⟨_, rfl⟩
  rename_i userId
  split
  · exact ⟨_, rfl⟩
  rename_i targetOrgId
  split
  · exact ⟨_, rfl⟩
  rename_i matchedRoleId
  split
  · exact ⟨_, rfl⟩
  rename_i matchedOrgId
  exact absurd ⟨not_not.mp fits, not_not.mp userId, not_not.mp targetOrgId,
    not_not.mp matchedRoleId, not_not.mp matchedOrgId⟩ rejected

/-- A row that is inserted is appended. -/
theorem Database.insertAuditLog_ok {db next : Database} {row : AuditLog}
    (ran : db.insertAuditLog row = .ok next)
    : next = db.withAuditRow row := by
  by_cases accepted : db.AcceptsAuditLog row
  · exact Except.ok.inj (ran.symm.trans (insertAuditLog_accepted accepted))
  · obtain ⟨error, rejected⟩ := insertAuditLog_rejected accepted
    cases rejected.symm.trans ran

/-- A database is never the same with one more audit row. -/
theorem Database.withAuditRow_ne (db : Database) (row : AuditLog)
    : db.withAuditRow row ≠ db := by
  intro same
  have length := congrArg (fun database => database.auditLog.length) same
  simp [withAuditRow] at length

end SpecterCloud.Models
