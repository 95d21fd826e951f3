import SpecterCloud.Migrations.Contents

/-! The statements of the application on a migrated database. What a statement does to a
`Database` is what the server does to the tables that hold it, and it is refused exactly when the
constraints of the tables refuse it.
-/

namespace SpecterCloud.Migrations

open SpecterCloud.Foundations
open SpecterCloud.Foundations.Relational
open SpecterCloud.Models

-----------------------------------------------------------------------------------------
-- Statements
-----------------------------------------------------------------------------------------

/-- A statement as the server gets it. -/
inductive SqlStatement
  | insert (table : String) (given : List (String × SqlValue))
  | update (table : String) (matching : Row SqlValue → Bool) (assignments : Row SqlValue)

namespace SqlStatement

/-- The store after a statement, before its constraints are checked. -/
def result (now : Instant) (store : MigratedStore) : SqlStatement → MigratedStore
  | insert table given => (Operation.bulkInsert table [given]).result (evaluate now) store
  | update table matching assignments =>
      { store with
        rows :=
          Function.update store.rows table
            (rewriteWhere matching (setRow assignments) (store.rows table)) }

/-- What the server does in a transaction that has begun at `now`. -/
def execute (now : Instant) (store : MigratedStore)
    : SqlStatement → Except Refusal MigratedStore
  | insert table given =>
      Operation.apply (evaluate now) admits (.bulkInsert table [given]) store
  | update table matching assignments =>
      let after := (update table matching assignments).result now store
      if after.meets admits then .ok after else .error .constraintViolation

end SqlStatement

/-- The statements of `Database`. An audit row gets its id from the sequence. -/
inductive DbStatement
  | insertSession (row : Session)
  | insertAuditLog (id : Int) (row : AuditLog)
  | insertOrg (row : Org)
  | insertUser (row : User)
  | insertUserRole (row : UserRole)
  | updateUser (id : UUID) (columns : UserColumns) (now : Instant)
  | updateSession (id : UUID) (columns : SessionColumns)

/-- The columns that an `UPDATE users` may set. -/
def userFields (columns : UserColumns) (now : Instant)
    : List (String × Option (Option SqlValue)) :=
  [
    ("password_hash", columns.passwordHash.map (fun hashed => some (.text hashed))),
    ("last_login_at", columns.lastLoginAt.map (Option.map .dateTime)),
    ("failed_login_count", columns.failedLoginCount.map (fun count => some (.integer count))),
    ("locked_until", columns.lockedUntil.map (Option.map .dateTime)),
    ("updated_at", some (some (.dateTime now)))
  ]

/-- The columns that an `UPDATE sessions` may set. -/
def sessionFields (columns : SessionColumns) : List (String × Option (Option SqlValue)) :=
  [
    ("last_seen_at", columns.lastSeenAt.map (fun seenAt => some (.dateTime seenAt))),
    ("revoked_at", columns.revokedAt.map (Option.map .dateTime)),
    ("revoked_reason", columns.revokedReason.map (Option.map .text))
  ]

/-- `WHERE id = …`. -/
def hasId (id : UUID) (row : Row SqlValue) : Bool := valueOf row "id" = some (.uuid id)

namespace DbStatement

/-- The statement on the database. -/
def run : DbStatement → Database → Except Raised Database
  | insertSession row => Database.insertSession row
  | insertAuditLog _ row => Database.insertAuditLog row
  | insertOrg row => Database.insertOrg row
  | insertUser row => Database.insertUser row
  | insertUserRole row => Database.insertUserRole row
  | updateUser id columns now => Database.updateUser id columns now
  | updateSession id columns => Database.updateSession id columns

/-- The statement that the server gets. -/
def sql (document : List (String × ExtraValue) → String) : DbStatement → SqlStatement
  | insertSession row => .insert "sessions" (sessionRecords.given row)
  | insertAuditLog id row => .insert "audit_log" ((auditRecords document).given (id, row))
  | insertOrg row => .insert "orgs" (orgRecords.given row)
  | insertUser row => .insert "users" (userRecords.given row)
  | insertUserRole row => .insert "user_roles" (userRoleRecords.given (row, none))
  | updateUser id columns now => .update "users" (hasId id) (present (userFields columns now))
  | updateSession id columns => .update "sessions" (hasId id) (present (sessionFields columns))

/-- The records after the statement. -/
def change (records : StoredRecords) : DbStatement → StoredRecords
  | insertSession row => { records with sessions := records.sessions ++ [row] }
  | insertAuditLog id row => { records with auditLog := records.auditLog ++ [(id, row)] }
  | insertOrg row => { records with orgs := records.orgs ++ [row] }
  | insertUser row => { records with users := records.users ++ [row] }
  | insertUserRole row => { records with userRoles := records.userRoles ++ [(row, none)] }
  | updateUser id columns now =>
      { records with
        users := rewriteWhere (fun user => user.id = id) (columns.write now) records.users }
  | updateSession id columns =>
      { records with
        sessions :=
          rewriteWhere (fun session => session.id = id) columns.write records.sessions }

/-- What the application and the sequence see to: an audit row has a new id of 64 bits and a
document that JSONB holds, orgs have no parent, grants are given by nobody, and the counts of
failed logins have 32 bits.
-/
def Sound (records : StoredRecords) : DbStatement → Prop
  | insertAuditLog id row =>
      id ∉ records.auditLog.map Prod.fst ∧ fitsBits 64 id = true
      ∧ NullOr (fun extra => ∀ entry ∈ extra, Storable entry.1 ∧ entry.2.Storable) row.extra
  | insertOrg row => row.parentOrgId = none
  | insertUser row => fitsBits 32 row.failedLoginCount = true
  | insertUserRole row => row.grantedBy = none
  | updateUser _ columns _ =>
      NullOr (fun count => fitsBits 32 count = true) columns.failedLoginCount
  | _ => True

/-- An `UPDATE` has a row to write. -/
def Hits (records : StoredRecords) : DbStatement → Prop
  | updateUser id _ _ => id ∈ records.users.map User.id
  | updateSession id _ => id ∈ records.sessions.map Session.id
  | _ => True

/-- What the database asks of the statement. -/
def Accepted (db : Database) : DbStatement → Prop
  | insertSession row => db.AcceptsSession row
  | insertAuditLog _ row => db.AcceptsAuditLog row
  | insertOrg row => db.AcceptsOrg row
  | insertUser row => db.AcceptsUser row
  | insertUserRole row => db.AcceptsUserRole row
  | updateUser _ columns _ => NullOr (FitsString 128) columns.passwordHash
  | updateSession _ columns => NullOr (NullOr (FitsString 40)) columns.revokedReason

end DbStatement

/-- The records are those of the database. -/
structure StoredRecords.Shows (records : StoredRecords) (db : Database) : Prop where
  orgs : db.orgs = records.orgs
  users : db.users = records.users
  roles : db.roles = records.roles
  userRoles : db.userRoles = records.userRoles.map Prod.fst
  sessions : db.sessions = records.sessions
  auditLog : db.auditLog = records.auditLog.map Prod.snd

-----------------------------------------------------------------------------------------
-- On the database
-----------------------------------------------------------------------------------------

section Database

variable {records : StoredRecords} {db after : Database} {statement : DbStatement}

/-- A statement that is accepted changes the records. -/
theorem DbStatement.run_accepted (shows : records.Shows db) (accepted : statement.Accepted db)
    : ∃ after, statement.run db = .ok after ∧ (statement.change records).Shows after := by
  cases statement with
  | insertSession row =>
      refine ⟨_, Database.insertSession_accepted accepted, ?_⟩
      exact { shows with sessions := congrArg (· ++ [row]) shows.sessions }
  | insertAuditLog id row =>
      refine ⟨_, Database.insertAuditLog_accepted accepted, ?_⟩
      refine { shows with auditLog := ?_ }
      show db.auditLog ++ [row] = (records.auditLog ++ [(id, row)]).map Prod.snd
      rw [shows.auditLog, List.map_append]
      rfl
  | insertOrg row =>
      refine ⟨_, Database.insertOrg_accepted accepted, ?_⟩
      exact { shows with orgs := congrArg (· ++ [row]) shows.orgs }
  | insertUser row =>
      refine ⟨_, Database.insertUser_accepted accepted, ?_⟩
      exact { shows with users := congrArg (· ++ [row]) shows.users }
  | insertUserRole row =>
      refine ⟨_, Database.insertUserRole_accepted accepted, ?_⟩
      refine { shows with userRoles := ?_ }
      show db.userRoles ++ [row] = (records.userRoles ++ [(row, none)]).map Prod.fst
      rw [shows.userRoles, List.map_append]
      rfl
  | updateUser id columns now =>
      refine ⟨_, if_pos accepted, ?_⟩
      refine { shows with users := ?_ }
      show rewriteWhere _ _ db.users = rewriteWhere _ _ records.users
      rw [shows.users]
  | updateSession id columns =>
      refine ⟨_, if_pos accepted, ?_⟩
      refine { shows with sessions := ?_ }
      show rewriteWhere _ _ db.sessions = rewriteWhere _ _ records.sessions
      rw [shows.sessions]

/-- A statement that is carried out is accepted. -/
theorem DbStatement.accepted_of_run (ran : statement.run db = .ok after)
    : statement.Accepted db := by
  cases statement with
  | insertSession row => exact (Database.insertSession_ok ran).1
  | insertAuditLog id row =>
      by_contra rejected
      obtain ⟨error, refused⟩ := Database.insertAuditLog_rejected rejected
      cases refused.symm.trans ran
  | insertOrg row => exact (Database.insertOrg_ok ran).1
  | insertUser row => exact (Database.insertUser_ok ran).1
  | insertUserRole row => exact (Database.insertUserRole_ok ran).1
  | updateUser id columns now =>
      by_contra unfit
      cases (if_neg unfit).symm.trans ran
  | updateSession id columns =>
      by_contra unfit
      cases (if_neg unfit).symm.trans ran

end Database

-----------------------------------------------------------------------------------------
-- On the records
-----------------------------------------------------------------------------------------

section Growth

variable {orgs more : List Org} {users others : List User} {roles : List Role}
  {drones : List Drone} {grants : List (UserRole × Option UUID)} {sessions : List Session}
  {entries : List (Int × AuditLog)}

theorem nullOr_imp {α : Type} {accepts other : α → Prop}
    (implies : ∀ value, accepts value → other value) {value : Option α}
    (accepted : NullOr accepts value)
    : NullOr other value := by
  cases value with
  | none => trivial
  | some value => exact implies value accepted

/-- One more row has the keys unique if its own is new. -/
theorem nodup_snoc_iff {α K : Type} {rows : List α} {row : α} {key : α → K}
    : ((rows ++ [row]).map key).Nodup ↔ (rows.map key).Nodup ∧ key row ∉ rows.map key := by
  constructor
  · intro unique
    rw [List.map_append, List.nodup_append] at unique
    exact ⟨unique.1, fun known => unique.2.2 _ known _ (by simp) rfl⟩
  · exact fun ⟨unique, fresh⟩ => nodup_append_fresh unique fresh

/-- References to orgs are none the worse for more orgs. -/
theorem DronesConsistent.grow (consistent : DronesConsistent orgs drones)
    (known : orgs.map Org.id ⊆ more.map Org.id)
    : DronesConsistent more drones :=
  { consistent with
    orgsKnown := fun drone stored => known (consistent.orgsKnown drone stored) }

theorem UsersConsistent.grow (consistent : UsersConsistent orgs users)
    (known : orgs.map Org.id ⊆ more.map Org.id)
    : UsersConsistent more users :=
  { consistent with
    orgsKnown := fun user stored => known (consistent.orgsKnown user stored) }

theorem UserRolesConsistent.grow (consistent : UserRolesConsistent orgs users roles grants)
    (known : orgs.map Org.id ⊆ more.map Org.id)
    (knownUsers : users.map User.id ⊆ others.map User.id)
    : UserRolesConsistent more others roles grants where
  keys := consistent.keys
  usersKnown := fun grant stored => knownUsers (consistent.usersKnown grant stored)
  orgsKnown := fun grant stored => known (consistent.orgsKnown grant stored)
  rolesKnown := consistent.rolesKnown
  grantersKnown := fun grant stored =>
    nullOr_imp (fun _ => @knownUsers _) (consistent.grantersKnown grant stored)
  revokersKnown := fun grant stored =>
    nullOr_imp (fun _ => @knownUsers _) (consistent.revokersKnown grant stored)

theorem SessionsConsistent.grow (consistent : SessionsConsistent users sessions)
    (known : users.map User.id ⊆ others.map User.id)
    : SessionsConsistent others sessions :=
  { consistent with
    usersKnown := fun session stored => known (consistent.usersKnown session stored) }

theorem AuditLogConsistent.grow (consistent : AuditLogConsistent orgs users roles entries)
    (known : orgs.map Org.id ⊆ more.map Org.id)
    (knownUsers : users.map User.id ⊆ others.map User.id)
    : AuditLogConsistent more others roles entries where
  ids := consistent.ids
  idsFit := consistent.idsFit
  usersKnown := fun entry stored =>
    nullOr_imp (fun _ => @knownUsers _) (consistent.usersKnown entry stored)
  targetOrgsKnown := fun entry stored =>
    nullOr_imp (fun _ => @known _) (consistent.targetOrgsKnown entry stored)
  matchedRolesKnown := consistent.matchedRolesKnown
  matchedOrgsKnown := fun entry stored =>
    nullOr_imp (fun _ => @known _) (consistent.matchedOrgsKnown entry stored)
  fits := consistent.fits

end Growth

-----------------------------------------------------------------------------------------
-- What is asked of more records
-----------------------------------------------------------------------------------------

section Asked

variable {records : StoredRecords} {db : Database}

/-- The database of the records is the only one. -/
theorem StoredRecords.Shows.unique (shows : records.Shows db) (consistent : records.Consistent)
    : db = records.database consistent := by
  obtain ⟨⟨orgs, userRoles, roles, _, _, _, _⟩, users, sessions, auditLog, _⟩ := db
  obtain ⟨rfl, rfl, rfl, rfl, rfl, rfl⟩ := shows
  rfl

theorem forall_mem_snoc_iff {α : Type} {rows : List α} {row : α} {p : α → Prop}
    : (∀ other ∈ rows ++ [row], p other) ↔ (∀ other ∈ rows, p other) ∧ p row := by
  rw [List.forall_mem_append, List.forall_mem_singleton]

variable (consistent : records.Consistent)

theorem insertSession_consistent_iff (row : Session)
    : ({ records with sessions := records.sessions ++ [row] } : StoredRecords).Consistent
      ↔ (records.database consistent).AcceptsSession row := by
  have asked
      : SessionsConsistent records.users (records.sessions ++ [row])
        ↔ SessionsConsistent records.users records.sessions
          ∧ row.id ∉ records.sessions.map Session.id
          ∧ row.tokenHash ∉ records.sessions.map Session.tokenHash
          ∧ row.userId ∈ records.users.map User.id ∧ row.Fits := by
    simp only [sessionsConsistent_iff, nodup_snoc_iff, forall_mem_snoc_iff]
    tauto
  constructor
  · intro after
    obtain ⟨_, freshId, freshTokenHash, userId, fits⟩ := asked.mp after.sessions
    exact ⟨fits, freshId, freshTokenHash, userId⟩
  · intro ⟨fits, freshId, freshTokenHash, userId⟩
    have after := asked.mpr ⟨consistent.sessions, freshId, freshTokenHash, userId, fits⟩
    exact { consistent with sessions := after }

/-- The id comes from the sequence, and the document is one that JSONB holds. -/
theorem insertAuditLog_consistent_iff {id : Int} {row : AuditLog}
    (fresh : id ∉ records.auditLog.map Prod.fst) (idFits : fitsBits 64 id = true)
    (document
      : NullOr (fun extra => ∀ entry ∈ extra, Storable entry.1 ∧ entry.2.Storable) row.extra)
    : ({ records with auditLog := records.auditLog ++ [(id, row)] } : StoredRecords).Consistent
      ↔ (records.database consistent).AcceptsAuditLog row := by
  have asked
      : AuditLogConsistent records.orgs records.users records.roles
          (records.auditLog ++ [(id, row)])
        ↔ AuditLogConsistent records.orgs records.users records.roles records.auditLog
          ∧ id ∉ records.auditLog.map Prod.fst ∧ fitsBits 64 id = true
          ∧ NullOr (· ∈ records.users.map User.id) row.userId
          ∧ NullOr (· ∈ records.orgs.map Org.id) row.targetOrgId
          ∧ NullOr (· ∈ records.roles.map Role.id) row.matchedRoleId
          ∧ NullOr (· ∈ records.orgs.map Org.id) row.matchedOrgId ∧ AuditColumnsFit row := by
    simp only [auditLogConsistent_iff, nodup_snoc_iff, forall_mem_snoc_iff]
    tauto
  constructor
  · intro after
    obtain ⟨_, _, _, userId, targetOrgId, matchedRoleId, matchedOrgId, fits⟩ :=
      asked.mp after.auditLog
    refine ⟨?_, userId, targetOrgId, matchedRoleId, matchedOrgId⟩
    exact ⟨fits.action, fits.permission, fits.resourceType, fits.resourceId, fits.decision,
      fits.reason, fits.userAgent, document⟩
  · intro ⟨fits, userId, targetOrgId, matchedRoleId, matchedOrgId⟩
    have columns : AuditColumnsFit row :=
      ⟨fits.action, fits.permission, fits.resourceType, fits.resourceId, fits.decision,
        fits.reason, fits.userAgent⟩
    have after :=
      asked.mpr
        ⟨consistent.auditLog, fresh, idFits, userId, targetOrgId, matchedRoleId, matchedOrgId,
          columns⟩
    exact { consistent with auditLog := after }

theorem insertOrg_consistent_iff {row : Org} (root : row.parentOrgId = none)
    : ({ records with orgs := records.orgs ++ [row] } : StoredRecords).Consistent
      ↔ (records.database consistent).AcceptsOrg row := by
  constructor
  · intro after
    have ids := (nodup_snoc_iff.mp after.orgs.ids).2
    have slugs := (nodup_snoc_iff.mp after.orgs.slugs).2
    exact ⟨(forall_mem_snoc_iff.mp after.orgs.fits).2, ids, slugs⟩
  · intro ⟨fits, freshId, freshSlug⟩
    have known : records.orgs.map Org.id ⊆ (records.orgs ++ [row]).map Org.id := by simp
    have orgs : OrgsConsistent (records.orgs ++ [row]) := by
      refine ⟨nodup_snoc_iff.mpr ⟨consistent.orgs.ids, freshId⟩,
        nodup_snoc_iff.mpr ⟨consistent.orgs.slugs, freshSlug⟩, ?_,
        forall_mem_snoc_iff.mpr ⟨consistent.orgs.fits, fits⟩⟩
      refine forall_mem_snoc_iff.mpr ⟨fun org stored => ?_, ?_⟩
      · exact nullOr_imp (fun _ => @known _) (consistent.orgs.parentsKnown org stored)
      · rw [root]
        trivial
    exact
      { consistent with
        orgs
        drones := consistent.drones.grow known
        users := consistent.users.grow known
        userRoles := consistent.userRoles.grow known (List.Subset.refl _)
        auditLog := consistent.auditLog.grow known (List.Subset.refl _) }

theorem insertUser_consistent_iff {row : User}
    (counted : fitsBits 32 row.failedLoginCount = true)
    : ({ records with users := records.users ++ [row] } : StoredRecords).Consistent
      ↔ (records.database consistent).AcceptsUser row := by
  have asked
      : UsersConsistent records.orgs (records.users ++ [row])
        ↔ UsersConsistent records.orgs records.users ∧ row.id ∉ records.users.map User.id
          ∧ row.email ∉ records.users.map User.email ∧ row.orgId ∈ records.orgs.map Org.id
          ∧ row.Fits ∧ fitsBits 32 row.failedLoginCount = true := by
    simp only [usersConsistent_iff, nodup_snoc_iff, forall_mem_snoc_iff]
    tauto
  constructor
  · intro after
    obtain ⟨_, freshId, freshEmail, orgId, fits, _⟩ := asked.mp after.users
    exact ⟨fits, freshId, freshEmail, orgId⟩
  · intro ⟨fits, freshId, freshEmail, orgId⟩
    have known : records.users.map User.id ⊆ (records.users ++ [row]).map User.id := by simp
    have users := asked.mpr ⟨consistent.users, freshId, freshEmail, orgId, fits, counted⟩
    exact
      { consistent with
        users
        userRoles := consistent.userRoles.grow (List.Subset.refl _) known
        sessions := consistent.sessions.grow known
        auditLog := consistent.auditLog.grow (List.Subset.refl _) known }

theorem insertUserRole_consistent_iff {row : UserRole} (ungranted : row.grantedBy = none)
    : ({ records with userRoles := records.userRoles ++ [(row, none)] }
        : StoredRecords).Consistent
      ↔ (records.database consistent).AcceptsUserRole row := by
  have asked
      : UserRolesConsistent records.orgs records.users records.roles
          (records.userRoles ++ [(row, none)])
        ↔ UserRolesConsistent records.orgs records.users records.roles records.userRoles
          ∧ row.key ∉ records.userRoles.map (fun grant => grant.1.key)
          ∧ row.userId ∈ records.users.map User.id ∧ row.orgId ∈ records.orgs.map Org.id
          ∧ row.roleId ∈ records.roles.map Role.id
          ∧ NullOr (· ∈ records.users.map User.id) row.grantedBy
          ∧ NullOr (· ∈ records.users.map User.id) none := by
    simp only [userRolesConsistent_iff, nodup_snoc_iff, forall_mem_snoc_iff]
    tauto
  have keys
      : (records.database consistent).userRoles.map UserRole.key
        = records.userRoles.map (fun grant => grant.1.key) :=
    List.map_map
  constructor
  · intro after
    obtain ⟨_, freshKey, userId, orgId, roleId, _⟩ := asked.mp after.userRoles
    exact ⟨keys ▸ freshKey, userId, orgId, roleId⟩
  · intro ⟨freshKey, userId, orgId, roleId⟩
    have granter : NullOr (· ∈ records.users.map User.id) row.grantedBy := by
      rw [ungranted]
      trivial
    have after :=
      asked.mpr ⟨consistent.userRoles, keys ▸ freshKey, userId, orgId, roleId, granter, trivial⟩
    exact { consistent with userRoles := after }

/-- A column that is set, or else left as it was. -/
theorem nullOr_getD {α : Type} {accepts : α → Prop} {written : Option α} {old : α}
    (fits : NullOr accepts written) (fitted : accepts old)
    : accepts (written.getD old) := by
  cases written with
  | none => exact fitted
  | some value => exact fits

theorem nullOr_of_getD {α : Type} {accepts : α → Prop} {written : Option α} {old : α}
    (fits : accepts (written.getD old))
    : NullOr accepts written := by
  cases written with
  | none => trivial
  | some value => exact fits

section Updates

variable {id : UUID}

theorem UsersConsistent.update {orgs : List Org} {users : List User} {columns : UserColumns}
    (consistent : UsersConsistent orgs users) (now : Instant)
    (fits : NullOr (FitsString 128) columns.passwordHash)
    (counted : NullOr (fun count => fitsBits 32 count = true) columns.failedLoginCount)
    : UsersConsistent orgs
        (rewriteWhere (fun user => user.id = id) (columns.write now) users) where
  ids := nodup_rewriteWhere consistent.ids fun _ => rfl
  emails := nodup_rewriteWhere consistent.emails fun _ => rfl
  orgsKnown := by
    intro user member
    obtain ⟨old, stored, rfl⟩ := mem_rewriteWhere.mp member
    have known := consistent.orgsKnown old stored
    split <;> exact known
  fits := by
    intro user member
    obtain ⟨old, stored, rfl⟩ := mem_rewriteWhere.mp member
    have fitted := consistent.fits old stored
    split
    · exact ⟨fitted.email, nullOr_getD fits fitted.passwordHash, fitted.name⟩
    · exact fitted
  counts := by
    intro user member
    obtain ⟨old, stored, rfl⟩ := mem_rewriteWhere.mp member
    have fitted := consistent.counts old stored
    split
    · exact nullOr_getD counted fitted
    · exact fitted

theorem SessionsConsistent.update {users : List User} {sessions : List Session}
    {columns : SessionColumns} (consistent : SessionsConsistent users sessions)
    (fits : NullOr (NullOr (FitsString 40)) columns.revokedReason)
    : SessionsConsistent users
        (rewriteWhere (fun session => session.id = id) columns.write sessions) where
  ids := nodup_rewriteWhere consistent.ids fun _ => rfl
  tokenHashes := nodup_rewriteWhere consistent.tokenHashes fun _ => rfl
  usersKnown := by
    intro session member
    obtain ⟨old, stored, rfl⟩ := mem_rewriteWhere.mp member
    have known := consistent.usersKnown old stored
    split <;> exact known
  fits := by
    intro session member
    obtain ⟨old, stored, rfl⟩ := mem_rewriteWhere.mp member
    have fitted := consistent.fits old stored
    split
    · exact ⟨fitted.tokenHash, fitted.userAgent, nullOr_getD fits fitted.revokedReason⟩
    · exact fitted

include consistent in
theorem updateUser_consistent {columns : UserColumns} (now : Instant)
    (fits : NullOr (FitsString 128) columns.passwordHash)
    (counted : NullOr (fun count => fitsBits 32 count = true) columns.failedLoginCount)
    : ({ records with
          users := rewriteWhere (fun user => user.id = id) (columns.write now) records.users }
        : StoredRecords).Consistent := by
  have known
      : records.users.map User.id
        ⊆ (rewriteWhere (fun user => user.id = id) (columns.write now) records.users).map
            User.id := by
    have keeps (user : User) : (columns.write now user).id = user.id := rfl
    rw [map_rewriteWhere keeps]
    exact List.Subset.refl _
  exact
    { consistent with
      users := consistent.users.update now fits counted
      userRoles := consistent.userRoles.grow (List.Subset.refl _) known
      sessions := consistent.sessions.grow known
      auditLog := consistent.auditLog.grow (List.Subset.refl _) known }

theorem updateUser_fits {columns : UserColumns} {now : Instant}
    (hit : id ∈ records.users.map User.id)
    (after
      : ({ records with
            users := rewriteWhere (fun user => user.id = id) (columns.write now) records.users }
          : StoredRecords).Consistent)
    : NullOr (FitsString 128) columns.passwordHash := by
  obtain ⟨user, stored, rfl⟩ := List.mem_map.mp hit
  have fits :=
    after.users.fits (columns.write now user)
      (mem_rewriteWhere.mpr ⟨user, stored, if_pos (decide_eq_true rfl)⟩)
  exact nullOr_of_getD fits.passwordHash

theorem updateSession_fits {columns : SessionColumns}
    (hit : id ∈ records.sessions.map Session.id)
    (after
      : ({ records with
            sessions :=
              rewriteWhere (fun session => session.id = id) columns.write records.sessions }
          : StoredRecords).Consistent)
    : NullOr (NullOr (FitsString 40)) columns.revokedReason := by
  obtain ⟨session, stored, rfl⟩ := List.mem_map.mp hit
  have fits :=
    after.sessions.fits (columns.write session)
      (mem_rewriteWhere.mpr ⟨session, stored, if_pos (decide_eq_true rfl)⟩)
  exact nullOr_of_getD fits.revokedReason

end Updates

/-- A sound statement that the database accepts leaves its records consistent. -/
theorem DbStatement.change_consistent {statement : DbStatement}
    (sound : statement.Sound records)
    (accepted : statement.Accepted (records.database consistent))
    : (statement.change records).Consistent := by
  cases statement with
  | insertSession row => exact (insertSession_consistent_iff consistent row).mpr accepted
  | insertAuditLog id row =>
      obtain ⟨fresh, idFits, document⟩ := sound
      exact (insertAuditLog_consistent_iff consistent fresh idFits document).mpr accepted
  | insertOrg row => exact (insertOrg_consistent_iff consistent sound).mpr accepted
  | insertUser row => exact (insertUser_consistent_iff consistent sound).mpr accepted
  | insertUserRole row => exact (insertUserRole_consistent_iff consistent sound).mpr accepted
  | updateUser id columns now => exact updateUser_consistent consistent now accepted sound
  | updateSession id columns =>
      exact { consistent with sessions := consistent.sessions.update accepted }

/-- A sound statement that leaves the records consistent is one that the database accepts, if it
has a row to write.
-/
theorem DbStatement.accepted_of_consistent {statement : DbStatement}
    (sound : statement.Sound records) (hits : statement.Hits records)
    (after : (statement.change records).Consistent)
    : statement.Accepted (records.database consistent) := by
  cases statement with
  | insertSession row => exact (insertSession_consistent_iff consistent row).mp after
  | insertAuditLog id row =>
      obtain ⟨fresh, idFits, document⟩ := sound
      exact (insertAuditLog_consistent_iff consistent fresh idFits document).mp after
  | insertOrg row => exact (insertOrg_consistent_iff consistent sound).mp after
  | insertUser row => exact (insertUser_consistent_iff consistent sound).mp after
  | insertUserRole row => exact (insertUserRole_consistent_iff consistent sound).mp after
  | updateUser id columns now => exact updateUser_fits hits after
  | updateSession id columns => exact updateSession_fits hits after

end Asked

-----------------------------------------------------------------------------------------
-- On the rows
-----------------------------------------------------------------------------------------

section Written

variable {document : List (String × ExtraValue) → String} {records : StoredRecords}
  {rows : Rows SqlValue} {now : Instant}

section Tables

variable {α : Type} {type : RecordType α SqlValue} {table : String} {model : List MigrationStep}
  {carried : List α}

theorem Declares.insert (declares : Declares table model)
    (carries : type.Carries admits (migratedTable table) rows carried)
    (fills : type.Fills admits (evaluate now) (migratedTable table) []) (record : α)
    : type.Carries admits (migratedTable table)
        (Function.update rows table
          (rows table ++ [type.made (evaluate now) (migratedTable table) [] record]))
        (carried ++ [record]) := by
  have inserted := carries.insert fills record
  rwa [declares.name] at inserted

theorem Declares.untouched (declares : Declares table model) {changed : String}
    {written : List (Row SqlValue)}
    (carries : type.Carries admits (migratedTable table) rows carried)
    (apart : table ≠ changed)
    : type.Carries admits (migratedTable table) (Function.update rows changed written)
        carried :=
  carries.untouched (declares.name.symm ▸ apart)

/-- The rows of the records with an id are written as the records are. -/
theorem Declares.update (declares : Declares table model)
    (carries : type.Carries admits (migratedTable table) rows carried)
    (shown : type.columns ⊆ (migratedTable table).columnNames) {read : α → UUID}
    (identified : "id" ∈ type.columns)
    (reads : ∀ record, type.value record "id" = some (.uuid (read record)))
    {fields : List (String × Option (Option SqlValue))} (distinct : (fields.map Prod.fst).Nodup)
    (known : fields.map Prod.fst ⊆ type.columns) {change : α → α}
    (written
      : ∀ record, ∀ name ∈ type.columns,
          ((fields.lookup name).join).getD (type.value record name)
            = type.value (change record) name)
    (id : UUID)
    : type.Carries admits (migratedTable table)
        (Function.update rows table
          (rewriteWhere (hasId id) (setRow (present fields)) (rows table)))
        (rewriteWhere (fun record => read record = id) change carried) := by
  have updated
      : type.Carries admits (migratedTable table)
          (Function.update rows (migratedTable table).name
            (rewriteWhere (hasId id) (setRow (present fields))
              (rows (migratedTable table).name)))
          (rewriteWhere (fun record => read record = id) change carried) := by
    refine carries.update ?_ ?_ ?_
    · intro row record shows
      simp [hasId, shows "id" identified, reads]
    · intro row record shape shows name member
      have there : name ∈ row.map Prod.fst := shape ▸ shown member
      rw [valueOf_setRow there, shows name member, lookup_present distinct]
      exact written record name member
    · exact fun name hidden => lookup_present_absent fun assigned => hidden (known assigned)
  rwa [declares.name] at updated

end Tables

/-- What is set is what is written; a column that is not set stays. -/
theorem userFields_write (columns : UserColumns) (user : User)
    : ∀ name ∈ userRecords.columns,
        (((userFields columns now).lookup name).join).getD (userRecords.value user name)
          = userRecords.value (columns.write now user) name := by
  obtain ⟨passwordHash, lastLoginAt, failedLoginCount, lockedUntil⟩ := columns
  cases passwordHash <;> cases lastLoginAt <;> cases failedLoginCount <;> cases lockedUntil
  all_goals
    simp [userRecords, userFields, RecordType.value, valueOf, List.lookup_cons,
      UserColumns.write]

theorem sessionFields_write (columns : SessionColumns) (session : Session)
    : ∀ name ∈ sessionRecords.columns,
        (((sessionFields columns).lookup name).join).getD (sessionRecords.value session name)
          = sessionRecords.value (columns.write session) name := by
  obtain ⟨lastSeenAt, revokedAt, revokedReason⟩ := columns
  cases lastSeenAt <;> cases revokedAt <;> cases revokedReason
  all_goals
    simp [sessionRecords, sessionFields, RecordType.value, valueOf, List.lookup_cons,
      SessionColumns.write]

namespace StoredRecords.CarriedBy

section Changes

variable {written : List (Row SqlValue)}

theorem change_orgs (carried : records.CarriedBy document rows) {orgs : List Org}
    (own
      : orgRecords.Carries admits (migratedTable "orgs") (Function.update rows "orgs" written)
          orgs)
    : ({ records with orgs } : StoredRecords).CarriedBy document
        (Function.update rows "orgs" written) where
  orgs := own
  drones := drones_declared.untouched carried.drones (by decide)
  droneApiKeys := droneApiKeys_declared.untouched carried.droneApiKeys (by decide)
  users := users_declared.untouched carried.users (by decide)
  roles := roles_declared.untouched carried.roles (by decide)
  userRoles := userRoles_declared.untouched carried.userRoles (by decide)
  sessions := sessions_declared.untouched carried.sessions (by decide)
  auditLog := auditLog_declared.untouched carried.auditLog (by decide)

theorem change_users (carried : records.CarriedBy document rows) {users : List User}
    (own
      : userRecords.Carries admits (migratedTable "users")
          (Function.update rows "users" written) users)
    : ({ records with users } : StoredRecords).CarriedBy document
        (Function.update rows "users" written) where
  orgs := orgs_declared.untouched carried.orgs (by decide)
  drones := drones_declared.untouched carried.drones (by decide)
  droneApiKeys := droneApiKeys_declared.untouched carried.droneApiKeys (by decide)
  users := own
  roles := roles_declared.untouched carried.roles (by decide)
  userRoles := userRoles_declared.untouched carried.userRoles (by decide)
  sessions := sessions_declared.untouched carried.sessions (by decide)
  auditLog := auditLog_declared.untouched carried.auditLog (by decide)

theorem change_userRoles (carried : records.CarriedBy document rows)
    {userRoles : List (UserRole × Option UUID)}
    (own
      : userRoleRecords.Carries admits (migratedTable "user_roles")
          (Function.update rows "user_roles" written) userRoles)
    : ({ records with userRoles } : StoredRecords).CarriedBy document
        (Function.update rows "user_roles" written) where
  orgs := orgs_declared.untouched carried.orgs (by decide)
  drones := drones_declared.untouched carried.drones (by decide)
  droneApiKeys := droneApiKeys_declared.untouched carried.droneApiKeys (by decide)
  users := users_declared.untouched carried.users (by decide)
  roles := roles_declared.untouched carried.roles (by decide)
  userRoles := own
  sessions := sessions_declared.untouched carried.sessions (by decide)
  auditLog := auditLog_declared.untouched carried.auditLog (by decide)

theorem change_sessions (carried : records.CarriedBy document rows) {sessions : List Session}
    (own
      : sessionRecords.Carries admits (migratedTable "sessions")
          (Function.update rows "sessions" written) sessions)
    : ({ records with sessions } : StoredRecords).CarriedBy document
        (Function.update rows "sessions" written) where
  orgs := orgs_declared.untouched carried.orgs (by decide)
  drones := drones_declared.untouched carried.drones (by decide)
  droneApiKeys := droneApiKeys_declared.untouched carried.droneApiKeys (by decide)
  users := users_declared.untouched carried.users (by decide)
  roles := roles_declared.untouched carried.roles (by decide)
  userRoles := userRoles_declared.untouched carried.userRoles (by decide)
  sessions := own
  auditLog := auditLog_declared.untouched carried.auditLog (by decide)

theorem change_auditLog (carried : records.CarriedBy document rows)
    {auditLog : List (Int × AuditLog)}
    (own
      : (auditRecords document).Carries admits (migratedTable "audit_log")
          (Function.update rows "audit_log" written) auditLog)
    : ({ records with auditLog } : StoredRecords).CarriedBy document
        (Function.update rows "audit_log" written) where
  orgs := orgs_declared.untouched carried.orgs (by decide)
  drones := drones_declared.untouched carried.drones (by decide)
  droneApiKeys := droneApiKeys_declared.untouched carried.droneApiKeys (by decide)
  users := users_declared.untouched carried.users (by decide)
  roles := roles_declared.untouched carried.roles (by decide)
  userRoles := userRoles_declared.untouched carried.userRoles (by decide)
  sessions := sessions_declared.untouched carried.sessions (by decide)
  auditLog := own

end Changes

end StoredRecords.CarriedBy

/-- An `INSERT` adds a row that is made of the record. -/
theorem insert_rows {α : Type} (type : RecordType α SqlValue) (table : String) (record : α)
    : ((SqlStatement.insert table (type.given record)).result now ⟨migratedTables, rows⟩).rows
      = Function.update rows table
          (rows table ++ [type.made (evaluate now) (migratedTable table) [] record]) := by
  have columns
      : ((findBy Table.name table migratedTables).map Table.columns).getD []
        = (migratedTable table).columns := by
    unfold migratedTable
    cases findBy Table.name table migratedTables <;> rfl
  show Function.update rows table (rows table ++ [fillRow _ _ _]) = _
  rw [columns, RecordType.made, List.append_nil]

/-- The rows after a statement carry the records after it. -/
theorem DbStatement.change_carried (now : Instant) (carried : records.CarriedBy document rows)
    (statement : DbStatement)
    : (statement.change records).CarriedBy document
        (((statement.sql document).result now ⟨migratedTables, rows⟩).rows) := by
  cases statement with
  | insertSession row =>
      rw [DbStatement.sql, insert_rows]
      exact carried.change_sessions
        (sessions_declared.insert carried.sessions (session_fills now) row)
  | insertAuditLog id row =>
      rw [DbStatement.sql, insert_rows]
      exact carried.change_auditLog
        (auditLog_declared.insert carried.auditLog (audit_fills now document) (id, row))
  | insertOrg row =>
      rw [DbStatement.sql, insert_rows]
      exact carried.change_orgs (orgs_declared.insert carried.orgs (org_fills now) row)
  | insertUser row =>
      rw [DbStatement.sql, insert_rows]
      exact carried.change_users (users_declared.insert carried.users (user_fills now) row)
  | insertUserRole row =>
      rw [DbStatement.sql, insert_rows]
      exact carried.change_userRoles
        (userRoles_declared.insert carried.userRoles (userRole_fills now) (row, none))
  | updateUser id columns now =>
      exact carried.change_users
        (users_declared.update carried.users (user_fills now).present (by decide) (fun _ => rfl)
          (by simp [userFields]) (by simp [userFields, userRecords]) (userFields_write columns)
          id)
  | updateSession id columns =>
      exact carried.change_sessions
        (sessions_declared.update carried.sessions (session_fills now).present (by decide)
          (fun _ => rfl) (by simp [sessionFields]) (by simp [sessionFields, sessionRecords])
          (sessionFields_write columns) id)

end Written

-----------------------------------------------------------------------------------------
-- On the store
-----------------------------------------------------------------------------------------

section Executed

variable {document : List (String × ExtraValue) → String} {records : StoredRecords}
  {store after : MigratedStore}

theorem stored_of_declares {table : String} {model : List MigrationStep}
    (declared : (table, model) ∈ declaredTables)
    : migratedTable table ∈ migratedTables := by
  rw [migratedTables_declared.1]
  exact List.mem_map.mpr ⟨_, declared, rfl⟩

/-- An `INSERT` fails only by the rows. -/
theorem insert_execute {α : Type} {type : RecordType α SqlValue} {table : String}
    {model : List MigrationStep} (declared : (table, model) ∈ declaredTables)
    (now : Instant) (fills : type.Fills admits (evaluate now) (migratedTable table) [])
    (tables : store.tables = migratedTables) (record : α)
    : (SqlStatement.insert table (type.given record)).execute now store
      = if ((SqlStatement.insert table (type.given record)).result now store).meets admits
        then .ok ((SqlStatement.insert table (type.given record)).result now store)
        else .error .constraintViolation := by
  have stored : migratedTable table ∈ store.tables := tables ▸ stored_of_declares declared
  have passes := type.insert_passes stored fills.present record
  rw [(declares_of_mem declared).name] at passes
  exact Operation.apply_of_passes passes

theorem DbStatement.execute_eq (now : Instant) (tables : store.tables = migratedTables)
    (statement : DbStatement)
    : (statement.sql document).execute now store
      = if ((statement.sql document).result now store).meets admits
        then .ok ((statement.sql document).result now store)
        else .error .constraintViolation := by
  cases statement with
  | insertSession row =>
      have declared : ("sessions", sessionModel) ∈ declaredTables := by simp [declaredTables]
      exact insert_execute declared now (session_fills now) tables row
  | insertAuditLog id row =>
      have declared : ("audit_log", auditLogModel) ∈ declaredTables := by simp [declaredTables]
      exact insert_execute declared now (audit_fills now document) tables (id, row)
  | insertOrg row =>
      have declared : ("orgs", orgModel) ∈ declaredTables := by simp [declaredTables]
      exact insert_execute declared now (org_fills now) tables row
  | insertUser row =>
      have declared : ("users", userModel) ∈ declaredTables := by simp [declaredTables]
      exact insert_execute declared now (user_fills now) tables row
  | insertUserRole row =>
      have declared : ("user_roles", userRoleModel) ∈ declaredTables := by simp [declaredTables]
      exact insert_execute declared now (userRole_fills now) tables (row, none)
  | updateUser id columns now => rfl
  | updateSession id columns => rfl

/-- No statement gives rows to a table that is not there. -/
theorem DbStatement.result_absent (now : Instant) (valid : store.Valid admits)
    (tables : store.tables = migratedTables) (statement : DbStatement) {name : String}
    (absent : name ∉ store.tables.tableNames)
    : ((statement.sql document).result now store).rows name = [] := by
  rw [tables, migratedTables_tableNames] at absent
  have apart {table : String} (declared : table ∈ declaredTables.map Prod.fst) : name ≠ table :=
    fun same => absent (same ▸ declared)
  have empty : store.rows name = [] := by
    refine valid.absent name ?_
    rwa [tables, migratedTables_tableNames]
  cases statement
  all_goals
    refine (Function.update_of_ne (apart ?_) _ _).trans empty
    simp [declaredTables]

/-- What a statement makes of the store, under the tables. -/
theorem DbStatement.result_eq (now : Instant) (tables : store.tables = migratedTables)
    (statement : DbStatement)
    : (statement.sql document).result now store
      = ⟨migratedTables,
          ((statement.sql document).result now ⟨migratedTables, store.rows⟩).rows⟩ := by
  obtain ⟨_, rows⟩ := store
  obtain rfl : _ = migratedTables := tables
  cases statement <;> rfl

/-- The store is a migrated database with the records of the other one. -/
structure Holds (document : List (String × ExtraValue) → String) (store : MigratedStore)
    (records : StoredRecords) (db : Database)
    : Prop where
  stands : StandsAt (some "c4a72f3b8d91") store
  carried : records.CarriedBy document store.rows
  shows : records.Shows db

section Held

variable {db : Database} {statement : DbStatement}

/-- The constraints of the tables let a statement through exactly when they allow the records
after it.
-/
theorem Holds.meets_iff (holds : Holds document store records db) (now : Instant)
    : ((statement.sql document).result now store).Meets admits
      ↔ (statement.change records).Consistent := by
  have tables := (standsAt_humanAuth_iff.mp holds.stands).1
  rw [statement.result_eq now tables]
  exact (statement.change_carried now holds.carried).meets_iff

/-- The server carries out what the database does. -/
theorem Holds.executed {after : Database} (holds : Holds document store records db)
    (now : Instant) (sound : statement.Sound records) (ran : statement.run db = .ok after)
    : ∃ result,
        (statement.sql document).execute now store = .ok result
        ∧ Holds document result (statement.change records) after := by
  obtain ⟨tables, valid⟩ := standsAt_humanAuth_iff.mp holds.stands
  have consistent := holds.carried.consistent holds.stands
  have accepted := DbStatement.accepted_of_run ran
  have changed : (statement.change records).Consistent := by
    obtain rfl := holds.shows.unique consistent
    exact statement.change_consistent consistent sound accepted
  have meets := (holds.meets_iff now).mpr changed
  refine ⟨_, (statement.execute_eq now tables).trans (if_pos ?_), ?_, ?_, ?_⟩
  · exact (Store.meets_iff admits).mpr meets
  · have same : ((statement.sql document).result now store).tables = migratedTables :=
      congrArg Store.tables (statement.result_eq now tables)
    refine standsAt_humanAuth_iff.mpr ⟨same, meets, fun name absent => ?_⟩
    refine statement.result_absent now valid tables ?_
    rw [same] at absent
    rwa [tables]
  · rw [statement.result_eq now tables]
    exact statement.change_carried now holds.carried
  · obtain ⟨reached, ranThere, shows⟩ := DbStatement.run_accepted holds.shows accepted
    rwa [Except.ok.inj (ran.symm.trans ranThere)]

/-- The server refuses what the database rejects. -/
theorem Holds.refused {raised : Raised} (holds : Holds document store records db)
    (now : Instant) (sound : statement.Sound records) (hits : statement.Hits records)
    (ran : statement.run db = .error raised)
    : (statement.sql document).execute now store = .error .constraintViolation := by
  have tables := (standsAt_humanAuth_iff.mp holds.stands).1
  have consistent := holds.carried.consistent holds.stands
  refine (statement.execute_eq now tables).trans (if_neg fun checked => ?_)
  have changed := (holds.meets_iff now).mp ((Store.meets_iff admits).mp checked)
  have accepted := statement.accepted_of_consistent consistent sound hits changed
  rw [← holds.shows.unique consistent] at accepted
  obtain ⟨reached, ranThere, _⟩ := DbStatement.run_accepted holds.shows accepted
  cases ran.symm.trans ranThere

end Held

-----------------------------------------------------------------------------------------
-- All of them
-----------------------------------------------------------------------------------------

/-- What a statement does to a database is what the server does to the tables that hold it: it
carries out what the database accepts, and refuses the rest for a constraint, but for an `UPDATE`
that has no row to write.
-/
theorem statement_refined (document : List (String × ExtraValue) → String) (now : Instant)
    (statement : DbStatement) (db : Database) (records : StoredRecords) (store : MigratedStore)
    (holds : Holds document store records db) (sound : statement.Sound records)
    : (∀ after, statement.run db = .ok after
        → ∃ result,
            (statement.sql document).execute now store = .ok result
            ∧ Holds document result (statement.change records) after)
      ∧ ∀ raised, statement.run db = .error raised
          → statement.Hits records
          → (statement.sql document).execute now store = .error .constraintViolation :=
  ⟨fun _ ran => holds.executed now sound ran, fun _ ran hits => holds.refused now sound hits ran⟩

end Executed

-----------------------------------------------------------------------------------------
-- A first org
-----------------------------------------------------------------------------------------

/-- The records that the migrations leave. -/
def migratedRecords : StoredRecords where
  orgs := []
  drones := []
  droneApiKeys := []
  users := []
  roles := migratedRoles
  userRoles := []
  sessions := []
  auditLog := []

theorem migratedRoles_consistent : RolesConsistent migratedRoles where
  ids := migratedRoles_ids
  names := migratedRoles_names
  fits := by decide
  idsFit := by decide

theorem migratedRecords_consistent : migratedRecords.Consistent where
  orgs := (orgsConsistent_iff _).mpr (by simp [migratedRecords])
  drones := ⟨.nil, .nil, by simp [migratedRecords], by simp [migratedRecords]⟩
  droneApiKeys := ⟨.nil, by simp [migratedRecords], by simp [migratedRecords]⟩
  users := (usersConsistent_iff _ _).mpr (by simp [migratedRecords])
  roles := migratedRoles_consistent
  userRoles := (userRolesConsistent_iff _ _ _ _).mpr (by simp [migratedRecords])
  sessions := (sessionsConsistent_iff _ _).mpr (by simp [migratedRecords])
  auditLog := (auditLogConsistent_iff _ _ _ _).mpr (by simp [migratedRecords])

theorem migratedRecords_show : migratedRecords.Shows migratedDatabase :=
  ⟨rfl, rfl, rfl, rfl, rfl, rfl⟩

def sampleOrg : Org where
  id := 1
  name := "Specter"
  slug := "specter"
  parentOrgId := none

/-- A session of a user who is not there. -/
def straySession : Session where
  id := 1
  userId := 7
  tokenHash := "0"
  transport := .cookie
  userAgent := none
  ipAddress := none
  createdAt := 0
  expiresAt := 1
  lastSeenAt := 0
  revokedAt := none
  revokedReason := none

/-- On a database that was just migrated, the server takes an org and refuses a session of a user
who is not there.
-/
theorem migratedStore_statements
    : (∃ result,
        ((DbStatement.insertOrg sampleOrg).sql fun _ => "").execute 1
            ⟨migratedTables, migratedRecords.rowsOf (fun _ => "") 0⟩
          = .ok result
        ∧ StandsAt (some "c4a72f3b8d91") result)
      ∧ ((DbStatement.insertSession straySession).sql fun _ => "").execute 1
            ⟨migratedTables, migratedRecords.rowsOf (fun _ => "") 0⟩
          = .error .constraintViolation := by
  have refined (statement : DbStatement) (sound : statement.Sound migratedRecords) :=
    statement_refined (fun _ => "") 1 statement migratedDatabase migratedRecords _
      ⟨StoredRecords.standsAt_rowsOf _ 0 migratedRecords_consistent,
        StoredRecords.carriedBy_rowsOf _ 0 migratedRecords, migratedRecords_show⟩
      sound
  have accepted : migratedDatabase.AcceptsOrg sampleOrg := ⟨by decide, by decide, by decide⟩
  constructor
  · obtain ⟨result, executed, holds⟩ :=
      (refined (.insertOrg sampleOrg) rfl).1 _ (Database.insertOrg_accepted accepted)
    exact ⟨result, executed, holds.stands⟩
  · exact (refined (.insertSession straySession) trivial).2
      (.integrityError "sessions.user_id") rfl trivial

end SpecterCloud.Migrations
