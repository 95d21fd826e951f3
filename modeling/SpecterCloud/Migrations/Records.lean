import SpecterCloud.Foundations.RowRecords
import SpecterCloud.Migrations.Metadata
import SpecterCloud.Models.Accounts
import SpecterCloud.Models.Fleet
import Mathlib.Tactic.MkIffOfInductiveProp

/-! The records of `Models` in place of the rows of a migrated database: which columns they show,
and what the migrated tables ask of them.
-/

namespace SpecterCloud.Migrations

open SpecterCloud.Foundations
open SpecterCloud.Foundations.Relational
open SpecterCloud.Models

-----------------------------------------------------------------------------------------
-- The migrated tables
-----------------------------------------------------------------------------------------

abbrev MigratedTable := Table ColumnType ServerDefault SqlValue

/-- The columns that a class declares. -/
def declaredColumns : List MigrationStep → List MigrationColumn
  | .createTable _ columns _ :: _ => columns
  | _ => []

/-- The rules that a class declares. -/
def declaredRules : List MigrationStep → List Rule
  | .createTable _ _ constraints :: _ => constraints.map Prod.snd
  | _ => []

/-- The classes under the names of their tables, in the order in which the migrations create
these.
-/
def declaredTables : List (String × List MigrationStep) :=
  [
    ("orgs", orgModel), ("drones", droneModel), ("drone_api_keys", droneApiKeyModel),
    ("users", userModel), ("roles", roleModel), ("user_roles", userRoleModel),
    ("sessions", sessionModel), ("audit_log", auditLogModel)
  ]

def migratedTable (name : String) : MigratedTable :=
  (findBy Table.name name migratedTables).getD ⟨name, [], [], []⟩

/-- The migrated table of the name has the columns and the rules that the class declares. -/
structure Declares (table : String) (model : List MigrationStep) : Prop where
  name : (migratedTable table).name = table
  columns : (migratedTable table).columns.Perm (declaredColumns model)
  rules : (migratedTable table).rules.Perm (declaredRules model)

instance Declares.decidable (table : String) (model : List MigrationStep)
    : Decidable (Declares table model) :=
  decidable_of_iff
    ((migratedTable table).name = table
      ∧ (migratedTable table).columns.Perm (declaredColumns model)
      ∧ (migratedTable table).rules.Perm (declaredRules model))
    ⟨fun ⟨named, columns, rules⟩ => ⟨named, columns, rules⟩,
      fun ⟨named, columns, rules⟩ => ⟨named, columns, rules⟩⟩

theorem migratedTables_declared
    : migratedTables = declaredTables.map (fun entry => migratedTable entry.1)
      ∧ ∀ entry ∈ declaredTables, Declares entry.1 entry.2 := by
  decide

/-- The columns that a class declares accept what the record shows. -/
def DeclaredAccept {α : Type} (model : List MigrationStep) (type : RecordType α SqlValue)
    (record : α)
    : Prop :=
  ∀ column ∈ declaredColumns model, column.name ∈ type.columns
    → column.accepts admits (type.value record column.name) = true

section Declared

variable {α : Type} {type : RecordType α SqlValue} {table : String} {model : List MigrationStep}
  {rows : Rows SqlValue} {records : List α}

/-- A migrated table is met by rows whose records the declared columns accept and for which the
declared rules hold.
-/
theorem Declares.meets_iff (declares : Declares table model)
    (carries : type.Carries admits (migratedTable table) rows records)
    : (migratedTable table).Meets admits rows
      ↔ (∀ record ∈ records, DeclaredAccept model type record)
        ∧ ∀ rule ∈ declaredRules model, rule.Holds rows table := by
  rw [carries.meets_iff, declares.name]
  refine and_congr (forall₂_congr fun record _ => ?_) ?_
  · exact forall_congr' fun column => imp_congr_left declares.columns.mem_iff
  · constructor
    · intro holds rule declared
      obtain ⟨constraint, demanded, rfl⟩ :=
        List.mem_map.mp (declares.rules.mem_iff.mpr declared)
      exact holds constraint demanded
    · intro holds constraint demanded
      exact holds _ (declares.rules.mem_iff.mp (List.mem_map_of_mem demanded))

end Declared

-----------------------------------------------------------------------------------------
-- Columns that records show
-----------------------------------------------------------------------------------------

section Columns

variable {name : String} {type : ColumnType} {value : SqlValue}

@[simp] theorem required_name : (required name type).name = name := rfl

@[simp] theorem optional_name : (optional name type).name = name := rfl

@[simp] theorem defaulted_name (default : ServerDefault)
    : (defaulted name type default).name = name :=
  rfl

@[simp] theorem autoincrement_name : (autoincrement name type).name = name := rfl

@[simp] theorem required_accepts
    : (required name type).accepts admits (some value) = admits type value :=
  rfl

@[simp] theorem defaulted_accepts (default : ServerDefault)
    : (defaulted name type default).accepts admits (some value) = admits type value :=
  rfl

@[simp] theorem autoincrement_accepts
    : (autoincrement name type).accepts admits (some value) = admits type value :=
  rfl

/-- A nullable column accepts no value, and those of its type. -/
@[simp] theorem optional_accepts_map {α : Type} (value : Option α) (write : α → SqlValue)
    : (optional name type).accepts admits (value.map write) = true
      ↔ NullOr (fun value => admits type (write value) = true) value := by
  cases value <;> simp [Column.accepts, optional, NullOr]

end Columns

/-- The values of `transport`. -/
def transportText : SessionTransport → String
  | .cookie => "cookie"
  | .bearer => "bearer"

def orgRecords : RecordType Org SqlValue where
  columns := ["id", "name", "slug", "parent_org_id"]
  fields := fun org =>
    [
      ("id", some (.uuid org.id)),
      ("name", some (.text org.name)),
      ("slug", some (.text org.slug)),
      ("parent_org_id", org.parentOrgId.map .uuid)
    ]
  names := fun _ => rfl
  distinct := by decide

def droneRecords : RecordType Drone SqlValue where
  columns := ["id", "slug", "org_id", "is_active"]
  fields := fun drone =>
    [
      ("id", some (.uuid drone.id)),
      ("slug", some (.text drone.slug)),
      ("org_id", some (.uuid drone.orgId)),
      ("is_active", some (.boolean drone.isActive))
    ]
  names := fun _ => rfl
  distinct := by decide

def droneApiKeyRecords : RecordType DroneApiKey SqlValue where
  columns :=
    ["id", "drone_id", "prefix", "hashed_key", "label", "last_used_at", "revoked_at"]
  fields := fun key =>
    [
      ("id", some (.uuid key.id)),
      ("drone_id", some (.uuid key.droneId)),
      ("prefix", some (.text key.keyPrefix)),
      ("hashed_key", some (.text key.hashedKey.text)),
      ("label", some (.text key.label)),
      ("last_used_at", key.lastUsedAt.map .dateTime),
      ("revoked_at", key.revokedAt.map .dateTime)
    ]
  names := fun _ => rfl
  distinct := by decide

def userRecords : RecordType User SqlValue where
  columns :=
    [
      "id", "email", "password_hash", "name", "org_id", "is_active", "last_login_at",
      "failed_login_count", "locked_until", "updated_at"
    ]
  fields := fun user =>
    [
      ("id", some (.uuid user.id)),
      ("email", some (.text user.email)),
      ("password_hash", some (.text user.passwordHash)),
      ("name", some (.text user.name)),
      ("org_id", some (.uuid user.orgId)),
      ("is_active", some (.boolean user.isActive)),
      ("last_login_at", user.lastLoginAt.map .dateTime),
      ("failed_login_count", some (.integer user.failedLoginCount)),
      ("locked_until", user.lockedUntil.map .dateTime),
      ("updated_at", some (.dateTime user.updatedAt))
    ]
  names := fun _ => rfl
  distinct := by decide

def roleRecords : RecordType Role SqlValue where
  columns := ["id", "name", "is_platform_role"]
  fields := fun role =>
    [
      ("id", some (.integer role.id)),
      ("name", some (.text role.name)),
      ("is_platform_role", some (.boolean role.isPlatformRole))
    ]
  names := fun _ => rfl
  distinct := by decide

/-- A grant with its `revoked_by`. -/
def userRoleRecords : RecordType (UserRole × Option UUID) SqlValue where
  columns := ["user_id", "org_id", "role_id", "granted_by", "revoked_by", "revoked_at"]
  fields := fun grant =>
    [
      ("user_id", some (.uuid grant.1.userId)),
      ("org_id", some (.uuid grant.1.orgId)),
      ("role_id", some (.integer grant.1.roleId)),
      ("granted_by", grant.1.grantedBy.map .uuid),
      ("revoked_by", grant.2.map .uuid),
      ("revoked_at", grant.1.revokedAt.map .dateTime)
    ]
  names := fun _ => rfl
  distinct := by decide

def sessionRecords : RecordType Session SqlValue where
  columns :=
    [
      "id", "user_id", "token_hash", "transport", "user_agent", "ip_address", "created_at",
      "expires_at", "last_seen_at", "revoked_at", "revoked_reason"
    ]
  fields := fun session =>
    [
      ("id", some (.uuid session.id)),
      ("user_id", some (.uuid session.userId)),
      ("token_hash", some (.text session.tokenHash)),
      ("transport", some (.text (transportText session.transport))),
      ("user_agent", session.userAgent.map .text),
      ("ip_address", session.ipAddress.map (fun address => .inet address.text)),
      ("created_at", some (.dateTime session.createdAt)),
      ("expires_at", some (.dateTime session.expiresAt)),
      ("last_seen_at", some (.dateTime session.lastSeenAt)),
      ("revoked_at", session.revokedAt.map .dateTime),
      ("revoked_reason", session.revokedReason.map .text)
    ]
  names := fun _ => rfl
  distinct := by decide

/-- The columns of `audit_log` but for `created_at`. -/
def auditColumns : List String :=
  [
    "id", "user_id", "request_id", "action", "permission", "resource_type", "resource_id",
    "target_org_id", "matched_role_id", "matched_org_id", "decision", "reason", "ip_address",
    "user_agent", "metadata"
  ]

/-- An audit row with its `id`; `document` writes a document as JSONB holds it. -/
def auditRecords (document : List (String × ExtraValue) → String)
    : RecordType (Int × AuditLog) SqlValue where
  columns := auditColumns
  fields := fun entry =>
    [
      ("id", some (.integer entry.1)),
      ("user_id", entry.2.userId.map .uuid),
      ("request_id", entry.2.requestId.map .uuid),
      ("action", some (.text entry.2.action)),
      ("permission", entry.2.permission.map .text),
      ("resource_type", entry.2.resourceType.map .text),
      ("resource_id", entry.2.resourceId.map .text),
      ("target_org_id", entry.2.targetOrgId.map .uuid),
      ("matched_role_id", entry.2.matchedRoleId.map .integer),
      ("matched_org_id", entry.2.matchedOrgId.map .uuid),
      ("decision", some (.text entry.2.decision)),
      ("reason", entry.2.reason.map .text),
      ("ip_address", entry.2.ipAddress.map (fun address => .inet address.text)),
      ("user_agent", entry.2.userAgent.map .text),
      ("metadata", entry.2.extra.map (fun extra => .jsonb (document extra)))
    ]
  names := fun _ => rfl
  distinct := by decide

-----------------------------------------------------------------------------------------
-- Their keys
-----------------------------------------------------------------------------------------

theorem uuid_injective : Function.Injective SqlValue.uuid := fun _ _ => SqlValue.uuid.inj

theorem text_injective : Function.Injective SqlValue.text := fun _ _ => SqlValue.text.inj

theorem integer_injective : Function.Injective SqlValue.integer :=
  fun _ _ => SqlValue.integer.inj

section Keys

variable {α : Type} (type : RecordType α SqlValue) (name : String)

/-- A key in a `Uuid` column. -/
abbrev uuidKey (read : α → Option UUID) (shown : name ∈ type.columns)
    (reads : ∀ record, type.value record name = (read record).map .uuid)
    : RecordKey type UUID :=
  type.key name read .uuid uuid_injective shown reads

/-- A key in a column of text. -/
abbrev textKey (read : α → Option String) (shown : name ∈ type.columns)
    (reads : ∀ record, type.value record name = (read record).map .text)
    : RecordKey type String :=
  type.key name read .text text_injective shown reads

/-- A key in a column of integers. -/
abbrev integerKey (read : α → Option Int) (shown : name ∈ type.columns)
    (reads : ∀ record, type.value record name = (read record).map .integer)
    : RecordKey type Int :=
  type.key name read .integer integer_injective shown reads

end Keys

def orgIdKey := uuidKey orgRecords "id" (fun org => some org.id) (by decide) fun _ => rfl

def droneIdKey := uuidKey droneRecords "id" (fun drone => some drone.id) (by decide) fun _ => rfl

def userIdKey := uuidKey userRecords "id" (fun user => some user.id) (by decide) fun _ => rfl

def roleIdKey := integerKey roleRecords "id" (fun role => some role.id) (by decide) fun _ => rfl

/-- The columns of `uq_drone_org_slug`. -/
def dronePlaceKey : RecordKey droneRecords (UUID × String) where
  columns := ["org_id", "slug"]
  shown := by decide
  key := fun drone => some drone.place
  code := fun place => [.uuid place.1, .text place.2]
  injective := by
    intro place other same
    simp only [List.cons.injEq, SqlValue.uuid.injEq, SqlValue.text.injEq, and_true] at same
    exact Prod.ext same.1 same.2
  keyOf_fields := fun _ => rfl

/-- The primary key of `user_roles`. -/
def grantKey : RecordKey userRoleRecords (UUID × UUID × Int) where
  columns := ["user_id", "org_id", "role_id"]
  shown := by decide
  key := fun grant => some grant.1.key
  code := fun key => [.uuid key.1, .uuid key.2.1, .integer key.2.2]
  injective := by
    intro key other same
    simp only [List.cons.injEq, SqlValue.uuid.injEq, SqlValue.integer.injEq, and_true] at same
    exact Prod.ext same.1 (Prod.ext same.2.1 same.2.2)
  keyOf_fields := fun _ => rfl

-----------------------------------------------------------------------------------------
-- What is asked of them
-----------------------------------------------------------------------------------------

@[mk_iff]
structure OrgsConsistent (orgs : List Org) : Prop where
  ids : (orgs.map Org.id).Nodup
  slugs : (orgs.map Org.slug).Nodup
  parentsKnown : ∀ org ∈ orgs, NullOr (· ∈ orgs.map Org.id) org.parentOrgId
  fits : ∀ org ∈ orgs, org.Fits

structure DronesConsistent (orgs : List Org) (drones : List Drone) : Prop where
  ids : (drones.map Drone.id).Nodup
  places : (drones.map Drone.place).Nodup
  orgsKnown : ∀ drone ∈ drones, drone.orgId ∈ orgs.map Org.id
  fits : ∀ drone ∈ drones, FitsString 60 drone.slug

structure DroneApiKeysConsistent (drones : List Drone) (keys : List DroneApiKey) : Prop where
  ids : (keys.map DroneApiKey.id).Nodup
  dronesKnown : ∀ key ∈ keys, key.droneId ∈ drones.map Drone.id
  fits : ∀ key ∈ keys, key.Fits

@[mk_iff]
structure UsersConsistent (orgs : List Org) (users : List User) : Prop where
  ids : (users.map User.id).Nodup
  emails : (users.map User.email).Nodup
  orgsKnown : ∀ user ∈ users, user.orgId ∈ orgs.map Org.id
  fits : ∀ user ∈ users, user.Fits
  counts : ∀ user ∈ users, fitsBits 32 user.failedLoginCount = true

structure RolesConsistent (roles : List Role) : Prop where
  ids : (roles.map Role.id).Nodup
  names : (roles.map Role.name).Nodup
  fits : ∀ role ∈ roles, FitsString 40 role.name
  idsFit : ∀ role ∈ roles, fitsBits 16 role.id = true

/-- `revoked_by` is the second part of a grant. -/
@[mk_iff]
structure UserRolesConsistent (orgs : List Org) (users : List User) (roles : List Role)
    (grants : List (UserRole × Option UUID))
    : Prop where
  keys : (grants.map (fun grant => grant.1.key)).Nodup
  usersKnown : ∀ grant ∈ grants, grant.1.userId ∈ users.map User.id
  orgsKnown : ∀ grant ∈ grants, grant.1.orgId ∈ orgs.map Org.id
  rolesKnown : ∀ grant ∈ grants, grant.1.roleId ∈ roles.map Role.id
  grantersKnown : ∀ grant ∈ grants, NullOr (· ∈ users.map User.id) grant.1.grantedBy
  revokersKnown : ∀ grant ∈ grants, NullOr (· ∈ users.map User.id) grant.2

@[mk_iff]
structure SessionsConsistent (users : List User) (sessions : List Session) : Prop where
  ids : (sessions.map Session.id).Nodup
  tokenHashes : (sessions.map Session.tokenHash).Nodup
  usersKnown : ∀ session ∈ sessions, session.userId ∈ users.map User.id
  fits : ∀ session ∈ sessions, session.Fits

/-- The lengths and text that the columns of `audit_log` accept, but for the document, which is
one that JSONB holds.
-/
structure AuditColumnsFit (row : AuditLog) : Prop where
  action : FitsString 60 row.action
  permission : NullOr (FitsString 60) row.permission
  resourceType : NullOr (FitsString 40) row.resourceType
  resourceId : NullOr (FitsString 64) row.resourceId
  decision : FitsString 10 row.decision
  reason : NullOr Storable row.reason
  userAgent : NullOr (FitsString 500) row.userAgent

/-- The id of an audit row is the first part of its entry. -/
@[mk_iff]
structure AuditLogConsistent (orgs : List Org) (users : List User) (roles : List Role)
    (entries : List (Int × AuditLog))
    : Prop where
  ids : (entries.map Prod.fst).Nodup
  idsFit : ∀ entry ∈ entries, fitsBits 64 entry.1 = true
  usersKnown : ∀ entry ∈ entries, NullOr (· ∈ users.map User.id) entry.2.userId
  targetOrgsKnown : ∀ entry ∈ entries, NullOr (· ∈ orgs.map Org.id) entry.2.targetOrgId
  matchedRolesKnown : ∀ entry ∈ entries, NullOr (· ∈ roles.map Role.id) entry.2.matchedRoleId
  matchedOrgsKnown : ∀ entry ∈ entries, NullOr (· ∈ orgs.map Org.id) entry.2.matchedOrgId
  fits : ∀ entry ∈ entries, AuditColumnsFit entry.2

-----------------------------------------------------------------------------------------
-- The columns ask that
-----------------------------------------------------------------------------------------

theorem nullOr_iff {α : Type} {accepts : α → Prop} {value : Option α}
    : (∀ given, value = some given → accepts given) ↔ NullOr accepts value := by
  cases value <;> simp [NullOr]

@[simp] theorem nullOr_of_all {α : Type} {accepts : α → Prop} (all : ∀ given, accepts given)
    (value : Option α)
    : NullOr accepts value := by
  cases value with
  | none => trivial
  | some given => exact all given

section Accepted

attribute [local simp] DeclaredAccept declaredColumns RecordType.value valueOf
  List.lookup_cons admits

theorem org_accepted_iff (org : Org) : DeclaredAccept orgModel orgRecords org ↔ org.Fits := by
  have columns
      : DeclaredAccept orgModel orgRecords org
        ↔ FitsString 120 org.name ∧ FitsString 60 org.slug := by
    simp [orgModel, orgRecords]
  exact columns.trans ⟨fun fit => ⟨fit.1, fit.2⟩, fun fits => ⟨fits.name, fits.slug⟩⟩

theorem drone_accepted_iff (drone : Drone)
    : DeclaredAccept droneModel droneRecords drone ↔ FitsString 60 drone.slug := by
  simp [droneModel, droneRecords]

/-- A digest always fits. -/
theorem HexDigest_fits (digest : HexDigest) : FitsString 64 digest.text := by
  refine ⟨digest.length.le, fun nul => ?_⟩
  exact absurd (digest.digits _ nul) (by decide)

theorem droneApiKey_accepted_iff (key : DroneApiKey)
    : DeclaredAccept droneApiKeyModel droneApiKeyRecords key ↔ key.Fits := by
  have columns
      : DeclaredAccept droneApiKeyModel droneApiKeyRecords key
        ↔ FitsString 16 key.keyPrefix ∧ FitsString 80 key.label := by
    simp [droneApiKeyModel, droneApiKeyRecords, HexDigest_fits]
  exact columns.trans ⟨fun fit => ⟨fit.1, fit.2⟩, fun fits => ⟨fits.keyPrefix, fits.label⟩⟩

theorem user_accepted_iff (user : User)
    : DeclaredAccept userModel userRecords user
      ↔ user.Fits ∧ fitsBits 32 user.failedLoginCount = true := by
  have columns
      : DeclaredAccept userModel userRecords user
        ↔ FitsString 254 user.email ∧ FitsString 128 user.passwordHash
          ∧ FitsString 120 user.name ∧ fitsBits 32 user.failedLoginCount = true := by
    simp [userModel, userRecords]
  refine columns.trans ⟨fun fit => ?_, fun both => ?_⟩
  · obtain ⟨email, passwordHash, name, count⟩ := fit
    exact ⟨⟨email, passwordHash, name⟩, count⟩
  · obtain ⟨fits, count⟩ := both
    exact ⟨fits.email, fits.passwordHash, fits.name, count⟩

theorem role_accepted_iff (role : Role)
    : DeclaredAccept roleModel roleRecords role
      ↔ fitsBits 16 role.id = true ∧ FitsString 40 role.name := by
  simp [roleModel, roleRecords]

theorem userRole_accepted_iff (grant : UserRole × Option UUID)
    : DeclaredAccept userRoleModel userRoleRecords grant
      ↔ fitsBits 16 grant.1.roleId = true := by
  simp [userRoleModel, userRoleRecords]

theorem transportText_fits (transport : SessionTransport)
    : FitsString 16 (transportText transport) := by
  cases transport <;> decide

theorem session_accepted_iff (session : Session)
    : DeclaredAccept sessionModel sessionRecords session ↔ session.Fits := by
  have columns
      : DeclaredAccept sessionModel sessionRecords session
        ↔ FitsString 64 session.tokenHash ∧ NullOr (FitsString 500) session.userAgent
          ∧ NullOr (FitsString 40) session.revokedReason := by
    simp [sessionModel, sessionRecords, transportText_fits]
  refine columns.trans ⟨fun fit => ?_, fun fits => ?_⟩
  · obtain ⟨tokenHash, userAgent, reason⟩ := fit
    exact ⟨tokenHash, userAgent, reason⟩
  · exact ⟨fits.tokenHash, fits.userAgent, fits.revokedReason⟩

theorem audit_accepted_iff (document : List (String × ExtraValue) → String)
    (entry : Int × AuditLog)
    : DeclaredAccept auditLogModel (auditRecords document) entry
      ↔ fitsBits 64 entry.1 = true
        ∧ NullOr (fun id => fitsBits 16 id = true) entry.2.matchedRoleId
        ∧ AuditColumnsFit entry.2 := by
  have columns
      : DeclaredAccept auditLogModel (auditRecords document) entry
        ↔ fitsBits 64 entry.1 = true ∧ FitsString 60 entry.2.action
          ∧ NullOr (FitsString 60) entry.2.permission
          ∧ NullOr (FitsString 40) entry.2.resourceType
          ∧ NullOr (FitsString 64) entry.2.resourceId
          ∧ NullOr (fun id => fitsBits 16 id = true) entry.2.matchedRoleId
          ∧ FitsString 10 entry.2.decision ∧ NullOr Storable entry.2.reason
          ∧ NullOr (FitsString 500) entry.2.userAgent := by
    simp [auditLogModel, auditRecords, auditColumns]
  refine columns.trans ⟨?_, ?_⟩
  · rintro ⟨id, action, permission, type, resource, role, decision, reason, userAgent⟩
    exact ⟨id, role, action, permission, type, resource, decision, reason, userAgent⟩
  · rintro ⟨id, role, action, permission, type, resource, decision, reason, userAgent⟩
    exact ⟨id, action, permission, type, resource, role, decision, reason, userAgent⟩

end Accepted

-----------------------------------------------------------------------------------------
-- The tables ask that
-----------------------------------------------------------------------------------------

theorem declares_of_mem {table : String} {model : List MigrationStep}
    (declared : (table, model) ∈ declaredTables)
    : Declares table model :=
  migratedTables_declared.2 _ declared

section Tables

attribute [local simp] declaredTables

theorem orgs_declared : Declares "orgs" orgModel := declares_of_mem (by simp)

theorem drones_declared : Declares "drones" droneModel :=
  declares_of_mem (by simp)

theorem users_declared : Declares "users" userModel := declares_of_mem (by simp)

theorem roles_declared : Declares "roles" roleModel := declares_of_mem (by simp)

theorem droneApiKeys_declared : Declares "drone_api_keys" droneApiKeyModel :=
  declares_of_mem (by simp)

theorem userRoles_declared : Declares "user_roles" userRoleModel :=
  declares_of_mem (by simp)

theorem sessions_declared : Declares "sessions" sessionModel :=
  declares_of_mem (by simp)

theorem auditLog_declared : Declares "audit_log" auditLogModel :=
  declares_of_mem (by simp)

end Tables

section Asked

variable {rows : Rows SqlValue} {orgs : List Org} {drones : List Drone}
  {keys : List DroneApiKey} {users : List User} {roles : List Role}
  {grants : List (UserRole × Option UUID)} {sessions : List Session}
  {entries : List (Int × AuditLog)}

/-- References of a column that is never NULL. -/
theorem always_iff {α K : Type} {records : List α} {read : α → K} {known : List K}
    : (∀ record ∈ records, ∀ key, some (read record) = some key → key ∈ known)
      ↔ ∀ record ∈ records, read record ∈ known := by
  simp

/-- The rules of a table one after another. -/
theorem holds_cons_iff {table : String} {rule : Rule} {rest : List Rule} {first others : Prop}
    (head : rule.Holds rows table ↔ first)
    (tail : (∀ other ∈ rest, other.Holds rows table) ↔ others)
    : (∀ other ∈ rule :: rest, other.Holds rows table) ↔ first ∧ others :=
  List.forall_mem_cons.trans (and_congr head tail)

theorem orgs_meet_iff (carries : orgRecords.Carries admits (migratedTable "orgs") rows orgs)
    : (migratedTable "orgs").Meets admits rows ↔ OrgsConsistent orgs := by
  have declares := orgs_declared
  have ids := orgIdKey.primaryKey_iff (fun _ => rfl) declares.name carries
  have slugs :=
    (textKey orgRecords "slug" (fun org => some org.slug) (by decide) fun _ => rfl).unique_iff
      (fun _ => rfl) declares.name carries
  have parents :=
    (uuidKey orgRecords "parent_org_id" Org.parentOrgId (by decide) fun _ => rfl).foreignKey_iff
      orgIdKey (fun _ => rfl) rfl .restrict declares.name carries declares.name carries
  have rules
      : (∀ rule ∈ declaredRules orgModel, rule.Holds rows "orgs")
        ↔ (orgs.map Org.id).Nodup ∧ (orgs.map Org.slug).Nodup
          ∧ ∀ org ∈ orgs, NullOr (· ∈ orgs.map Org.id) org.parentOrgId :=
    holds_cons_iff ids (holds_cons_iff slugs
      (List.forall_mem_singleton.trans
        (parents.trans (forall₂_congr fun org _ => nullOr_iff))))
  rw [declares.meets_iff carries, rules, forall₂_congr fun org _ => org_accepted_iff org]
  exact ⟨fun ⟨fits, ids, slugs, parents⟩ => ⟨ids, slugs, parents, fits⟩,
    fun ⟨ids, slugs, parents, fits⟩ => ⟨fits, ids, slugs, parents⟩⟩

theorem drones_meet_iff (carriesOrgs : orgRecords.Carries admits (migratedTable "orgs") rows orgs)
    (carries : droneRecords.Carries admits (migratedTable "drones") rows drones)
    : (migratedTable "drones").Meets admits rows ↔ DronesConsistent orgs drones := by
  have declares := drones_declared
  have ids := droneIdKey.primaryKey_iff (fun _ => rfl) declares.name carries
  have places := dronePlaceKey.unique_iff (fun _ => rfl) declares.name carries
  have known :=
    (uuidKey droneRecords "org_id" (fun drone => some drone.orgId) (by decide)
      fun _ => rfl).foreignKey_iff orgIdKey (fun _ => rfl) rfl .noAction declares.name carries
      orgs_declared.name carriesOrgs
  have rules
      : (∀ rule ∈ declaredRules droneModel, rule.Holds rows "drones")
        ↔ (drones.map Drone.id).Nodup ∧ (drones.map Drone.place).Nodup
          ∧ ∀ drone ∈ drones, drone.orgId ∈ orgs.map Org.id :=
    holds_cons_iff ids (holds_cons_iff places
      (List.forall_mem_singleton.trans (known.trans always_iff)))
  rw [declares.meets_iff carries, rules, forall₂_congr fun drone _ => drone_accepted_iff drone]
  exact ⟨fun ⟨fits, ids, places, known⟩ => ⟨ids, places, known, fits⟩,
    fun ⟨ids, places, known, fits⟩ => ⟨fits, ids, places, known⟩⟩

theorem droneApiKeys_meet_iff
    (carriesDrones : droneRecords.Carries admits (migratedTable "drones") rows drones)
    (carries : droneApiKeyRecords.Carries admits (migratedTable "drone_api_keys") rows keys)
    : (migratedTable "drone_api_keys").Meets admits rows
      ↔ DroneApiKeysConsistent drones keys := by
  have declares := droneApiKeys_declared
  have ids :=
    (uuidKey droneApiKeyRecords "id" (fun key => some key.id) (by decide)
      fun _ => rfl).primaryKey_iff (fun _ => rfl) declares.name carries
  have known :=
    (uuidKey droneApiKeyRecords "drone_id" (fun key => some key.droneId) (by decide)
      fun _ => rfl).foreignKey_iff droneIdKey (fun _ => rfl) rfl .cascade declares.name carries
      drones_declared.name carriesDrones
  have rules
      : (∀ rule ∈ declaredRules droneApiKeyModel, rule.Holds rows "drone_api_keys")
        ↔ (keys.map DroneApiKey.id).Nodup ∧ ∀ key ∈ keys, key.droneId ∈ drones.map Drone.id :=
    holds_cons_iff ids (List.forall_mem_singleton.trans (known.trans always_iff))
  rw [declares.meets_iff carries, rules, forall₂_congr fun key _ => droneApiKey_accepted_iff key]
  exact ⟨fun ⟨fits, ids, known⟩ => ⟨ids, known, fits⟩,
    fun ⟨ids, known, fits⟩ => ⟨fits, ids, known⟩⟩

theorem users_meet_iff (carriesOrgs : orgRecords.Carries admits (migratedTable "orgs") rows orgs)
    (carries : userRecords.Carries admits (migratedTable "users") rows users)
    : (migratedTable "users").Meets admits rows ↔ UsersConsistent orgs users := by
  have declares := users_declared
  have ids := userIdKey.primaryKey_iff (fun _ => rfl) declares.name carries
  have emails :=
    (textKey userRecords "email" (fun user => some user.email) (by decide)
      fun _ => rfl).unique_iff (fun _ => rfl) declares.name carries
  have known :=
    (uuidKey userRecords "org_id" (fun user => some user.orgId) (by decide)
      fun _ => rfl).foreignKey_iff orgIdKey (fun _ => rfl) rfl .restrict declares.name carries
      orgs_declared.name carriesOrgs
  have rules
      : (∀ rule ∈ declaredRules userModel, rule.Holds rows "users")
        ↔ (users.map User.id).Nodup ∧ (users.map User.email).Nodup
          ∧ ∀ user ∈ users, user.orgId ∈ orgs.map Org.id :=
    holds_cons_iff ids (holds_cons_iff emails
      (List.forall_mem_singleton.trans (known.trans always_iff)))
  rw [declares.meets_iff carries, rules, forall₂_congr fun user _ => user_accepted_iff user]
  constructor
  · intro ⟨fits, ids, emails, known⟩
    exact ⟨ids, emails, known, fun user stored => (fits user stored).1,
      fun user stored => (fits user stored).2⟩
  · intro ⟨ids, emails, known, fits, counts⟩
    exact ⟨fun user stored => ⟨fits user stored, counts user stored⟩, ids, emails, known⟩

theorem roles_meet_iff (carries : roleRecords.Carries admits (migratedTable "roles") rows roles)
    : (migratedTable "roles").Meets admits rows ↔ RolesConsistent roles := by
  have declares := roles_declared
  have ids := roleIdKey.primaryKey_iff (fun _ => rfl) declares.name carries
  have names :=
    (textKey roleRecords "name" (fun role => some role.name) (by decide)
      fun _ => rfl).unique_iff (fun _ => rfl) declares.name carries
  have rules
      : (∀ rule ∈ declaredRules roleModel, rule.Holds rows "roles")
        ↔ (roles.map Role.id).Nodup ∧ (roles.map Role.name).Nodup :=
    holds_cons_iff ids (List.forall_mem_singleton.trans names)
  rw [declares.meets_iff carries, rules, forall₂_congr fun role _ => role_accepted_iff role]
  constructor
  · intro ⟨fits, ids, names⟩
    exact ⟨ids, names, fun role stored => (fits role stored).2,
      fun role stored => (fits role stored).1⟩
  · intro ⟨ids, names, fits, idsFit⟩
    exact ⟨fun role stored => ⟨idsFit role stored, fits role stored⟩, ids, names⟩

/-- References to roles fit as the ids of roles do. -/
theorem RolesConsistent.fit {id : Int} (consistent : RolesConsistent roles)
    (known : id ∈ roles.map Role.id)
    : fitsBits 16 id = true := by
  obtain ⟨role, stored, rfl⟩ := List.mem_map.mp known
  exact consistent.idsFit role stored

theorem userRoles_meet_iff
    (carriesOrgs : orgRecords.Carries admits (migratedTable "orgs") rows orgs)
    (carriesUsers : userRecords.Carries admits (migratedTable "users") rows users)
    (carriesRoles : roleRecords.Carries admits (migratedTable "roles") rows roles)
    (consistent : RolesConsistent roles)
    (carries : userRoleRecords.Carries admits (migratedTable "user_roles") rows grants)
    : (migratedTable "user_roles").Meets admits rows
      ↔ UserRolesConsistent orgs users roles grants := by
  have declares := userRoles_declared
  have keys := grantKey.primaryKey_iff (fun _ => rfl) declares.name carries
  have holders :=
    (uuidKey userRoleRecords "user_id" (fun grant => some grant.1.userId) (by decide)
      fun _ => rfl).foreignKey_iff userIdKey (fun _ => rfl) rfl .cascade declares.name carries
      users_declared.name carriesUsers
  have scopes :=
    (uuidKey userRoleRecords "org_id" (fun grant => some grant.1.orgId) (by decide)
      fun _ => rfl).foreignKey_iff orgIdKey (fun _ => rfl) rfl .cascade declares.name carries
      orgs_declared.name carriesOrgs
  have kinds :=
    (integerKey userRoleRecords "role_id" (fun grant => some grant.1.roleId) (by decide)
      fun _ => rfl).foreignKey_iff roleIdKey (fun _ => rfl) rfl .restrict declares.name carries
      roles_declared.name carriesRoles
  have granters :=
    (uuidKey userRoleRecords "granted_by" (fun grant => grant.1.grantedBy) (by decide)
      fun _ => rfl).foreignKey_iff userIdKey (fun _ => rfl) rfl .setNull declares.name carries
      users_declared.name carriesUsers
  have revokers :=
    (uuidKey userRoleRecords "revoked_by" (fun grant => grant.2) (by decide)
      fun _ => rfl).foreignKey_iff userIdKey (fun _ => rfl) rfl .setNull declares.name carries
      users_declared.name carriesUsers
  have rules
      : (∀ rule ∈ declaredRules userRoleModel, rule.Holds rows "user_roles")
        ↔ (grants.map (fun grant => grant.1.key)).Nodup
          ∧ (∀ grant ∈ grants, grant.1.userId ∈ users.map User.id)
          ∧ (∀ grant ∈ grants, grant.1.orgId ∈ orgs.map Org.id)
          ∧ (∀ grant ∈ grants, grant.1.roleId ∈ roles.map Role.id)
          ∧ (∀ grant ∈ grants, NullOr (· ∈ users.map User.id) grant.1.grantedBy)
          ∧ ∀ grant ∈ grants, NullOr (· ∈ users.map User.id) grant.2 :=
    holds_cons_iff keys (holds_cons_iff (holders.trans always_iff)
      (holds_cons_iff (scopes.trans always_iff) (holds_cons_iff (kinds.trans always_iff)
        (holds_cons_iff (granters.trans (forall₂_congr fun grant _ => nullOr_iff))
          (List.forall_mem_singleton.trans
            (revokers.trans (forall₂_congr fun grant _ => nullOr_iff)))))))
  rw [declares.meets_iff carries, rules]
  constructor
  · intro ⟨_, keys, holders, scopes, kinds, granters, revokers⟩
    exact ⟨keys, holders, scopes, kinds, granters, revokers⟩
  · intro ⟨keys, holders, scopes, kinds, granters, revokers⟩
    refine ⟨fun grant stored => ?_, keys, holders, scopes, kinds, granters, revokers⟩
    exact (userRole_accepted_iff grant).mpr (consistent.fit (kinds grant stored))

theorem sessions_meet_iff
    (carriesUsers : userRecords.Carries admits (migratedTable "users") rows users)
    (carries : sessionRecords.Carries admits (migratedTable "sessions") rows sessions)
    : (migratedTable "sessions").Meets admits rows ↔ SessionsConsistent users sessions := by
  have declares := sessions_declared
  have ids :=
    (uuidKey sessionRecords "id" (fun session => some session.id) (by decide)
      fun _ => rfl).primaryKey_iff (fun _ => rfl) declares.name carries
  have tokenHashes :=
    (textKey sessionRecords "token_hash" (fun session => some session.tokenHash) (by decide)
      fun _ => rfl).unique_iff (fun _ => rfl) declares.name carries
  have known :=
    (uuidKey sessionRecords "user_id" (fun session => some session.userId) (by decide)
      fun _ => rfl).foreignKey_iff userIdKey (fun _ => rfl) rfl .cascade declares.name carries
      users_declared.name carriesUsers
  have rules
      : (∀ rule ∈ declaredRules sessionModel, rule.Holds rows "sessions")
        ↔ (sessions.map Session.id).Nodup ∧ (sessions.map Session.tokenHash).Nodup
          ∧ ∀ session ∈ sessions, session.userId ∈ users.map User.id :=
    holds_cons_iff ids (holds_cons_iff tokenHashes
      (List.forall_mem_singleton.trans (known.trans always_iff)))
  rw [declares.meets_iff carries, rules,
    forall₂_congr fun session _ => session_accepted_iff session]
  exact ⟨fun ⟨fits, ids, tokenHashes, known⟩ => ⟨ids, tokenHashes, known, fits⟩,
    fun ⟨ids, tokenHashes, known, fits⟩ => ⟨fits, ids, tokenHashes, known⟩⟩

theorem auditLog_meets_iff (document : List (String × ExtraValue) → String)
    (carriesOrgs : orgRecords.Carries admits (migratedTable "orgs") rows orgs)
    (carriesUsers : userRecords.Carries admits (migratedTable "users") rows users)
    (carriesRoles : roleRecords.Carries admits (migratedTable "roles") rows roles)
    (consistent : RolesConsistent roles)
    (carries : (auditRecords document).Carries admits (migratedTable "audit_log") rows entries)
    : (migratedTable "audit_log").Meets admits rows
      ↔ AuditLogConsistent orgs users roles entries := by
  have declares := auditLog_declared
  have ids :=
    (integerKey (auditRecords document) "id" (fun entry => some entry.1)
      (show "id" ∈ auditColumns by decide)
      fun _ => rfl).primaryKey_iff (fun _ => rfl) declares.name carries
  have actors :=
    (uuidKey (auditRecords document) "user_id" (fun entry => entry.2.userId)
      (show "user_id" ∈ auditColumns by decide)
      fun _ => rfl).foreignKey_iff userIdKey (fun _ => rfl) rfl .setNull declares.name carries
      users_declared.name carriesUsers
  have targets :=
    (uuidKey (auditRecords document) "target_org_id" (fun entry => entry.2.targetOrgId)
      (show "target_org_id" ∈ auditColumns by decide)
      fun _ => rfl).foreignKey_iff orgIdKey (fun _ => rfl) rfl .setNull declares.name
      carries orgs_declared.name carriesOrgs
  have matchedRoles :=
    (integerKey (auditRecords document) "matched_role_id" (fun entry => entry.2.matchedRoleId)
      (show "matched_role_id" ∈ auditColumns by decide)
      fun _ => rfl).foreignKey_iff roleIdKey (fun _ => rfl) rfl .setNull
      declares.name carries roles_declared.name carriesRoles
  have matchedOrgs :=
    (uuidKey (auditRecords document) "matched_org_id" (fun entry => entry.2.matchedOrgId)
      (show "matched_org_id" ∈ auditColumns by decide)
      fun _ => rfl).foreignKey_iff orgIdKey (fun _ => rfl) rfl .setNull declares.name
      carries orgs_declared.name carriesOrgs
  have rules
      : (∀ rule ∈ declaredRules auditLogModel, rule.Holds rows "audit_log")
        ↔ (entries.map Prod.fst).Nodup
          ∧ (∀ entry ∈ entries, NullOr (· ∈ users.map User.id) entry.2.userId)
          ∧ (∀ entry ∈ entries, NullOr (· ∈ orgs.map Org.id) entry.2.targetOrgId)
          ∧ (∀ entry ∈ entries, NullOr (· ∈ roles.map Role.id) entry.2.matchedRoleId)
          ∧ ∀ entry ∈ entries, NullOr (· ∈ orgs.map Org.id) entry.2.matchedOrgId :=
    holds_cons_iff ids
      (holds_cons_iff (actors.trans (forall₂_congr fun entry _ => nullOr_iff))
        (holds_cons_iff (targets.trans (forall₂_congr fun entry _ => nullOr_iff))
          (holds_cons_iff (matchedRoles.trans (forall₂_congr fun entry _ => nullOr_iff))
            (List.forall_mem_singleton.trans
              (matchedOrgs.trans (forall₂_congr fun entry _ => nullOr_iff))))))
  rw [declares.meets_iff carries, rules,
    forall₂_congr fun entry _ => audit_accepted_iff document entry]
  constructor
  · intro ⟨accepted, ids, actors, targets, matchedRoles, matchedOrgs⟩
    exact ⟨ids, fun entry stored => (accepted entry stored).1, actors, targets, matchedRoles,
      matchedOrgs, fun entry stored => (accepted entry stored).2.2⟩
  · intro ⟨ids, idsFit, actors, targets, matchedRoles, matchedOrgs, fits⟩
    refine ⟨fun entry stored => ⟨idsFit entry stored, ?_, fits entry stored⟩, ids, actors,
      targets, matchedRoles, matchedOrgs⟩
    cases read : entry.2.matchedRoleId with
    | none => trivial
    | some id => exact consistent.fit (nullOr_iff.mpr (matchedRoles entry stored) id read)

end Asked

end SpecterCloud.Migrations
