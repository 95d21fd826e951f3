import SpecterCloud.Migrations.Records

/-! The databases of `Models` are the contents of a migrated database: the constraints that they
carry, together with the references and limits that they leave to their statements, are all that
the migrated tables ask.
-/

namespace SpecterCloud.Migrations

open SpecterCloud.Foundations
open SpecterCloud.Foundations.Relational
open SpecterCloud.Models

/-- The records of all tables. -/
structure StoredRecords where
  orgs : List Org
  drones : List Drone
  droneApiKeys : List DroneApiKey
  users : List User
  roles : List Role
  userRoles : List (UserRole × Option UUID)
  sessions : List Session
  auditLog : List (Int × AuditLog)

namespace StoredRecords

/-- What the tables ask of their records. -/
structure Consistent (records : StoredRecords) : Prop where
  orgs : OrgsConsistent records.orgs
  drones : DronesConsistent records.orgs records.drones
  droneApiKeys : DroneApiKeysConsistent records.drones records.droneApiKeys
  users : UsersConsistent records.orgs records.users
  roles : RolesConsistent records.roles
  userRoles : UserRolesConsistent records.orgs records.users records.roles records.userRoles
  sessions : SessionsConsistent records.users records.sessions
  auditLog : AuditLogConsistent records.orgs records.users records.roles records.auditLog

/-- The rows of all tables carry the records. -/
structure CarriedBy (document : List (String × ExtraValue) → String) (records : StoredRecords)
    (rows : Rows SqlValue)
    : Prop where
  orgs : orgRecords.Carries admits (migratedTable "orgs") rows records.orgs
  drones : droneRecords.Carries admits (migratedTable "drones") rows records.drones
  droneApiKeys
    : droneApiKeyRecords.Carries admits (migratedTable "drone_api_keys") rows
        records.droneApiKeys
  users : userRecords.Carries admits (migratedTable "users") rows records.users
  roles : roleRecords.Carries admits (migratedTable "roles") rows records.roles
  userRoles : userRoleRecords.Carries admits (migratedTable "user_roles") rows records.userRoles
  sessions : sessionRecords.Carries admits (migratedTable "sessions") rows records.sessions
  auditLog
    : (auditRecords document).Carries admits (migratedTable "audit_log") rows records.auditLog

variable {document : List (String × ExtraValue) → String} {records : StoredRecords}
  {rows : Rows SqlValue}

/-- The migrated tables are met by rows whose records are consistent. -/
theorem CarriedBy.meets_iff (carried : records.CarriedBy document rows)
    : Store.Meets admits ⟨migratedTables, rows⟩ ↔ records.Consistent := by
  have tables
      : Store.Meets admits ⟨migratedTables, rows⟩
        ↔ ∀ entry ∈ declaredTables, (migratedTable entry.1).Meets admits rows := by
    show (∀ table ∈ migratedTables, table.Meets admits rows) ↔ _
    rw [migratedTables_declared.1, List.forall_mem_map]
  have each
      : (∀ entry ∈ declaredTables, (migratedTable entry.1).Meets admits rows)
        ↔ (migratedTable "orgs").Meets admits rows ∧ (migratedTable "drones").Meets admits rows
          ∧ (migratedTable "drone_api_keys").Meets admits rows
          ∧ (migratedTable "users").Meets admits rows
          ∧ (migratedTable "roles").Meets admits rows
          ∧ (migratedTable "user_roles").Meets admits rows
          ∧ (migratedTable "sessions").Meets admits rows
          ∧ (migratedTable "audit_log").Meets admits rows := by
    simp [declaredTables]
  rw [tables, each, orgs_meet_iff carried.orgs, drones_meet_iff carried.orgs carried.drones,
    droneApiKeys_meet_iff carried.drones carried.droneApiKeys,
    users_meet_iff carried.orgs carried.users, roles_meet_iff carried.roles,
    sessions_meet_iff carried.users carried.sessions]
  constructor
  · intro meets
    obtain ⟨orgs, drones, droneApiKeys, users, roles, userRoles, sessions, auditLog⟩ := meets
    refine ⟨orgs, drones, droneApiKeys, users, roles, ?_, sessions, ?_⟩
    · exact (userRoles_meet_iff carried.orgs carried.users carried.roles roles
        carried.userRoles).mp userRoles
    · exact (auditLog_meets_iff document carried.orgs carried.users carried.roles roles
        carried.auditLog).mp auditLog
  · intro consistent
    refine ⟨consistent.orgs, consistent.drones, consistent.droneApiKeys, consistent.users,
      consistent.roles, ?_, consistent.sessions, ?_⟩
    · exact (userRoles_meet_iff carried.orgs carried.users carried.roles consistent.roles
        carried.userRoles).mpr consistent.userRoles
    · exact (auditLog_meets_iff document carried.orgs carried.users carried.roles
        consistent.roles carried.auditLog).mpr consistent.auditLog

/-- The records of a migrated database are consistent. -/
theorem CarriedBy.consistent {store : MigratedStore}
    (carried : records.CarriedBy document store.rows)
    (stands : StandsAt (some "c4a72f3b8d91") store)
    : records.Consistent := by
  obtain ⟨tables, valid⟩ := standsAt_humanAuth_iff.mp stands
  refine carried.meets_iff.mp ?_
  rw [migratedTables, ← tables]
  exact valid.meets

-----------------------------------------------------------------------------------------
-- As the code reads them
-----------------------------------------------------------------------------------------

/-- The database that the sessions, logins and permissions are read from. -/
def database (records : StoredRecords) (consistent : records.Consistent) : Database where
  orgs := records.orgs
  userRoles := records.userRoles.map Prod.fst
  roles := records.roles
  orgIds := consistent.orgs.ids
  grantKeys := by
    rw [List.map_map]
    exact consistent.userRoles.keys
  roleIds := consistent.roles.ids
  roleNames := consistent.roles.names
  users := records.users
  sessions := records.sessions
  auditLog := records.auditLog.map Prod.snd
  orgSlugs := consistent.orgs.slugs
  userIds := consistent.users.ids
  userEmails := consistent.users.emails
  sessionIds := consistent.sessions.ids
  sessionTokenHashes := consistent.sessions.tokenHashes
  userOrgs := consistent.users.orgsKnown
  userEmailsStorable := fun user stored => (consistent.users.fits user stored).email.2
  roleNamesStorable := fun role stored => (consistent.roles.fits role stored).2

/-- The tables that the keys of drones are read from. -/
def fleet (records : StoredRecords) (consistent : records.Consistent) : FleetTables where
  orgs := records.orgs
  drones := records.drones
  droneApiKeys := records.droneApiKeys
  orgIds := consistent.orgs.ids
  orgSlugs := consistent.orgs.slugs
  droneIds := consistent.drones.ids
  dronePlaces := consistent.drones.places
  droneApiKeyIds := consistent.droneApiKeys.ids
  keyDrones := consistent.droneApiKeys.dronesKnown
  orgSlugsStorable := fun org stored => (consistent.orgs.fits org stored).slug.2
  droneSlugsStorable := fun drone stored => (consistent.drones.fits drone stored).2

end StoredRecords

-----------------------------------------------------------------------------------------
-- Rows for them
-----------------------------------------------------------------------------------------

theorem migratedTables_tableNames : migratedTables.tableNames = declaredTables.map Prod.fst := by
  rw [Schema.tableNames, migratedTables_declared.1, List.map_map]
  exact List.map_congr_left fun entry declared => (migratedTables_declared.2 entry declared).name

section Fillings

variable {α : Type} {type : RecordType α SqlValue} {table : String} {model : List MigrationStep}
  {filler : List (String × SqlValue)}

/-- Records of a class fill its migrated table if they fill the columns that it declares. -/
theorem fills_of_declared (declared : (table, model) ∈ declaredTables) (now : Instant)
    (present : type.columns ⊆ (declaredColumns model).map Column.name)
    (undefaulted
      : ∀ record, ∀ column ∈ declaredColumns model, column.name ∈ type.columns
          → type.value record column.name = none → column.serverDefault = none)
    (unshown : ∀ name ∈ type.columns, filler.lookup name = none)
    (accepted
      : ∀ column ∈ declaredColumns model, column.name ∉ type.columns
          → column.accepts admits
              ((filler.lookup column.name).or (column.serverDefault.map (evaluate now)))
            = true)
    : type.Fills admits (evaluate now) (migratedTable table) filler where
  present := by
    intro name shown
    exact ((declares_of_mem declared).columns.map Column.name).mem_iff.mpr (present shown)
  distinct := by
    refine migratedTables_agree.distinct.columns _ ?_
    rw [migratedTables_declared.1]
    exact List.mem_map.mpr ⟨_, declared, rfl⟩
  undefaulted := fun record column member =>
    undefaulted record column ((declares_of_mem declared).columns.mem_iff.mp member)
  unshown := unshown
  accepted := fun column member =>
    accepted column ((declares_of_mem declared).columns.mem_iff.mp member)

variable (now : Instant)

theorem org_fills
    : orgRecords.Fills admits (evaluate now) (migratedTable "orgs") [] := by
  have declared : ("orgs", orgModel) ∈ declaredTables := by simp [declaredTables]
  refine fills_of_declared declared now ?_ ?_ ?_ ?_
  all_goals
    simp [declaredColumns, orgModel, orgRecords, RecordType.value, valueOf, List.lookup_cons,
      required, optional, defaulted, Column.accepts, admits, evaluate]

/-- Drones have a name that is read nowhere. -/
theorem drone_fills
    : droneRecords.Fills admits (evaluate now) (migratedTable "drones")
        [("name", .text "")] := by
  have declared : ("drones", droneModel) ∈ declaredTables := by simp [declaredTables]
  refine fills_of_declared declared now ?_ ?_ ?_ ?_
  all_goals
    simp [declaredColumns, droneModel, droneRecords, RecordType.value, valueOf,
      List.lookup_cons, required, defaulted, Column.accepts, admits, evaluate, FitsString, Storable]

theorem droneApiKey_fills
    : droneApiKeyRecords.Fills admits (evaluate now) (migratedTable "drone_api_keys") [] := by
  have declared : ("drone_api_keys", droneApiKeyModel) ∈ declaredTables := by
    simp [declaredTables]
  refine fills_of_declared declared now ?_ ?_ ?_ ?_
  all_goals
    simp [declaredColumns, droneApiKeyModel, droneApiKeyRecords, RecordType.value, valueOf,
      List.lookup_cons, required, optional, defaulted, Column.accepts, admits, evaluate]

theorem user_fills
    : userRecords.Fills admits (evaluate now) (migratedTable "users") [] := by
  have declared : ("users", userModel) ∈ declaredTables := by simp [declaredTables]
  refine fills_of_declared declared now ?_ ?_ ?_ ?_
  all_goals
    simp [declaredColumns, userModel, userRecords, RecordType.value, valueOf, List.lookup_cons,
      required, optional, defaulted, Column.accepts, admits, evaluate]

/-- Roles have a description that is read nowhere. -/
theorem role_fills
    : roleRecords.Fills admits (evaluate now) (migratedTable "roles")
        [("description", .text "")] := by
  have declared : ("roles", roleModel) ∈ declaredTables := by simp [declaredTables]
  refine fills_of_declared declared now ?_ ?_ ?_ ?_
  all_goals
    simp [declaredColumns, roleModel, roleRecords, RecordType.value, valueOf, List.lookup_cons,
      required, defaulted, autoincrement, Column.accepts, admits, evaluate, Storable]

theorem userRole_fills
    : userRoleRecords.Fills admits (evaluate now) (migratedTable "user_roles") [] := by
  have declared : ("user_roles", userRoleModel) ∈ declaredTables := by simp [declaredTables]
  refine fills_of_declared declared now ?_ ?_ ?_ ?_
  all_goals
    simp [declaredColumns, userRoleModel, userRoleRecords, RecordType.value, valueOf,
      List.lookup_cons, required, optional, defaulted, Column.accepts, admits, evaluate]

theorem session_fills
    : sessionRecords.Fills admits (evaluate now) (migratedTable "sessions") [] := by
  have declared : ("sessions", sessionModel) ∈ declaredTables := by simp [declaredTables]
  refine fills_of_declared declared now ?_ ?_ ?_ ?_
  all_goals
    simp [declaredColumns, sessionModel, sessionRecords, RecordType.value, valueOf,
      List.lookup_cons, required, optional, defaulted, Column.accepts, admits, evaluate]

theorem audit_fills (document : List (String × ExtraValue) → String)
    : (auditRecords document).Fills admits (evaluate now) (migratedTable "audit_log") [] := by
  have declared : ("audit_log", auditLogModel) ∈ declaredTables := by simp [declaredTables]
  refine fills_of_declared declared now ?_ ?_ ?_ ?_
  all_goals
    simp [declaredColumns, auditLogModel, auditRecords, auditColumns, RecordType.value, valueOf,
      List.lookup_cons, required, optional, defaulted, autoincrement, Column.accepts, admits,
      evaluate]

end Fillings

namespace StoredRecords

/-- Rows for the records, under the names of the tables. -/
def tableRows (document : List (String × ExtraValue) → String) (now : Instant)
    (records : StoredRecords)
    : List (String × List (Row SqlValue)) :=
  [
    ("orgs",
      records.orgs.map (orgRecords.made (evaluate now) (migratedTable "orgs") [])),
    ("drones",
      records.drones.map
        (droneRecords.made (evaluate now) (migratedTable "drones") [("name", .text "")])),
    ("drone_api_keys",
      records.droneApiKeys.map
        (droneApiKeyRecords.made (evaluate now) (migratedTable "drone_api_keys") [])),
    ("users",
      records.users.map (userRecords.made (evaluate now) (migratedTable "users") [])),
    ("roles",
      records.roles.map
        (roleRecords.made (evaluate now) (migratedTable "roles") [("description", .text "")])),
    ("user_roles",
      records.userRoles.map
        (userRoleRecords.made (evaluate now) (migratedTable "user_roles") [])),
    ("sessions",
      records.sessions.map
        (sessionRecords.made (evaluate now) (migratedTable "sessions") [])),
    ("audit_log",
      records.auditLog.map
        ((auditRecords document).made (evaluate now) (migratedTable "audit_log") []))
  ]

/-- Rows for the records of all tables. -/
def rowsOf (document : List (String × ExtraValue) → String) (now : Instant)
    (records : StoredRecords)
    : Rows SqlValue :=
  fun name => ((records.tableRows document now).lookup name).getD []

theorem carriedBy_rowsOf (document : List (String × ExtraValue) → String) (now : Instant)
    (records : StoredRecords)
    : records.CarriedBy document (records.rowsOf document now) where
  orgs := (org_fills now).carries (by rw [orgs_declared.name]; rfl)
  drones := (drone_fills now).carries (by rw [drones_declared.name]; rfl)
  droneApiKeys := (droneApiKey_fills now).carries (by rw [droneApiKeys_declared.name]; rfl)
  users := (user_fills now).carries (by rw [users_declared.name]; rfl)
  roles := (role_fills now).carries (by rw [roles_declared.name]; rfl)
  userRoles := (userRole_fills now).carries (by rw [userRoles_declared.name]; rfl)
  sessions := (session_fills now).carries (by rw [sessions_declared.name]; rfl)
  auditLog := (audit_fills now document).carries (by rw [auditLog_declared.name]; rfl)

/-- The migrations lead to a database with the rows, if the records are consistent. -/
theorem standsAt_rowsOf (document : List (String × ExtraValue) → String) (now : Instant)
    {records : StoredRecords} (consistent : records.Consistent)
    : StandsAt (some "c4a72f3b8d91") ⟨migratedTables, records.rowsOf document now⟩ := by
  refine standsAt_humanAuth_iff.mpr ⟨rfl, ?_, ?_⟩
  · exact (carriedBy_rowsOf document now records).meets_iff.mpr consistent
  · intro name absent
    have missing : name ∉ (records.tableRows document now).map Prod.fst := by
      have known
          : (records.tableRows document now).map Prod.fst = declaredTables.map Prod.fst :=
        rfl
      rw [known, ← migratedTables_tableNames]
      exact absent
    have unfound : (records.tableRows document now).lookup name = none := by
      refine List.lookup_eq_none_iff.mpr fun entry member => ?_
      have apart : name ≠ entry.1 := fun same => missing (same ▸ List.mem_map_of_mem member)
      simpa using apart
    show ((records.tableRows document now).lookup name).getD [] = []
    rw [unfound]
    rfl

-----------------------------------------------------------------------------------------
-- All of them
-----------------------------------------------------------------------------------------

/-- Records are consistent exactly when a migrated database can hold them. Those of
any such database are a `Database` and `FleetTables`: all constraints that these carry are
constraints of the migrated tables.
-/
theorem consistent_iff_held (document : List (String × ExtraValue) → String)
    (records : StoredRecords)
    : (records.Consistent
        ↔ ∃ store, StandsAt (some "c4a72f3b8d91") store ∧ records.CarriedBy document store.rows)
      ∧ ∀ store, StandsAt (some "c4a72f3b8d91") store
          → records.CarriedBy document store.rows
          → (∃ db : Database,
              db.orgs = records.orgs ∧ db.users = records.users ∧ db.roles = records.roles
              ∧ db.userRoles = records.userRoles.map Prod.fst
              ∧ db.sessions = records.sessions
              ∧ db.auditLog = records.auditLog.map Prod.snd)
            ∧ ∃ fleet : FleetTables,
              fleet.orgs = records.orgs ∧ fleet.drones = records.drones
              ∧ fleet.droneApiKeys = records.droneApiKeys := by
  refine ⟨⟨fun consistent => ?_, fun holding => ?_⟩, ?_⟩
  · exact ⟨_, standsAt_rowsOf document 0 consistent, carriedBy_rowsOf document 0 records⟩
  · obtain ⟨store, stands, carried⟩ := holding
    exact carried.consistent stands
  · intro store stands carried
    have consistent := carried.consistent stands
    exact ⟨⟨records.database consistent, rfl, rfl, rfl, rfl, rfl, rfl⟩,
      records.fleet consistent, rfl, rfl, rfl⟩

end StoredRecords

end SpecterCloud.Migrations
