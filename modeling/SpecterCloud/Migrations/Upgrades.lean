import SpecterCloud.Migrations.Statements

/-! What the second migration makes of the records: the fleet is kept in both directions, and a
database that was upgraded holds it beside the seeded roles.
-/

namespace SpecterCloud.Migrations

open SpecterCloud.Foundations
open SpecterCloud.Foundations.Relational
open SpecterCloud.Models

/-- An org of the first revision, which has no parent. -/
structure Tenant where
  id : UUID
  name : String
  slug : String

/-- The org under the second revision. -/
def Tenant.toOrg (tenant : Tenant) : Org :=
  { id := tenant.id, name := tenant.name, slug := tenant.slug, parentOrgId := none }

/-- What is left of an org under the first revision. -/
def Tenant.ofOrg (org : Org) : Tenant := { id := org.id, name := org.name, slug := org.slug }

def tenantRecords : RecordType Tenant SqlValue where
  columns := ["id", "name", "slug"]
  fields := fun tenant =>
    [
      ("id", some (.uuid tenant.id)),
      ("name", some (.text tenant.name)),
      ("slug", some (.text tenant.slug))
    ]
  names := fun _ => rfl
  distinct := by decide

/-- The records under the first revision. -/
structure FleetRecords where
  tenants : List Tenant
  drones : List Drone
  droneApiKeys : List DroneApiKey

/-- A table of the first revision. -/
def initialTable (name : String) : MigratedTable :=
  (findBy Table.name name initialTables).getD ⟨name, [], [], []⟩

namespace FleetRecords

/-- The rows of the first revision carry the records. -/
structure CarriedBy (fleet : FleetRecords) (rows : Rows SqlValue) : Prop where
  tenants : tenantRecords.Carries admits (initialTable "orgs") rows fleet.tenants
  drones : droneRecords.Carries admits (initialTable "drones") rows fleet.drones
  droneApiKeys
    : droneApiKeyRecords.Carries admits (initialTable "drone_api_keys") rows fleet.droneApiKeys

/-- The records after the upgrade: every tenant is a root, and there are roles. -/
def upgraded (fleet : FleetRecords) : StoredRecords where
  orgs := fleet.tenants.map Tenant.toOrg
  drones := fleet.drones
  droneApiKeys := fleet.droneApiKeys
  users := []
  roles := migratedRoles
  userRoles := []
  sessions := []
  auditLog := []

/-- The records after the downgrade. -/
def ofRecords (records : StoredRecords) : FleetRecords where
  tenants := records.orgs.map Tenant.ofOrg
  drones := records.drones
  droneApiKeys := records.droneApiKeys

/-- The downgrade takes the upgrade back. -/
theorem ofRecords_upgraded (fleet : FleetRecords) : ofRecords fleet.upgraded = fleet := by
  have same : (fleet.tenants.map Tenant.toOrg).map Tenant.ofOrg = fleet.tenants := by
    rw [List.map_map]
    exact List.map_id _
  rw [ofRecords, upgraded, same]

end FleetRecords

-----------------------------------------------------------------------------------------
-- The tables of both revisions
-----------------------------------------------------------------------------------------

/-- The second migration adds a column to `orgs` and leaves the tables of drones and keys. -/
theorem migratedTable_initial
    : (migratedTable "orgs").columns
        = (initialTable "orgs").columns ++ [optional "parent_org_id" .uuid]
      ∧ (initialTable "orgs").name = "orgs"
      ∧ "parent_org_id" ∉ (initialTable "orgs").columnNames
      ∧ migratedTable "drones" = initialTable "drones"
      ∧ migratedTable "drone_api_keys" = initialTable "drone_api_keys"
      ∧ migratedTable "roles" = rolesTable := by
  decide

section Rows

variable {store : MigratedStore} (now : Instant)

/-- The steps of the upgrade before the roles are inserted. -/
def stepsBeforeRoles : List MigrationStep :=
  HumanAuthRbac.addParentOrgId ++ (HumanAuthRbac.createUsers ++ HumanAuthRbac.createRoles)

/-- The roles are seeded into an empty table. -/
theorem upgrade_roles (tables : store.tables = initialTables) (valid : store.Valid admits)
    : (resultAll (evaluate now) HumanAuthRbac.upgrade store).rows "roles" = roleRows now := by
  have seeded
      : (resultAll (evaluate now) HumanAuthRbac.upgrade store).rows "roles"
        = store.rows "roles"
          ++ HumanAuthRbac.roleSeeds.map
              (fillRow (evaluate now)
                (((findBy Table.name "roles" (editAll stepsBeforeRoles store.tables)).map
                  Table.columns).getD [])) :=
    rfl
  have found : findBy Table.name "roles" (editAll stepsBeforeRoles store.tables) = some rolesTable := by
    rw [tables]
    decide
  have missing : "roles" ∉ store.tables.tableNames := by
    rw [tables, initialTables_names]
    decide
  rw [seeded, found, valid.absent "roles" missing]
  rfl

/-- The new tables of people are empty. -/
theorem upgrade_people (tables : store.tables = initialTables) (valid : store.Valid admits)
    {name : String} (new : name ∈ ["users", "user_roles", "sessions", "audit_log"])
    : (resultAll (evaluate now) HumanAuthRbac.upgrade store).rows name = [] := by
  have missing : name ∉ store.tables.tableNames := by
    rw [tables, initialTables_names]
    revert name
    decide
  have kept
      : (resultAll (evaluate now) HumanAuthRbac.upgrade store).rows name = store.rows name := by
    simp only [List.mem_cons, List.not_mem_nil, or_false] at new
    rcases new with rfl | rfl | rfl | rfl <;> rfl
  exact kept.trans (valid.absent name missing)

end Rows

-----------------------------------------------------------------------------------------
-- The records of both revisions
-----------------------------------------------------------------------------------------

section Orgs

variable {before after : Rows SqlValue}

/-- A new column of `orgs` without values. -/
theorem tenants_upgraded {tenants : List Tenant}
    (carries : tenantRecords.Carries admits (initialTable "orgs") before tenants)
    (same
      : after "orgs" = (before "orgs").map (fun row => row ++ [("parent_org_id", none)]))
    : orgRecords.Carries admits (migratedTable "orgs") after (tenants.map Tenant.toOrg) := by
  obtain ⟨columns, initialName, fresh, _⟩ := migratedTable_initial
  have shown : orgRecords.columns = tenantRecords.columns ++ ["parent_org_id"] := rfl
  have written
      : after (migratedTable "orgs").name
        = (before (initialTable "orgs").name).map
            (fun row => row ++ [("parent_org_id", none)]) := by
    rw [orgs_declared.name, initialName]
    exact same
  refine carries.mapped written ?_ ?_ ?_
  · intro row shape
    rw [List.map_append, shape, Table.columnNames, Table.columnNames, columns, List.map_append]
    rfl
  · intro row tenant shape shows name member
    rw [valueOf_append_null]
    rw [shown] at member
    rcases List.mem_append.mp member with old | new
    · rw [shows name old]
      simp only [tenantRecords, List.mem_cons, List.not_mem_nil, or_false] at old
      rcases old with rfl | rfl | rfl <;> rfl
    · obtain rfl := List.mem_singleton.mp new
      exact valueOf_absent (shape ▸ fresh)
  · intro row shape column known hidden
    rw [columns] at known
    rw [shown] at hidden
    rcases List.mem_append.mp known with old | new
    · refine .inl ⟨old, fun member => hidden (List.mem_append_left _ member), ?_⟩
      exact valueOf_append_null
    · obtain rfl := List.mem_singleton.mp new
      exact absurd (List.mem_append_right _ (List.mem_singleton.mpr rfl)) hidden

/-- The column taken away. -/
theorem orgs_downgraded {orgs : List Org}
    (carries : orgRecords.Carries admits (migratedTable "orgs") before orgs)
    (same : after "orgs" = (before "orgs").map (eraseColumn "parent_org_id"))
    : tenantRecords.Carries admits (initialTable "orgs") after (orgs.map Tenant.ofOrg) := by
  obtain ⟨columns, initialName, fresh, _⟩ := migratedTable_initial
  have shown : orgRecords.columns = tenantRecords.columns ++ ["parent_org_id"] := rfl
  have written
      : after (initialTable "orgs").name
        = (before (migratedTable "orgs").name).map (eraseColumn "parent_org_id") := by
    rw [orgs_declared.name, initialName]
    exact same
  refine carries.mapped written ?_ ?_ ?_
  · intro row shape
    have kept
        : (initialTable "orgs").columnNames.filter (· ≠ "parent_org_id")
          = (initialTable "orgs").columnNames := by
      refine List.filter_eq_self.mpr fun name member => decide_eq_true ?_
      exact fun parent => fresh (parent ▸ member)
    have names
        : (migratedTable "orgs").columnNames
          = (initialTable "orgs").columnNames ++ ["parent_org_id"] := by
      rw [Table.columnNames, columns, List.map_append]
      rfl
    rw [eraseColumn_names, shape, names, List.filter_append, kept]
    exact List.append_nil _
  · intro row org shape shows name member
    have apart : name ≠ "parent_org_id" := by
      rintro rfl
      revert member
      decide
    rw [valueOf_eraseColumn apart, shows name (shown ▸ List.mem_append_left _ member)]
    simp only [tenantRecords, List.mem_cons, List.not_mem_nil, or_false] at member
    rcases member with rfl | rfl | rfl <;> rfl
  · intro row shape column known hidden
    have apart : column.name ≠ "parent_org_id" :=
      fun parent => fresh (parent ▸ List.mem_map_of_mem known)
    refine .inl ⟨?_, ?_, valueOf_eraseColumn apart⟩
    · rw [columns]
      exact List.mem_append_left _ known
    · rw [shown]
      intro member
      rcases List.mem_append.mp member with old | new
      · exact hidden old
      · exact apart (List.mem_singleton.mp new)

end Orgs

section Fleets

variable {fleet : FleetRecords} {store : MigratedStore} {rows after : Rows SqlValue}

theorem shows_of_readRole {row : Row SqlValue} {role : Role} (read : readRole row = some role)
    : roleRecords.Shows row role := by
  unfold readRole at read
  split at read
  · rename_i id name isPlatformRole readId readName readPlatform
    obtain rfl := Option.some.inj read
    intro column shown
    simp only [roleRecords, List.mem_cons, List.not_mem_nil, or_false] at shown
    rcases shown with rfl | rfl | rfl
    · exact readId
    · exact readName
    · exact readPlatform
  · cases read

/-- The seeded rows are those of the roles. -/
theorem roles_seeded (now : Instant) (same : after "roles" = roleRows now)
    : roleRecords.Carries admits (migratedTable "roles") after migratedRoles := by
  obtain ⟨_, _, _, _, _, table⟩ := migratedTable_initial
  have meets := roleRows_meet now
  have rows : after rolesTable.name = roleRows now := same
  rw [table]
  refine ⟨rows ▸ meets.shape, ?_, ?_⟩
  · have read := roleRows_migrated now
    rw [← List.forall₂_eq_eq_eq, List.forall₂_map_left_iff, List.forall₂_map_right_iff] at read
    rw [rows]
    exact read.imp fun row role => shows_of_readRole
  · rw [rows]
    exact fun row stored column known _ => meets.accepted row stored column known

/-- The upgrade makes of the records what `upgraded` says. -/
theorem FleetRecords.CarriedBy.upgrade (carried : fleet.CarriedBy store.rows)
    (document : List (String × ExtraValue) → String) (now : Instant)
    (tables : store.tables = initialTables) (valid : store.Valid admits)
    : fleet.upgraded.CarriedBy document
        (resultAll (evaluate now) HumanAuthRbac.upgrade store).rows := by
  obtain ⟨_, _, _, dronesSame, keysSame, _⟩ := migratedTable_initial
  have drones := carried.drones
  have droneApiKeys := carried.droneApiKeys
  rw [← dronesSame] at drones
  rw [← keysSame] at droneApiKeys
  have empty {name : String} (new : name ∈ ["users", "user_roles", "sessions", "audit_log"]) :=
    upgrade_people now tables valid new
  exact
    { orgs := tenants_upgraded carried.tenants rfl
      drones := drones.congr (by rw [drones_declared.name]; rfl)
      droneApiKeys := droneApiKeys.congr (by rw [droneApiKeys_declared.name]; rfl)
      users := .of_empty (users_declared.name ▸ empty (by decide))
      roles := roles_seeded now (upgrade_roles now tables valid)
      userRoles := .of_empty (userRoles_declared.name ▸ empty (by decide))
      sessions := .of_empty (sessions_declared.name ▸ empty (by decide))
      auditLog := .of_empty (auditLog_declared.name ▸ empty (by decide)) }

/-- The downgrade leaves what `ofRecords` says. -/
theorem StoredRecords.CarriedBy.downgrade {records : StoredRecords}
    {document : List (String × ExtraValue) → String} (carried : records.CarriedBy document rows)
    : (FleetRecords.ofRecords records).CarriedBy (rolledBack rows) := by
  obtain ⟨_, _, _, dronesSame, keysSame, _⟩ := migratedTable_initial
  refine ⟨orgs_downgraded carried.orgs rfl, ?_, ?_⟩
  · rw [← dronesSame]
    exact carried.drones.congr (by rw [drones_declared.name]; rfl)
  · rw [← keysSame]
    exact carried.droneApiKeys.congr (by rw [droneApiKeys_declared.name]; rfl)

end Fleets

-----------------------------------------------------------------------------------------
-- Both commands
-----------------------------------------------------------------------------------------

section Commands

variable {store : MigratedStore}

/-- The upgrade runs the second migration. -/
theorem runMigrations_upgrade (now : Instant) (stands : StandsAt (some "ad02ee5908dd") store)
    : runMigrations now (.upgrade "c4a72f3b8d91") { store, version := some "ad02ee5908dd" }
        = (.ok (),
          {
            store := resultAll (evaluate now) HumanAuthRbac.upgrade store
            version := some "c4a72f3b8d91"
          })
      ∧ StandsAt (some "c4a72f3b8d91")
          (resultAll (evaluate now) HumanAuthRbac.upgrade store) := by
  obtain ⟨tables, valid⟩ := atRevision_initial_iff.mp (standsAt_initial_iff.mp stands)
  have upgrade := upgrade_succeeds now tables valid
  constructor
  · have scripts
        : (RevisionCommand.upgrade "c4a72f3b8d91").scripts versions (some "ad02ee5908dd")
          = (.ok [(HumanAuthRbac.upgrade, some "c4a72f3b8d91")]
            : Except (RevisionError String Refusal) _) :=
      rfl
    simp only [runMigrations, RevisionCommand.perform, scripts, runScripts, runScript]
    rw [upgrade]
  · refine standsAt_humanAuth_iff.mpr ⟨?_, upgrade.valid valid⟩
    rw [resultAll_tables, tables]

/-- The downgrade takes the second migration back. -/
theorem runMigrations_downgrade (now : Instant) (stands : StandsAt (some "c4a72f3b8d91") store)
    : runMigrations now (.downgrade (some "ad02ee5908dd"))
          { store, version := some "c4a72f3b8d91" }
        = (.ok (),
          {
            store := resultAll (evaluate now) HumanAuthRbac.downgrade store
            version := some "ad02ee5908dd"
          })
      ∧ StandsAt (some "ad02ee5908dd")
          (resultAll (evaluate now) HumanAuthRbac.downgrade store)
      ∧ (resultAll (evaluate now) HumanAuthRbac.downgrade store).rows
        = rolledBack store.rows := by
  obtain ⟨tables, valid⟩ := standsAt_humanAuth_iff.mp stands
  have downgrade := downgrade_succeeds now tables valid
  refine ⟨?_, ?_, downgrade_rows now tables valid⟩
  · have scripts
        : (RevisionCommand.downgrade (some "ad02ee5908dd")).scripts versions
            (some "c4a72f3b8d91")
          = (.ok [(HumanAuthRbac.downgrade, some "ad02ee5908dd")]
            : Except (RevisionError String Refusal) _) :=
      rfl
    simp only [runMigrations, RevisionCommand.perform, scripts, runScripts, runScript]
    rw [downgrade]
  · refine standsAt_initial_iff.mpr (atRevision_initial_iff.mpr ⟨?_, downgrade.valid valid⟩)
    exact downgrade_result_tables now tables

/-- The fleet survives the second migration in both directions. Upgrading a database that holds
it leaves one that holds the same orgs, as roots, the same drones and keys, the six roles and
nobody; and a downgrade, whatever has been done until then, leaves the orgs without their
parents, the drones and the keys that are there at that time.
-/
theorem migrations_keep_fleet (document : List (String × ExtraValue) → String)
    (now : Instant) (fleet : FleetRecords) (store : MigratedStore)
    (stands : StandsAt (some "ad02ee5908dd") store) (carried : fleet.CarriedBy store.rows)
    : (∃ upgraded db,
        runMigrations now (.upgrade "c4a72f3b8d91") { store, version := some "ad02ee5908dd" }
          = (.ok (), { store := upgraded, version := some "c4a72f3b8d91" })
        ∧ Holds document upgraded fleet.upgraded db)
      ∧ ∀ later current records db,
          Holds document current records db
          → ∃ after,
              runMigrations later (.downgrade (some "ad02ee5908dd"))
                  { store := current, version := some "c4a72f3b8d91" }
                = (.ok (), { store := after, version := some "ad02ee5908dd" })
              ∧ StandsAt (some "ad02ee5908dd") after
              ∧ (FleetRecords.ofRecords records).CarriedBy after.rows := by
  constructor
  · obtain ⟨tables, valid⟩ := atRevision_initial_iff.mp (standsAt_initial_iff.mp stands)
    obtain ⟨ran, standsUpgraded⟩ := runMigrations_upgrade now stands
    have carriedUpgraded := carried.upgrade document now tables valid
    have consistent := carriedUpgraded.consistent standsUpgraded
    exact ⟨_, fleet.upgraded.database consistent, ran, standsUpgraded, carriedUpgraded,
      rfl, rfl, rfl, rfl, rfl, rfl⟩
  · intro later current records db holds
    obtain ⟨ran, standsAfter, rows⟩ := runMigrations_downgrade later holds.stands
    refine ⟨_, ran, standsAfter, ?_⟩
    rw [rows]
    exact holds.carried.downgrade

end Commands

-----------------------------------------------------------------------------------------
-- A drone
-----------------------------------------------------------------------------------------

/-- An org with a drone. -/
def scoutRecords : StoredRecords :=
  { migratedRecords with
    orgs := [sampleOrg]
    drones := [{ id := 2, slug := "scout", orgId := 1, isActive := true }] }

theorem scoutRecords_consistent : scoutRecords.Consistent :=
  { migratedRecords_consistent with
    orgs := ⟨by decide, by decide, by decide, by decide⟩
    drones := ⟨by decide, by decide, by decide, by decide⟩
    droneApiKeys := ⟨by decide, by decide, by decide⟩
    users := migratedRecords_consistent.users.grow (List.nil_subset _)
    userRoles := migratedRecords_consistent.userRoles.grow (List.nil_subset _) (.refl _)
    auditLog := migratedRecords_consistent.auditLog.grow (List.nil_subset _) (.refl _) }

/-- The database with the drone under the first revision. -/
def scoutStore : MigratedStore :=
  resultAll (evaluate 0) HumanAuthRbac.downgrade
    ⟨migratedTables, scoutRecords.rowsOf (fun _ => "{}") 0⟩

/-- The drone is there after the upgrade, and still after the downgrade. -/
theorem scoutStore_kept
    : ∃ upgraded after,
        runMigrations 1 (.upgrade "c4a72f3b8d91")
            { store := scoutStore, version := some "ad02ee5908dd" }
          = (.ok (), { store := upgraded, version := some "c4a72f3b8d91" })
        ∧ runMigrations 2 (.downgrade (some "ad02ee5908dd"))
            { store := upgraded, version := some "c4a72f3b8d91" }
          = (.ok (), { store := after, version := some "ad02ee5908dd" })
        ∧ (FleetRecords.ofRecords scoutRecords).CarriedBy after.rows := by
  obtain ⟨_, stands, rows⟩ :=
    runMigrations_downgrade 0
      (StoredRecords.standsAt_rowsOf (fun _ => "{}") 0 scoutRecords_consistent)
  have carried : (FleetRecords.ofRecords scoutRecords).CarriedBy scoutStore.rows :=
    rows ▸ (StoredRecords.carriedBy_rowsOf (fun _ => "{}") 0 scoutRecords).downgrade
  obtain ⟨⟨upgraded, db, ran, holds⟩, downgrades⟩ :=
    migrations_keep_fleet (fun _ => "{}") 1 (.ofRecords scoutRecords) scoutStore stands carried
  obtain ⟨after, back, _, kept⟩ := downgrades 2 upgraded _ db holds
  rw [FleetRecords.ofRecords_upgraded] at kept
  exact ⟨upgraded, after, ran, back, kept⟩

end SpecterCloud.Migrations
