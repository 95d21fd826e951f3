import SpecterCloud.Migrations.Versions
import SpecterCloud.Models.Accounts
import Mathlib.Logic.Relation

/-! The way back from `c4a72f3b8d91`. Whatever rows its schema has come to hold, every step of
the downgrade succeeds, and only what the upgrade has added is lost.
-/

namespace SpecterCloud.Migrations

open SpecterCloud.Foundations
open SpecterCloud.Foundations.Relational
open SpecterCloud.Models

/-- A database at the revision that some upgrades lead to: it has the tables, columns, indexes
and constraints that they make of an empty one, with any rows that these allow.
-/
structure AtRevision (upgrades : List MigrationStep) (store : MigratedStore) : Prop where
  schema : alterAll upgrades [] = .ok store.tables
  valid : store.Valid admits

/-- A change of rows that the constraints allow. -/
def ChangesRows (before after : MigratedStore) : Prop :=
  after.tables = before.tables ∧ after.Valid admits

/-- A database before all migrations. -/
def emptyStore : MigratedStore where
  tables := []
  rows := fun _ => []

theorem emptyStore_valid : emptyStore.Valid admits := ⟨nofun, fun _ _ => rfl⟩

/-- The tables of `ad02ee5908dd`. -/
def initialTables : Schema ColumnType ServerDefault SqlValue := editAll InitialSchema.upgrade []

-----------------------------------------------------------------------------------------
-- The schemas
-----------------------------------------------------------------------------------------

theorem initialSchema_passes : passesAll InitialSchema.upgrade [] = true := by decide

theorem upgrade_passes : passesAll HumanAuthRbac.upgrade initialTables = true := by
  decide

theorem downgrade_passes
    : passesAll HumanAuthRbac.downgrade (editAll HumanAuthRbac.upgrade initialTables) = true := by
  decide

/-- A table cannot be dropped before those that refer to it. -/
example
    : (Operation.dropTable "users").alter (editAll HumanAuthRbac.upgrade initialTables)
      = .error (.dependentObjects "users") := by
  decide

/-- The downgrade leaves nothing in the schema of what the upgrade made. -/
theorem downgrade_tables
    : editAll HumanAuthRbac.downgrade (editAll HumanAuthRbac.upgrade initialTables)
      = initialTables := by
  decide

theorem initialTables_names
    : initialTables.tableNames = ["orgs", "drones", "drone_api_keys"] := by
  decide

/-- The one schema of `ad02ee5908dd`. -/
theorem atRevision_initial_iff {store : MigratedStore}
    : AtRevision InitialSchema.upgrade store
      ↔ store.tables = initialTables ∧ store.Valid admits := by
  constructor
  · exact fun ⟨schema, valid⟩ => ⟨(alterAll_ok_iff.mp schema).2, valid⟩
  · exact fun ⟨tables, valid⟩ =>
      ⟨alterAll_ok_iff.mpr ⟨initialSchema_passes, tables⟩, valid⟩

-----------------------------------------------------------------------------------------
-- The upgrade
-----------------------------------------------------------------------------------------

section Upgrade

variable {now : Instant} {store : MigratedStore}

/-- The parents of orgs can be added, since no org has one yet. -/
theorem addParentOrgId_succeeds (valid : store.Valid admits)
    (passes : passesAll HumanAuthRbac.addParentOrgId store.tables = true)
    : Succeeds (evaluate now) admits HumanAuthRbac.addParentOrgId store := by
  obtain ⟨passesColumn, passes⟩ := Bool.and_eq_true_iff.mp passes
  obtain ⟨passesKey, passesIndex⟩ := Bool.and_eq_true_iff.mp passes
  have column
      : Succeeds (evaluate now) admits [.addColumn "orgs" (optional "parent_org_id" .uuid)]
          store :=
    .unobstructed valid rfl (Bool.and_eq_true_iff.mpr ⟨passesColumn, rfl⟩)
  have validColumn := column.valid valid
  have fresh : store.tables.hasColumns "orgs" ["parent_org_id"] = false := by
    simpa [optional] using Operation.passes_check passesColumn (.tail _ (.head _))
  have key
      : Succeeds (evaluate now) admits
          [createForeignKey "fk_orgs_parent_org_id" "orgs" "orgs" ["parent_org_id"] ["id"]
            .restrict]
          (resultAll (evaluate now) [.addColumn "orgs" (optional "parent_org_id" .uuid)]
            store) := by
    refine .single passesKey (Store.Meets.addConstraint validColumn.meets ?_)
    intro key member present
    obtain ⟨row, stored, rfl⟩ := List.mem_map.mp member
    obtain ⟨old, storedOld, rfl⟩ := List.mem_map.mp stored
    have unset : valueOf (old ++ [("parent_org_id", none)]) "parent_org_id" = none := by
      rw [valueOf_append_null, valueOf_absent (valid.fresh fresh old storedOld)]
    refine absurd ?_ present
    show keyOf ["parent_org_id"] (old ++ [("parent_org_id", none)]) = none
    simp [keyOf, unset]
  exact column.append (key.append (.unobstructed (key.valid validColumn) rfl passesIndex))

/-- The table `roles`, as `createRoles` makes it. -/
def rolesTable : Table ColumnType ServerDefault SqlValue where
  name := "roles"
  columns := HumanAuthRbac.rolesColumns
  constraints := [⟨"roles_pkey", .primaryKey ["id"]⟩, ⟨"uq_roles_name", .unique ["name"]⟩]
  indexes := []

/-- The rows of the roles. -/
def roleRows (now : Instant) : List (Row SqlValue) :=
  HumanAuthRbac.roleSeeds.map (fillRow (evaluate now) rolesTable.columns)

/-- The types of defaults do not change with time. -/
theorem admits_evaluate (type : ColumnType) (serverDefault : ServerDefault) (later : Instant)
    : admits type (evaluate now serverDefault) = admits type (evaluate later serverDefault) := by
  cases serverDefault <;> cases type <;> rfl

/-- The table of roles allows their rows. -/
theorem roleRows_meet (now : Instant)
    : rolesTable.Meets admits (fun _ => roleRows now) := by
  have checked : rolesTable.meets admits (fun _ => roleRows 0) = true := by decide +kernel
  have given
      : rolesTable.constraints.all (fun constraint =>
          constraint.rule.reference.isNone
          && HumanAuthRbac.roleSeeds.all (fun row =>
              constraint.rule.columns.all (fun column => (row.lookup column).isSome)))
        = true := by
    decide
  refine Table.Meets.refilled ((Table.meets_iff admits).mp checked)
    (fun type serverDefault => admits_evaluate type serverDefault 0) ?_
  simpa [List.all_eq_true] using given

/-- A row of `roles` as the authorization code reads it. -/
def readRole (row : Row SqlValue) : Option Role :=
  match valueOf row "id", valueOf row "name", valueOf row "is_platform_role" with
  | some (.integer id), some (.text name), some (.boolean isPlatformRole) =>
      some { id, name, isPlatformRole }
  | _, _, _ => none

/-- The roles of the upgrade are those that the models start from. -/
theorem roleRows_migrated (now : Instant)
    : (roleRows now).map readRole = migratedRoles.map some := by
  rfl

/-- The roles can be inserted into their new table. -/
theorem seedRoles_succeeds (valid : store.Valid admits)
    (roles : store.tables.filter (fun table => table.name = "roles") = [rolesTable])
    (empty : store.rows "roles" = [])
    (passes
      : (Operation.bulkInsert "roles" HumanAuthRbac.roleSeeds).passes store.tables = true)
    : Succeeds (evaluate now) admits [.bulkInsert "roles" HumanAuthRbac.roleSeeds] store := by
  have found : findBy Table.name "roles" store.tables = some rolesTable := by
    rw [findBy, ← List.head?_filter, roles]
    rfl
  refine .single passes ?_
  rw [Operation.result, Operation.rewrite, found]
  refine Store.Meets.bulkInsert valid.meets fun table stored named => ?_
  have member : table ∈ store.tables.filter (fun table => table.name = "roles") :=
    List.mem_filter.mpr ⟨stored, decide_eq_true named⟩
  rw [roles] at member
  obtain rfl := List.mem_singleton.mp member
  refine (roleRows_meet now).untouched ?_ ?_
  · show Function.update _ "roles" _ "roles" = _
    rw [Function.update_self, empty]
    rfl
  · intro constraint demanded referent referred refers
    rcases List.mem_pair.mp demanded with rfl | rfl
    · cases refers
    · cases refers

/-- The upgrade succeeds on every database of the revision before it. -/
theorem upgrade_succeeds (now : Instant) (tables : store.tables = initialTables)
    (valid : store.Valid admits)
    : Succeeds (evaluate now) admits HumanAuthRbac.upgrade store := by
  have passes := upgrade_passes
  have parts
      : HumanAuthRbac.upgrade
        = HumanAuthRbac.addParentOrgId
          ++ ((HumanAuthRbac.createUsers ++ HumanAuthRbac.createRoles)
            ++ ([.bulkInsert "roles" HumanAuthRbac.roleSeeds]
              ++ (HumanAuthRbac.createUserRoles ++ HumanAuthRbac.createSessions
                ++ HumanAuthRbac.createAuditLog))) :=
    rfl
  rw [← tables, parts] at passes
  obtain ⟨passesParents, passes⟩ := passesAll_parts (evaluate now) passes
  obtain ⟨passesTables, passes⟩ := passesAll_parts (evaluate now) passes
  obtain ⟨passesRoles, passesRest⟩ := passesAll_parts (evaluate now) passes
  have parents : Succeeds (evaluate now) admits HumanAuthRbac.addParentOrgId store :=
    addParentOrgId_succeeds valid passesParents
  have validParents := parents.valid valid
  have created
      : Succeeds (evaluate now) admits (HumanAuthRbac.createUsers ++ HumanAuthRbac.createRoles)
          (resultAll (evaluate now) HumanAuthRbac.addParentOrgId store) :=
    .unobstructed validParents rfl passesTables
  have validCreated := created.valid validParents
  have seeded
      : Succeeds (evaluate now) admits [.bulkInsert "roles" HumanAuthRbac.roleSeeds]
          (resultAll (evaluate now) (HumanAuthRbac.createUsers ++ HumanAuthRbac.createRoles)
            (resultAll (evaluate now) HumanAuthRbac.addParentOrgId store)) := by
    refine seedRoles_succeeds validCreated ?_ ?_ (Bool.and_eq_true_iff.mp passesRoles).1
    · rw [resultAll_tables, resultAll_tables, tables]
      decide
    · have missing : "roles" ∉ store.tables.tableNames := by
        rw [tables, initialTables_names]
        decide
      exact valid.absent "roles" missing
  exact parents.append
    (created.append (seeded.append (.unobstructed (seeded.valid validCreated) rfl passesRest)))

end Upgrade

-----------------------------------------------------------------------------------------
-- The downgrade
-----------------------------------------------------------------------------------------

section Downgrade

variable {now : Instant} {store current : MigratedStore}

/-- What the downgrade leaves of the rows. -/
def rolledBack (rows : Rows SqlValue) : Rows SqlValue := fun name =>
  if name = "orgs" then
    (rows "orgs").map (eraseColumn "parent_org_id")
  else if name = "drones" ∨ name = "drone_api_keys" then
    rows name
  else
    []

/-- No rows can stand in the way of the downgrade. -/
theorem downgrade_succeeds (now : Instant)
    (tables : current.tables = editAll HumanAuthRbac.upgrade initialTables)
    (valid : current.Valid admits)
    : Succeeds (evaluate now) admits HumanAuthRbac.downgrade current := by
  refine .unobstructed valid rfl ?_
  rw [tables]
  exact downgrade_passes

/-- The downgrade leads back to the tables of the revision before. -/
theorem downgrade_result_tables (now : Instant)
    (tables : current.tables = editAll HumanAuthRbac.upgrade initialTables)
    : (resultAll (evaluate now) HumanAuthRbac.downgrade current).tables = initialTables := by
  rw [resultAll_tables, tables]
  exact downgrade_tables

/-- The rows after the downgrade, where no table but those of the revision has any. -/
theorem downgrade_rows (now : Instant)
    (tables : current.tables = editAll HumanAuthRbac.upgrade initialTables)
    (valid : current.Valid admits)
    : (resultAll (evaluate now) HumanAuthRbac.downgrade current).rows
      = rolledBack current.rows := by
  have after := (downgrade_succeeds now tables valid).valid valid
  funext name
  unfold rolledBack
  split
  · rename_i orgs
    subst orgs
    rfl
  split
  · rename_i kept
    rcases kept with rfl | rfl
    · rfl
    · rfl
  · rename_i others kept
    refine after.absent name ?_
    rw [downgrade_result_tables now tables, initialTables_names]
    simpa [others] using kept

/-- Changes of rows leave the schema, and rows that it allows. -/
theorem changed_valid (valid : store.Valid admits)
    (changes : Relation.ReflTransGen ChangesRows store current)
    : current.tables = store.tables ∧ current.Valid admits := by
  induction changes with
  | refl => exact ⟨rfl, valid⟩
  | tail _ change ih => exact ⟨change.1.trans ih.1, change.2⟩

/-- The upgrade gives every org a parent column that is NULL, and the downgrade takes it away. -/
theorem rolledBack_upgraded (tables : store.tables = initialTables) (valid : store.Valid admits)
    : rolledBack (resultAll (evaluate now) HumanAuthRbac.upgrade store).rows = store.rows := by
  have fresh : store.tables.hasColumns "orgs" ["parent_org_id"] = false := by
    rw [tables]
    decide
  funext name
  unfold rolledBack
  split
  · rename_i orgs
    subst orgs
    have appended
        : (resultAll (evaluate now) HumanAuthRbac.upgrade store).rows "orgs"
          = (store.rows "orgs").map (fun row => row ++ [("parent_org_id", none)]) :=
      rfl
    rw [appended, List.map_map]
    refine (List.map_congr_left fun row stored => ?_).trans (List.map_id _)
    exact eraseColumn_append (valid.fresh fresh row stored) none
  split
  · rename_i kept
    rcases kept with rfl | rfl <;> rfl
  · rename_i others kept
    refine (valid.absent name ?_).symm
    rw [tables, initialTables_names]
    simpa [others] using kept

end Downgrade

/-- The migration can be undone. On every database of the revision before it, the upgrade
succeeds. Whatever changes of rows its constraints allow come next, every step of the downgrade
succeeds; it leaves the tables, columns, indexes and constraints of the revision before, with the
orgs as they are but for `parent_org_id`, the drones and the keys as they are, and nothing else.
Without changes it leaves the database that was upgraded.
-/
theorem humanAuthRbac_rollback (now : Instant) (store : MigratedStore)
    (before : AtRevision InitialSchema.upgrade store)
    : ∃ upgraded,
        applyAll (evaluate now) admits HumanAuthRbac.upgrade store = .ok upgraded
        ∧ AtRevision (InitialSchema.upgrade ++ HumanAuthRbac.upgrade) upgraded
        ∧ (∀ later current,
            Relation.ReflTransGen ChangesRows upgraded current
            → ∃ after,
                applyAll (evaluate later) admits HumanAuthRbac.downgrade current = .ok after
                ∧ AtRevision InitialSchema.upgrade after
                ∧ after.tables = store.tables
                ∧ after.rows = rolledBack current.rows)
        ∧ ∀ later,
            applyAll (evaluate later) admits HumanAuthRbac.downgrade upgraded = .ok store := by
  obtain ⟨tables, valid⟩ := atRevision_initial_iff.mp before
  have upgrade := upgrade_succeeds now tables valid
  have validUpgraded := upgrade.valid valid
  have tablesUpgraded
      : (resultAll (evaluate now) HumanAuthRbac.upgrade store).tables
        = editAll HumanAuthRbac.upgrade initialTables := by
    rw [resultAll_tables, tables]
  refine ⟨_, upgrade, ⟨?_, validUpgraded⟩, ?_, ?_⟩
  · refine alterAll_ok_iff.mpr ⟨?_, ?_⟩
    · rw [passesAll_append]
      exact Bool.and_eq_true_iff.mpr ⟨initialSchema_passes, upgrade_passes⟩
    · rw [tablesUpgraded, editAll, editAll, List.foldl_append]
      rfl
  · intro later current changes
    obtain ⟨sameTables, validCurrent⟩ := changed_valid validUpgraded changes
    have tablesCurrent := sameTables.trans tablesUpgraded
    have downgrade := downgrade_succeeds later tablesCurrent validCurrent
    have tablesAfter := downgrade_result_tables later tablesCurrent
    exact ⟨_, downgrade,
      atRevision_initial_iff.mpr ⟨tablesAfter, downgrade.valid validCurrent⟩,
      tablesAfter.trans tables.symm, downgrade_rows later tablesCurrent validCurrent⟩
  · intro later
    rw [downgrade_succeeds later tablesUpgraded validUpgraded]
    have tablesAfter := downgrade_result_tables later tablesUpgraded
    have rowsAfter := downgrade_rows later tablesUpgraded validUpgraded
    rw [rolledBack_upgraded tables valid] at rowsAfter
    exact congrArg Except.ok (Store.ext (tablesAfter.trans tables.symm) rowsAfter)

-----------------------------------------------------------------------------------------
-- A database with tenants
-----------------------------------------------------------------------------------------

/-- An org with a drone that has a key. -/
def sampleFleet : List MigrationStep :=
  [
    .bulkInsert "orgs"
      [[("id", .uuid 1), ("name", .text "Specter"), ("slug", .text "specter")]],
    .bulkInsert "drones"
      [
        [
          ("id", .uuid 2), ("name", .text "Scout"), ("slug", .text "scout"),
          ("org_id", .uuid 1)
        ]
      ],
    .bulkInsert "drone_api_keys"
      [
        [
          ("id", .uuid 3), ("drone_id", .uuid 2), ("prefix", .text "0a1b2c3d"),
          ("hashed_key", .text "faa892e5"), ("label", .text "initial")
        ]
      ]
  ]

/-- An org under the first one, with an admin who has a session and was denied something. -/
def sampleTenant : List MigrationStep :=
  [
    .bulkInsert "orgs"
      [
        [
          ("id", .uuid 4), ("name", .text "Tenant"), ("slug", .text "tenant"),
          ("parent_org_id", .uuid 1)
        ]
      ],
    .bulkInsert "users"
      [
        [
          ("id", .uuid 5), ("email", .text "ada@tenant.test"), ("password_hash", .text "hash"),
          ("name", .text "Ada"), ("org_id", .uuid 4)
        ]
      ],
    .bulkInsert "user_roles"
      [[("user_id", .uuid 5), ("org_id", .uuid 4), ("role_id", .integer 6)]],
    .bulkInsert "sessions"
      [
        [
          ("id", .uuid 7), ("user_id", .uuid 5), ("token_hash", .text "digest"),
          ("transport", .text "cookie"), ("expires_at", .dateTime 9)
        ]
      ],
    .bulkInsert "audit_log"
      [
        [
          ("id", .integer 1), ("user_id", .uuid 5), ("action", .text "org.read"),
          ("target_org_id", .uuid 1), ("decision", .text "deny")
        ]
      ]
  ]

/-- The database of the fleet at `ad02ee5908dd`. -/
def sampleStore : MigratedStore :=
  resultAll (evaluate 0) (InitialSchema.upgrade ++ sampleFleet) emptyStore

/-- The database after the upgrade and the rows of the tenant. -/
def sampleTenantStore : MigratedStore :=
  resultAll (evaluate 1) sampleTenant
    (resultAll (evaluate 1) HumanAuthRbac.upgrade sampleStore)

/-- A tenant under the first org is rolled back to an org without a parent. -/
theorem sampleTenantStore_rolledBack
    : ∃ upgraded after,
        applyAll (evaluate 1) admits HumanAuthRbac.upgrade sampleStore = .ok upgraded
        ∧ Relation.ReflTransGen ChangesRows upgraded sampleTenantStore
        ∧ applyAll (evaluate 2) admits HumanAuthRbac.downgrade sampleTenantStore = .ok after
        ∧ (after.rows "orgs").map (fun row => valueOf row "slug")
          = [some (.text "specter"), some (.text "tenant")]
        ∧ after.rows "drone_api_keys" = sampleStore.rows "drone_api_keys"
        ∧ after.rows "audit_log" = [] := by
  have fleet
      : Succeeds (evaluate 0) admits (InitialSchema.upgrade ++ sampleFleet) emptyStore :=
    .of_isOk (by decide)
  have before : AtRevision InitialSchema.upgrade sampleStore :=
    atRevision_initial_iff.mpr ⟨resultAll_tables, fleet.valid emptyStore_valid⟩
  obtain ⟨upgraded, applied, revision, undone, _⟩ := humanAuthRbac_rollback 1 sampleStore before
  obtain rfl := applyAll_ok_result applied
  have tenant
      : Succeeds (evaluate 1) admits sampleTenant
          (resultAll (evaluate 1) HumanAuthRbac.upgrade sampleStore) :=
    .of_isOk (by decide +kernel)
  have kept : ∀ schema, editAll sampleTenant schema = schema := fun _ => rfl
  have changes
      : Relation.ReflTransGen ChangesRows
          (resultAll (evaluate 1) HumanAuthRbac.upgrade sampleStore) sampleTenantStore :=
    .single ⟨resultAll_tables.trans (kept _), tenant.valid revision.valid⟩
  obtain ⟨after, downgraded, _, _, rows⟩ := undone 2 sampleTenantStore changes
  refine ⟨_, after, applied, changes, downgraded, ?_, ?_, ?_⟩
  · rw [rows]
    decide
  · rw [rows]
    decide
  · rw [rows]
    rfl

-----------------------------------------------------------------------------------------
-- The first revision
-----------------------------------------------------------------------------------------

/-- The first revision can be undone as well, which leaves nothing. -/
theorem initialSchema_rollback (now : Instant) (store : MigratedStore)
    (before : AtRevision InitialSchema.upgrade store)
    : applyAll (evaluate now) admits InitialSchema.downgrade store = .ok emptyStore := by
  obtain ⟨tables, valid⟩ := atRevision_initial_iff.mp before
  have passes : passesAll InitialSchema.downgrade store.tables = true := by
    rw [tables]
    decide
  have downgrade : Succeeds (evaluate now) admits InitialSchema.downgrade store :=
    .unobstructed valid rfl passes
  have dropped
      : (resultAll (evaluate now) InitialSchema.downgrade store).tables = emptyStore.tables := by
    rw [resultAll_tables, tables]
    decide
  have empty
      : (resultAll (evaluate now) InitialSchema.downgrade store).rows = emptyStore.rows := by
    funext name
    refine (downgrade.valid valid).absent name ?_
    rw [dropped]
    nofun
  rw [downgrade]
  exact congrArg Except.ok (Store.ext dropped empty)

end SpecterCloud.Migrations
