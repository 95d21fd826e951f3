import SpecterCloud.Foundations.SchemaAgreement
import SpecterCloud.Migrations.Environment

/-! `Base.metadata`, the target of the migrations: the tables that the classes of `app/models`
declare. A migrated database and one that is created from the classes hold the same rows.
-/

namespace SpecterCloud.Migrations

open SpecterCloud.Foundations.Relational
open SpecterCloud.Models

-----------------------------------------------------------------------------------------
-- The classes
-----------------------------------------------------------------------------------------

/-- `index=True` of a column. -/
def columnIndex (table column : String) : MigrationStep :=
  createIndex ("ix_" ++ table ++ "_" ++ column) table [column] none

/-- `Org`. -/
def orgModel : List MigrationStep :=
  [
    .createTable "orgs"
      [
        required "id" .uuid,
        required "name" (.string 120),
        required "slug" (.string 60),
        optional "parent_org_id" .uuid,
        defaulted "created_at" .dateTime .now,
        defaulted "updated_at" .dateTime .now,
        defaulted "is_active" .boolean (.boolean true)
      ]
      [
        primaryKeyConstraint ["id"],
        uniqueConstraint ["slug"] none,
        foreignKeyConstraint "parent_org_id" "orgs" "id" .restrict
      ],
    columnIndex "orgs" "parent_org_id"
  ]

/-- `Drone`. -/
def droneModel : List MigrationStep :=
  [
    .createTable "drones"
      [
        required "id" .uuid,
        required "name" (.string 80),
        required "slug" (.string 60),
        required "org_id" .uuid,
        defaulted "created_at" .dateTime .now,
        defaulted "updated_at" .dateTime .now,
        defaulted "is_active" .boolean (.boolean true)
      ]
      [
        primaryKeyConstraint ["id"],
        uniqueConstraint ["org_id", "slug"] (some "uq_drone_org_slug"),
        foreignKeyConstraint "org_id" "orgs" "id" .noAction
      ],
    columnIndex "drones" "org_id"
  ]

/-- `DroneApiKey`. -/
def droneApiKeyModel : List MigrationStep :=
  [
    .createTable "drone_api_keys"
      [
        required "id" .uuid,
        required "drone_id" .uuid,
        required "prefix" (.string 16),
        required "hashed_key" (.string 64),
        required "label" (.string 80),
        defaulted "created_at" .dateTime .now,
        optional "last_used_at" .dateTime,
        optional "revoked_at" .dateTime
      ]
      [
        primaryKeyConstraint ["id"],
        foreignKeyConstraint "drone_id" "drones" "id" .cascade
      ],
    columnIndex "drone_api_keys" "drone_id",
    columnIndex "drone_api_keys" "prefix"
  ]

/-- `User`. -/
def userModel : List MigrationStep :=
  [
    .createTable "users"
      [
        required "id" .uuid,
        required "email" (.string 254),
        required "password_hash" (.string 128),
        required "name" (.string 120),
        required "org_id" .uuid,
        defaulted "is_active" .boolean (.boolean true),
        optional "last_login_at" .dateTime,
        optional "email_verified_at" .dateTime,
        defaulted "failed_login_count" .integer (.integer 0),
        optional "locked_until" .dateTime,
        defaulted "created_at" .dateTime .now,
        defaulted "updated_at" .dateTime .now
      ]
      [
        primaryKeyConstraint ["id"],
        uniqueConstraint ["email"] none,
        foreignKeyConstraint "org_id" "orgs" "id" .restrict
      ],
    columnIndex "users" "org_id"
  ]

/-- `Role`. -/
def roleModel : List MigrationStep :=
  [
    .createTable "roles"
      [
        autoincrement "id" .smallInteger,
        required "name" (.string 40),
        required "description" .text,
        defaulted "is_platform_role" .boolean (.boolean false),
        defaulted "created_at" .dateTime .now
      ]
      [primaryKeyConstraint ["id"], uniqueConstraint ["name"] none]
  ]

/-- `UserRole`. -/
def userRoleModel : List MigrationStep :=
  [
    .createTable "user_roles"
      [
        required "user_id" .uuid,
        required "org_id" .uuid,
        required "role_id" .smallInteger,
        optional "granted_by" .uuid,
        defaulted "granted_at" .dateTime .now,
        optional "revoked_by" .uuid,
        optional "revoked_at" .dateTime,
        optional "revoked_reason" .text
      ]
      [
        primaryKeyConstraint ["user_id", "org_id", "role_id"],
        foreignKeyConstraint "user_id" "users" "id" .cascade,
        foreignKeyConstraint "org_id" "orgs" "id" .cascade,
        foreignKeyConstraint "role_id" "roles" "id" .restrict,
        foreignKeyConstraint "granted_by" "users" "id" .setNull,
        foreignKeyConstraint "revoked_by" "users" "id" .setNull
      ]
  ]

/-- `Session`. -/
def sessionModel : List MigrationStep :=
  [
    .createTable "sessions"
      [
        required "id" .uuid,
        required "user_id" .uuid,
        required "token_hash" (.string 64),
        required "transport" (.string 16),
        optional "user_agent" (.string 500),
        optional "ip_address" .inet,
        defaulted "created_at" .dateTime .now,
        required "expires_at" .dateTime,
        defaulted "last_seen_at" .dateTime .now,
        optional "revoked_at" .dateTime,
        optional "revoked_reason" (.string 40)
      ]
      [
        primaryKeyConstraint ["id"],
        uniqueConstraint ["token_hash"] none,
        foreignKeyConstraint "user_id" "users" "id" .cascade
      ],
    columnIndex "sessions" "user_id"
  ]

/-- `AuditLog`. The column of `extra` is `metadata`. -/
def auditLogModel : List MigrationStep :=
  [
    .createTable "audit_log"
      [
        autoincrement "id" .bigInteger,
        optional "user_id" .uuid,
        optional "request_id" .uuid,
        required "action" (.string 60),
        optional "permission" (.string 60),
        optional "resource_type" (.string 40),
        optional "resource_id" (.string 64),
        optional "target_org_id" .uuid,
        optional "matched_role_id" .smallInteger,
        optional "matched_org_id" .uuid,
        required "decision" (.string 10),
        optional "reason" .text,
        optional "ip_address" .inet,
        optional "user_agent" (.string 500),
        optional "metadata" .jsonb,
        defaulted "created_at" .dateTime .now
      ]
      [
        primaryKeyConstraint ["id"],
        foreignKeyConstraint "user_id" "users" "id" .setNull,
        foreignKeyConstraint "target_org_id" "orgs" "id" .setNull,
        foreignKeyConstraint "matched_role_id" "roles" "id" .setNull,
        foreignKeyConstraint "matched_org_id" "orgs" "id" .setNull
      ]
  ]

/-- `Base.metadata`, each table after those that it refers to. -/
def baseMetadata : List MigrationStep :=
  orgModel ++ droneModel ++ droneApiKeyModel ++ userModel ++ roleModel ++ userRoleModel
    ++ sessionModel ++ auditLogModel

abbrev MigratedSchema := Schema ColumnType ServerDefault SqlValue

/-- The tables of the classes. -/
def modelTables : MigratedSchema := editAll baseMetadata []

/-- The tables that the migrations lead to. -/
def migratedTables : MigratedSchema := editAll HumanAuthRbac.upgrade initialTables

-----------------------------------------------------------------------------------------
-- Agreement
-----------------------------------------------------------------------------------------

theorem baseMetadata_passes : passesAll baseMetadata [] = true := by decide

/-- The tables differ in the order of columns, in names of constraints and in indexes alone. -/
theorem migratedTables_agree : migratedTables.Agrees modelTables := by decide

end SpecterCloud.Migrations
