import SpecterCloud.Migrations.Operations

/-! The two revisions of the database: `ad02ee5908dd`, and `c4a72f3b8d91` which revises it. -/

namespace SpecterCloud.Migrations

open SpecterCloud.Foundations.Relational

-----------------------------------------------------------------------------------------
-- Initial schema with auth, `ad02ee5908dd`
-----------------------------------------------------------------------------------------

namespace InitialSchema

/-- `upgrade`. -/
def upgrade : List MigrationStep :=
  [
    .createTable "orgs"
      [
        required "id" .uuid,
        required "name" (.string 120),
        required "slug" (.string 60),
        defaulted "created_at" .dateTime .now,
        defaulted "updated_at" .dateTime .now,
        defaulted "is_active" .boolean (.boolean true)
      ]
      [primaryKeyConstraint ["id"], uniqueConstraint ["slug"] none],
    .createTable "drones"
      [
        required "id" .uuid,
        required "name" (.string 80),
        required "slug" (.string 60),
        required "org_id" .uuid,
        defaulted "created_at" .dateTime .now,
        defaulted "updated_at" .dateTime .now,
        defaulted "is_active" .boolean (.boolean true)
      ]
      [
        foreignKeyConstraint "org_id" "orgs" "id" .noAction,
        primaryKeyConstraint ["id"],
        uniqueConstraint ["org_id", "slug"] (some "uq_drone_org_slug")
      ],
    createIndex "ix_drones_org_id" "drones" ["org_id"] none,
    .createTable "drone_api_keys"
      [
        required "id" .uuid,
        required "drone_id" .uuid,
        required "prefix" (.string 16),
        required "hashed_key" (.string 64),
        required "label" (.string 80),
        defaulted "created_at" .dateTime .now,
        optional "last_used_at" .dateTime,
        optional "revoked_at" .dateTime
      ]
      [
        foreignKeyConstraint "drone_id" "drones" "id" .cascade,
        primaryKeyConstraint ["id"]
      ],
    createIndex "ix_drone_api_keys_drone_id" "drone_api_keys" ["drone_id"] none,
    createIndex "ix_drone_api_keys_prefix" "drone_api_keys" ["prefix"] none
  ]

/-- `downgrade`. -/
def downgrade : List MigrationStep :=
  [
    dropIndex "ix_drone_api_keys_prefix" "drone_api_keys",
    dropIndex "ix_drone_api_keys_drone_id" "drone_api_keys",
    .dropTable "drone_api_keys",
    dropIndex "ix_drones_org_id" "drones",
    .dropTable "drones",
    .dropTable "orgs"
  ]

end InitialSchema

-----------------------------------------------------------------------------------------
-- Human auth and RBAC, `c4a72f3b8d91`
-----------------------------------------------------------------------------------------

namespace HumanAuthRbac

/-- The parents of orgs. -/
def addParentOrgId : List MigrationStep :=
  [
    .addColumn "orgs" (optional "parent_org_id" .uuid),
    createForeignKey "fk_orgs_parent_org_id" "orgs" "orgs" ["parent_org_id"] ["id"] .restrict,
    createIndex "ix_orgs_parent_org_id" "orgs" ["parent_org_id"] none
  ]

def createUsers : List MigrationStep :=
  [
    .createTable "users"
      [
        required "id" .uuid,
        required "email" (.string 254),
        required "password_hash" (.string 128),
        required "name" (.string 120),
        required "org_id" .uuid,
        defaulted "is_active" .boolean (.boolean true),
        optional "last_login_at" .dateTime,
        optional "email_verified_at" .dateTime,
        defaulted "failed_login_count" .integer (.integer 0),
        optional "locked_until" .dateTime,
        defaulted "created_at" .dateTime .now,
        defaulted "updated_at" .dateTime .now
      ]
      [
        foreignKeyConstraint "org_id" "orgs" "id" .restrict,
        primaryKeyConstraint ["id"],
        uniqueConstraint ["email"] (some "uq_users_email")
      ],
    createIndex "ix_users_org_id" "users" ["org_id"] none
  ]

def rolesColumns : List MigrationColumn :=
  [
    autoincrement "id" .smallInteger,
    required "name" (.string 40),
    required "description" .text,
    defaulted "is_platform_role" .boolean (.boolean false),
    defaulted "created_at" .dateTime .now
  ]

def createRoles : List MigrationStep :=
  [
    .createTable "roles" rolesColumns
      [primaryKeyConstraint ["id"], uniqueConstraint ["name"] (some "uq_roles_name")]
  ]

/-- A row of the seed of `roles`. -/
def roleSeed (id : Int) (name description : String) (isPlatformRole : Bool)
    : List (String × SqlValue) :=
  [
    ("id", .integer id),
    ("name", .text name),
    ("description", .text description),
    ("is_platform_role", .boolean isPlatformRole)
  ]

/-- The six roles, whose ids are the same in all environments. -/
def roleSeeds : List (List (String × SqlValue)) :=
  [
    roleSeed 1 "viewer" "Read-only access to drones, telemetry, video, missions." false,
    roleSeed 2 "operator" "Fly drones, design and execute missions." false,
    roleSeed 3 "planner"
      "Design missions; GCS-side persona, no cloud permissions in v1." false,
    roleSeed 4 "technician"
      ("Hardware setup, calibration, firmware, log analysis; GCS-side persona, "
        ++ "no cloud permissions in v1.")
      false,
    roleSeed 5 "developer"
      ("Specter-internal: advanced drone params, platform tooling, dev diagnostics. "
        ++ "Granted only at Specter root org.")
      true,
    roleSeed 6 "admin"
      ("User management, org settings, audit access. "
        ++ "Scope determined by org tier of grant.")
      false
  ]

def createUserRoles : List MigrationStep :=
  [
    .createTable "user_roles"
      [
        required "user_id" .uuid,
        required "org_id" .uuid,
        required "role_id" .smallInteger,
        optional "granted_by" .uuid,
        defaulted "granted_at" .dateTime .now,
        optional "revoked_by" .uuid,
        optional "revoked_at" .dateTime,
        optional "revoked_reason" .text
      ]
      [
        foreignKeyConstraint "user_id" "users" "id" .cascade,
        foreignKeyConstraint "org_id" "orgs" "id" .cascade,
        foreignKeyConstraint "role_id" "roles" "id" .restrict,
        foreignKeyConstraint "granted_by" "users" "id" .setNull,
        foreignKeyConstraint "revoked_by" "users" "id" .setNull,
        primaryKeyConstraint ["user_id", "org_id", "role_id"]
      ],
    createIndex "ix_user_roles_active" "user_roles" ["user_id", "org_id"]
      (some (.isNull "revoked_at")),
    createIndex "ix_user_roles_org_active" "user_roles" ["org_id"]
      (some (.isNull "revoked_at"))
  ]

def createSessions : List MigrationStep :=
  [
    .createTable "sessions"
      [
        required "id" .uuid,
        required "user_id" .uuid,
        required "token_hash" (.string 64),
        required "transport" (.string 16),
        optional "user_agent" (.string 500),
        optional "ip_address" .inet,
        defaulted "created_at" .dateTime .now,
        required "expires_at" .dateTime,
        defaulted "last_seen_at" .dateTime .now,
        optional "revoked_at" .dateTime,
        optional "revoked_reason" (.string 40)
      ]
      [
        foreignKeyConstraint "user_id" "users" "id" .cascade,
        primaryKeyConstraint ["id"],
        uniqueConstraint ["token_hash"] (some "uq_sessions_token_hash")
      ],
    createIndex "ix_sessions_user_active" "sessions" ["user_id"] (some (.isNull "revoked_at")),
    createIndex "ix_sessions_token_hash" "sessions" ["token_hash"] none
  ]

def createAuditLog : List MigrationStep :=
  [
    .createTable "audit_log"
      [
        autoincrement "id" .bigInteger,
        optional "user_id" .uuid,
        optional "request_id" .uuid,
        required "action" (.string 60),
        optional "permission" (.string 60),
        optional "resource_type" (.string 40),
        optional "resource_id" (.string 64),
        optional "target_org_id" .uuid,
        optional "matched_role_id" .smallInteger,
        optional "matched_org_id" .uuid,
        required "decision" (.string 10),
        optional "reason" .text,
        optional "ip_address" .inet,
        optional "user_agent" (.string 500),
        optional "metadata" .jsonb,
        defaulted "created_at" .dateTime .now
      ]
      [
        foreignKeyConstraint "user_id" "users" "id" .setNull,
        foreignKeyConstraint "target_org_id" "orgs" "id" .setNull,
        foreignKeyConstraint "matched_role_id" "roles" "id" .setNull,
        foreignKeyConstraint "matched_org_id" "orgs" "id" .setNull,
        primaryKeyConstraint ["id"]
      ],
    createIndex "ix_audit_user_time" "audit_log" ["user_id", "created_at"] none,
    createIndex "ix_audit_resource" "audit_log" ["resource_type", "resource_id", "created_at"]
      none,
    createIndex "ix_audit_deny_time" "audit_log" ["created_at"]
      (some (.equals "decision" (.text "deny")))
  ]

/-- `upgrade`. -/
def upgrade : List MigrationStep :=
  addParentOrgId ++ createUsers ++ createRoles ++ [.bulkInsert "roles" roleSeeds]
    ++ createUserRoles ++ createSessions ++ createAuditLog

/-- `downgrade`. -/
def downgrade : List MigrationStep :=
  [
    dropIndex "ix_audit_deny_time" "audit_log",
    dropIndex "ix_audit_resource" "audit_log",
    dropIndex "ix_audit_user_time" "audit_log",
    .dropTable "audit_log",
    dropIndex "ix_sessions_token_hash" "sessions",
    dropIndex "ix_sessions_user_active" "sessions",
    .dropTable "sessions",
    dropIndex "ix_user_roles_org_active" "user_roles",
    dropIndex "ix_user_roles_active" "user_roles",
    .dropTable "user_roles",
    .dropTable "roles",
    dropIndex "ix_users_org_id" "users",
    .dropTable "users",
    dropIndex "ix_orgs_parent_org_id" "orgs",
    dropConstraint "fk_orgs_parent_org_id" "orgs",
    .dropColumn "orgs" "parent_org_id"
  ]

end HumanAuthRbac

end SpecterCloud.Migrations
