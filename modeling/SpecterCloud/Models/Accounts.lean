import SpecterCloud.Models.Database

/-! The INSERTs of orgs, users and grants: column limits first, then keys, then references. -/

namespace SpecterCloud.Models

open SpecterCloud.Foundations

/-- The lengths and text that the columns of `orgs` accept. -/
structure Org.Fits (row : Org) : Prop where
  name : FitsString 120 row.name
  slug : FitsString 60 row.slug

/-- The lengths and text that the columns of `users` accept. -/
structure User.Fits (row : User) : Prop where
  email : FitsString 254 row.email
  passwordHash : FitsString 128 row.passwordHash
  name : FitsString 120 row.name

instance Org.decidableFits (row : Org) : Decidable row.Fits :=
  decidable_of_iff (FitsString 120 row.name ∧ FitsString 60 row.slug)
    ⟨fun ⟨a, b⟩ => ⟨a, b⟩, fun ⟨a, b⟩ => ⟨a, b⟩⟩

instance User.decidableFits (row : User) : Decidable row.Fits :=
  decidable_of_iff
    (FitsString 254 row.email ∧ FitsString 128 row.passwordHash ∧ FitsString 120 row.name)
    ⟨fun ⟨a, b, c⟩ => ⟨a, b, c⟩, fun ⟨a, b, c⟩ => ⟨a, b, c⟩⟩

namespace Database

-----------------------------------------------------------------------------------------
-- Rows that are accepted
-----------------------------------------------------------------------------------------

/-- The limits and keys that an org without a parent has to meet. -/
structure AcceptsOrg (db : Database) (row : Org) : Prop where
  fits : row.Fits
  freshId : row.id ∉ db.orgs.map Org.id
  freshSlug : row.slug ∉ db.orgs.map Org.slug

/-- The database with one more org. -/
def withOrg (db : Database) (row : Org) (accepted : db.AcceptsOrg row) : Database :=
  { db with
    orgs := db.orgs ++ [row]
    orgIds := nodup_append_fresh db.orgIds accepted.freshId
    orgSlugs := nodup_append_fresh db.orgSlugs accepted.freshSlug
    userOrgs := by
      intro user stored
      rw [List.map_append]
      exact List.mem_append_left _ (db.userOrgs user stored) }

/-- The limits, keys and reference that a user has to meet. -/
structure AcceptsUser (db : Database) (row : User) : Prop where
  fits : row.Fits
  freshId : row.id ∉ db.users.map User.id
  freshEmail : row.email ∉ db.users.map User.email
  orgId : row.orgId ∈ db.orgs.map Org.id

/-- The database with one more user. -/
def withUser (db : Database) (row : User) (accepted : db.AcceptsUser row) : Database :=
  { db with
    users := db.users ++ [row]
    userIds := nodup_append_fresh db.userIds accepted.freshId
    userEmails := nodup_append_fresh db.userEmails accepted.freshEmail
    userOrgs := by
      intro user member
      rcases List.mem_append.mp member with stored | new
      · exact db.userOrgs user stored
      · exact List.mem_singleton.mp new ▸ accepted.orgId
    userEmailsStorable := by
      intro user member
      rcases List.mem_append.mp member with stored | new
      · exact db.userEmailsStorable user stored
      · exact List.mem_singleton.mp new ▸ accepted.fits.email.2 }

/-- The key and references that a grant by nobody has to meet. -/
structure AcceptsUserRole (db : Database) (row : UserRole) : Prop where
  freshKey : row.key ∉ db.userRoles.map UserRole.key
  userId : row.userId ∈ db.users.map User.id
  orgId : row.orgId ∈ db.orgs.map Org.id
  roleId : row.roleId ∈ db.roles.map Role.id

/-- The database with one more grant. -/
def withUserRole (db : Database) (row : UserRole) (accepted : db.AcceptsUserRole row)
    : Database :=
  { db with
    userRoles := db.userRoles ++ [row]
    grantKeys := nodup_append_fresh db.grantKeys accepted.freshKey }

-----------------------------------------------------------------------------------------
-- Statements
-----------------------------------------------------------------------------------------

/-- `INSERT INTO orgs`, of an org without a parent. -/
def insertOrg (row : Org) (db : Database) : Except Raised Database :=
  if fits : ¬ row.Fits then
    .error (.dataError "orgs")
  else if freshId : (db.orgs.map Org.id).contains row.id then
    .error (.integrityError "orgs.id")
  else if freshSlug : (db.orgs.map Org.slug).contains row.slug then
    .error (.integrityError "orgs.slug")
  else
    .ok
      (db.withOrg row
        ⟨not_not.mp fits, mt List.contains_iff_mem.mpr freshId,
          mt List.contains_iff_mem.mpr freshSlug⟩)

/-- `INSERT INTO users`. -/
def insertUser (row : User) (db : Database) : Except Raised Database :=
  if fits : ¬ row.Fits then
    .error (.dataError "users")
  else if freshId : (db.users.map User.id).contains row.id then
    .error (.integrityError "users.id")
  else if freshEmail : (db.users.map User.email).contains row.email then
    .error (.integrityError "users.email")
  else if orgId : ¬ (db.orgs.map Org.id).contains row.orgId then
    .error (.integrityError "users.org_id")
  else
    .ok
      (db.withUser row
        ⟨not_not.mp fits, mt List.contains_iff_mem.mpr freshId,
          mt List.contains_iff_mem.mpr freshEmail,
          List.contains_iff_mem.mp (not_not.mp orgId)⟩)

/-- `INSERT INTO user_roles`, of a grant that no user gave. -/
def insertUserRole (row : UserRole) (db : Database) : Except Raised Database :=
  if freshKey : (db.userRoles.map UserRole.key).contains row.key then
    .error (.integrityError "user_roles")
  else if userId : ¬ (db.users.map User.id).contains row.userId then
    .error (.integrityError "user_roles.user_id")
  else if orgId : ¬ (db.orgs.map Org.id).contains row.orgId then
    .error (.integrityError "user_roles.org_id")
  else if roleId : ¬ (db.roles.map Role.id).contains row.roleId then
    .error (.integrityError "user_roles.role_id")
  else
    .ok
      (db.withUserRole row
        ⟨mt List.contains_iff_mem.mpr freshKey, List.contains_iff_mem.mp (not_not.mp userId),
          List.contains_iff_mem.mp (not_not.mp orgId),
          List.contains_iff_mem.mp (not_not.mp roleId)⟩)

section Facts

variable {db next : Database}

/-- An accepted org is appended. -/
theorem insertOrg_accepted {row : Org} (accepted : db.AcceptsOrg row)
    : db.insertOrg row = .ok (db.withOrg row accepted) := by
  unfold insertOrg
  rw [dif_neg (not_not.mpr accepted.fits),
    dif_neg (mt List.contains_iff_mem.mp accepted.freshId),
    dif_neg (mt List.contains_iff_mem.mp accepted.freshSlug)]

/-- An accepted user is appended. -/
theorem insertUser_accepted {row : User} (accepted : db.AcceptsUser row)
    : db.insertUser row = .ok (db.withUser row accepted) := by
  unfold insertUser
  rw [dif_neg (not_not.mpr accepted.fits),
    dif_neg (mt List.contains_iff_mem.mp accepted.freshId),
    dif_neg (mt List.contains_iff_mem.mp accepted.freshEmail),
    dif_neg (not_not.mpr (List.contains_iff_mem.mpr accepted.orgId))]

/-- An accepted grant is appended. -/
theorem insertUserRole_accepted {row : UserRole} (accepted : db.AcceptsUserRole row)
    : db.insertUserRole row = .ok (db.withUserRole row accepted) := by
  unfold insertUserRole
  rw [dif_neg (mt List.contains_iff_mem.mp accepted.freshKey),
    dif_neg (not_not.mpr (List.contains_iff_mem.mpr accepted.userId)),
    dif_neg (not_not.mpr (List.contains_iff_mem.mpr accepted.orgId)),
    dif_neg (not_not.mpr (List.contains_iff_mem.mpr accepted.roleId))]

/-- An org that is inserted is accepted and appended. -/
theorem insertOrg_ok {row : Org} (ran : db.insertOrg row = .ok next)
    : ∃ accepted, next = db.withOrg row accepted := by
  unfold insertOrg at ran
  split at ran
  · cases ran
  split at ran
  · cases ran
  split at ran
  · cases ran
  · exact ⟨_, (Except.ok.inj ran).symm⟩

/-- A user that is inserted is accepted and appended. -/
theorem insertUser_ok {row : User} (ran : db.insertUser row = .ok next)
    : ∃ accepted, next = db.withUser row accepted := by
  unfold insertUser at ran
  split at ran
  · cases ran
  split at ran
  · cases ran
  split at ran
  · cases ran
  split at ran
  · cases ran
  · exact ⟨_, (Except.ok.inj ran).symm⟩

/-- A grant that is inserted is accepted and appended. -/
theorem insertUserRole_ok {row : UserRole} (ran : db.insertUserRole row = .ok next)
    : ∃ accepted, next = db.withUserRole row accepted := by
  unfold insertUserRole at ran
  split at ran
  · cases ran
  split at ran
  · cases ran
  split at ran
  · cases ran
  split at ran
  · cases ran
  · exact ⟨_, (Except.ok.inj ran).symm⟩

end Facts

end Database

-----------------------------------------------------------------------------------------
-- The migrations
-----------------------------------------------------------------------------------------

/-- The rows that the migrations insert into `roles`. -/
def migratedRoles : List Role :=
  [
    { id := 1, name := "viewer", isPlatformRole := false },
    { id := 2, name := "operator", isPlatformRole := false },
    { id := 3, name := "planner", isPlatformRole := false },
    { id := 4, name := "technician", isPlatformRole := false },
    { id := 5, name := "developer", isPlatformRole := true },
    { id := 6, name := "admin", isPlatformRole := false }
  ]

theorem migratedRoles_ids : (migratedRoles.map Role.id).Nodup := by decide

theorem migratedRoles_names : (migratedRoles.map Role.name).Nodup := by decide

theorem migratedRoles_storable : ∀ role ∈ migratedRoles, Storable role.name := by decide

/-- The database as the migrations leave it. -/
def migratedDatabase : Database :=
  { Database.empty with
    roles := migratedRoles
    roleIds := migratedRoles_ids
    roleNames := migratedRoles_names
    roleNamesStorable := migratedRoles_storable }

end SpecterCloud.Models
