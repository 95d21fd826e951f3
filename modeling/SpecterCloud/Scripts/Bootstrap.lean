import SpecterCloud.Foundations.ActionSteps
import SpecterCloud.Models.Accounts
import SpecterCloud.Auth.Login

/-! `bootstrap_specter_org.py`: the root org and its first administrator, as a request and as the
steps of its transaction.
-/

namespace SpecterCloud.Scripts

open SpecterCloud.Foundations
open SpecterCloud.Models
open SpecterCloud.Core
open SpecterCloud.Auth

/-- The random values of a run: the id of the user and the salt of the hash. -/
structure BootstrapDraws where
  userId : UUID
  salt : String

/-- The org that a run adds. -/
def specterOrg (orgId : UUID) : Org :=
  { id := orgId, name := "Specter", slug := "specter", parentOrgId := none }

/-- The user that a run adds; the columns that it does not set have their defaults. -/
def bootstrapUser (draws : BootstrapDraws) (now : Instant) (orgId : UUID)
    (email passwordHash name : String)
    : User :=
  {
    id := draws.userId
    email
    passwordHash
    name
    orgId
    isActive := true
    lastLoginAt := none
    failedLoginCount := 0
    lockedUntil := none
    updatedAt := now
  }

/-- A grant that a run adds. -/
def bootstrapGrant (userId orgId : UUID) (role : Role) : UserRole :=
  { userId, orgId, roleId := role.id, grantedBy := none, revokedAt := none }

/-- `select(Role).where(Role.name == name)`. -/
def roleByName (name : String) (db : Database) : Option Role :=
  findBy Role.name name db.roles

/-- An active grant of the role at the org. -/
def activeGrant (orgId : UUID) (roleId : Int) (db : Database) : Option UserRole :=
  db.userRoles.find?
    (fun grant => grant.orgId = orgId ∧ grant.roleId = roleId ∧ grant.revokedAt = none)

section Program

variable (runtime : Runtime) (isPrintable : Char → Bool) (draws : BootstrapDraws)
  (now : Instant) (orgId : UUID)

/-- The part of `bootstrap` that grants the roles. -/
def grantRoles (userId : UUID) (adminRole : Role) : DbAction Bool := do
  match ← Action.select (fun db => .ok (roleByName "developer" db)) with
  | none => throw (.valueError "'developer' role not found. Migrations may be incomplete.")
  | some developerRole => do
      forM
        (([adminRole, developerRole].map (bootstrapGrant userId orgId)).map
          Database.insertUserRole)
        Action.add
      Action.commit
      return true

/-- The part of `bootstrap` that comes after the org is there. -/
def createAdmin (email password name : String) (adminRole : Role) : DbAction Bool := do
  match ← Action.select (fun db => db.userByEmail email) with
  | some _ =>
      throw
        (.valueError
          ("user with email " ++ repr isPrintable email
            ++ " already exists. Cannot proceed — manual intervention required."))
  | none => do
      let passwordHash ← Action.ofExcept (hashPassword runtime draws.salt password)
      let user := bootstrapUser draws now orgId email passwordHash name
      Action.add (Database.insertUser user)
      Action.flush
      grantRoles orgId user.id adminRole

/-- `bootstrap`. -/
def bootstrap (email password name : String) : DbAction Bool := do
  let email := normalizeEmail runtime email
  let name := strip name
  match ← Action.select (fun db => .ok (roleByName "admin" db)) with
  | none =>
      throw
        (.valueError
          "'admin' role not found in roles table. Run alembic migrations first.")
  | some adminRole =>
      match ← Action.select (fun db => .ok (activeGrant orgId adminRole.id db)) with
      | some _ => return false
      | none =>
          match ← Action.select (fun db => .ok (db.orgById orgId)) with
          | none => do
              Action.add (Database.insertOrg (specterOrg orgId))
              Action.flush
              createAdmin runtime isPrintable draws now orgId email password name adminRole
          | some _ =>
              createAdmin runtime isPrintable draws now orgId email password name adminRole

end Program

-----------------------------------------------------------------------------------------
-- Steps
-----------------------------------------------------------------------------------------

/-- The rows and the entries of unique indexes that the INSERTs of a run lock. -/
inductive AccountKey
  | org (id : UUID)
  | orgSlug (slug : String)
  | user (id : UUID)
  | userEmail (email : String)
  | role (id : Int)
  | grant (key : UUID × UUID × Int)
deriving DecidableEq

/-- The INSERT of an org locks its id and its slug. -/
def insertOrgStatement (row : Org) : Statement Database AccountKey Raised where
  locks := [⟨.org row.id, true⟩, ⟨.orgSlug row.slug, true⟩]
  run := Database.insertOrg row

/-- The INSERT of a user locks its id and its email, and shares its org. -/
def insertUserStatement (row : User) : Statement Database AccountKey Raised where
  locks := [⟨.user row.id, true⟩, ⟨.userEmail row.email, true⟩, ⟨.org row.orgId, false⟩]
  run := Database.insertUser row

/-- The INSERT of a grant locks its key, and shares the rows that it refers to. -/
def insertGrantStatement (row : UserRole) : Statement Database AccountKey Raised where
  locks :=
    [⟨.grant row.key, true⟩, ⟨.user row.userId, false⟩, ⟨.org row.orgId, false⟩,
      ⟨.role row.roleId, false⟩]
  run := Database.insertUserRole row

/-- The steps of a run. -/
abbrev BootstrapSteps := Transaction Database AccountKey Raised Bool

section Steps

variable (runtime : Runtime) (isPrintable : Char → Bool) (draws : BootstrapDraws)
  (now : Instant) (orgId : UUID)

def grantRolesSteps (userId : UUID) (adminRole : Role) : BootstrapSteps :=
  .select fun db =>
    match roleByName "developer" db with
    | none =>
        .leave
          (.error (.valueError "'developer' role not found. Migrations may be incomplete."))
    | some developerRole =>
        .executeAll
          (([adminRole, developerRole].map (bootstrapGrant userId orgId)).map
            insertGrantStatement)
          (.commit true)

def createAdminSteps (email password name : String) (adminRole : Role) : BootstrapSteps :=
  .select fun db =>
    match db.userByEmail email with
    | .error error => .leave (.error error)
    | .ok (some _) =>
        .leave
          (.error
            (.valueError
              ("user with email " ++ repr isPrintable email
                ++ " already exists. Cannot proceed — manual intervention required.")))
    | .ok none =>
        match hashPassword runtime draws.salt password with
        | .error error => .leave (.error error)
        | .ok passwordHash =>
            .execute
              (insertUserStatement (bootstrapUser draws now orgId email passwordHash name))
              (grantRolesSteps orgId draws.userId adminRole)

/-- `bootstrap`, as the steps of a transaction. -/
def bootstrapSteps (email password name : String) : BootstrapSteps :=
  .select fun db =>
    match roleByName "admin" db with
    | none =>
        .leave
          (.error
            (.valueError
              "'admin' role not found in roles table. Run alembic migrations first."))
    | some adminRole =>
        .select fun db =>
          match activeGrant orgId adminRole.id db with
          | some _ => .leave (.ok false)
          | none =>
              .select fun db =>
                match db.orgById orgId with
                | none =>
                    .execute (insertOrgStatement (specterOrg orgId))
                      (createAdminSteps runtime isPrintable draws now orgId
                        (normalizeEmail runtime email) password (strip name) adminRole)
                | some _ =>
                    createAdminSteps runtime isPrintable draws now orgId
                      (normalizeEmail runtime email) password (strip name) adminRole

theorem grantRoles_steps (userId : UUID) (adminRole : Role)
    : (grantRoles orgId userId adminRole).TakesSteps
        (grantRolesSteps orgId userId adminRole) := by
  refine Action.TakesSteps.read fun db => ?_
  cases roleByName "developer" db with
  | none => exact Action.TakesSteps.throw _
  | some developerRole =>
      exact
        Action.TakesSteps.committedAll
          (([adminRole, developerRole].map (bootstrapGrant userId orgId)).map
            insertGrantStatement)
          true

theorem createAdmin_steps (email password name : String) (adminRole : Role)
    : (createAdmin runtime isPrintable draws now orgId email password name adminRole).TakesSteps
        (createAdminSteps runtime isPrintable draws now orgId email password name
          adminRole) := by
  refine Action.TakesSteps.selected ?_ ?_
  · intro db existing found
    simp only [found]
    cases existing with
    | some user => exact Action.TakesSteps.throw _
    | none =>
        refine Action.TakesSteps.computed ?_ ?_
        · intro passwordHash hashed
          simp only [hashed]
          exact
            Action.TakesSteps.flushed
              (insertUserStatement (bootstrapUser draws now orgId email passwordHash name))
              (grantRoles_steps orgId draws.userId adminRole)
        · intro error failed
          simp only [failed]
  · intro db error failed
    simp only [failed]

/-- A run takes the steps of its transaction. -/
theorem bootstrap_steps (email password name : String)
    : (bootstrap runtime isPrintable draws now orgId email password name).TakesSteps
        (bootstrapSteps runtime isPrintable draws now orgId email password name) := by
  refine Action.TakesSteps.read fun db => ?_
  cases roleByName "admin" db with
  | none => exact Action.TakesSteps.throw _
  | some adminRole =>
      refine Action.TakesSteps.read fun db => ?_
      cases activeGrant orgId adminRole.id db with
      | some grant => exact Action.TakesSteps.pure false
      | none =>
          have creates :=
            createAdmin_steps runtime isPrintable draws now orgId (normalizeEmail runtime email)
              password (strip name) adminRole
          refine Action.TakesSteps.read fun db => ?_
          cases db.orgById orgId with
          | none =>
              exact Action.TakesSteps.flushed (insertOrgStatement (specterOrg orgId)) creates
          | some org => exact creates

end Steps

-----------------------------------------------------------------------------------------
-- What a run leaves
-----------------------------------------------------------------------------------------

/-- What a run that returns True has found, and the rows that it has added. -/
structure Bootstrapped (before after : Database) (orgId : UUID) (user : User)
    (adminRole developerRole : Role)
    : Prop where
  admin : roleByName "admin" before = some adminRole
  developer : roleByName "developer" before = some developerRole
  ungranted : activeGrant orgId adminRole.id before = none
  unknown : before.userByEmail user.email = .ok none
  orgs
    : after.orgs = before.orgs
      ∨ before.orgById orgId = none ∧ after.orgs = before.orgs ++ [specterOrg orgId]
  users : after.users = before.users ++ [user]
  userRoles
    : after.userRoles
      = before.userRoles ++ [adminRole, developerRole].map (bootstrapGrant user.id orgId)
  roles : after.roles = before.roles

section Effects

variable {runtime : Runtime} {isPrintable : Char → Bool} {draws : BootstrapDraws}
  {now : Instant} {orgId : UUID}

/-- A run that comes to the grants and returns True has granted both roles. -/
theorem grantRolesSteps_performed {userId : UUID} {adminRole : Role} {view db after : Database}
    (performed : (grantRolesSteps orgId userId adminRole).alone view db = (.ok true, after))
    : ∃ developerRole,
        roleByName "developer" view = some developerRole
        ∧ after.orgs = view.orgs
        ∧ after.users = view.users
        ∧ after.userRoles
          = view.userRoles ++ [adminRole, developerRole].map (bootstrapGrant userId orgId)
        ∧ after.roles = view.roles := by
  rw [grantRolesSteps, Transaction.alone] at performed
  cases found : roleByName "developer" view with
  | none =>
      rw [found] at performed
      cases performed
  | some developerRole =>
      rw [found] at performed
      obtain ⟨middle, ran, committed⟩ := Transaction.alone_executeAll_ok performed
      cases committed
      obtain ⟨first, granted, ran⟩ := runAll_cons_ok ran
      obtain ⟨second, grantedAgain, ran⟩ := runAll_cons_ok ran
      obtain ⟨accepted, rfl⟩ := Database.insertUserRole_ok granted
      obtain ⟨acceptedAgain, rfl⟩ := Database.insertUserRole_ok grantedAgain
      cases ran
      exact ⟨developerRole, rfl, rfl, rfl, List.append_assoc _ _ _, rfl⟩

/-- A run that finds or has added the org and returns True has added one user. -/
theorem createAdminSteps_performed {email password name : String} {adminRole : Role}
    {view db after : Database}
    (performed
      : (createAdminSteps runtime isPrintable draws now orgId email password name
          adminRole).alone view db
        = (.ok true, after))
    : ∃ passwordHash developerRole,
        hashPassword runtime draws.salt password = .ok passwordHash
        ∧ roleByName "developer" view = some developerRole
        ∧ view.userByEmail email = .ok none
        ∧ after.orgs = view.orgs
        ∧ after.users
          = view.users ++ [bootstrapUser draws now orgId email passwordHash name]
        ∧ after.userRoles
          = view.userRoles ++ [adminRole, developerRole].map (bootstrapGrant draws.userId orgId)
        ∧ after.roles = view.roles := by
  rw [createAdminSteps, Transaction.alone] at performed
  cases found : view.userByEmail email with
  | error error =>
      rw [found] at performed
      cases performed
  | ok existing =>
      rw [found] at performed
      cases existing with
      | some user => cases performed
      | none =>
          cases hashed : hashPassword runtime draws.salt password with
          | error error =>
              rw [hashed] at performed
              cases performed
          | ok passwordHash =>
              rw [hashed] at performed
              obtain ⟨middle, ran, granting⟩ := Transaction.alone_execute_ok performed
              obtain ⟨accepted, rfl⟩ := Database.insertUser_ok ran
              obtain ⟨developerRole, known, orgs, users, userRoles, roles⟩ :=
                grantRolesSteps_performed granting
              exact ⟨passwordHash, developerRole, rfl, known, rfl, orgs, users, userRoles, roles⟩

/-- A run that returns True has found what it needs and has added its rows. -/
theorem bootstrapSteps_performed {email password name : String} {before after : Database}
    (performed
      : (bootstrapSteps runtime isPrintable draws now orgId email password name).alone before
          before
        = (.ok true, after))
    : ∃ passwordHash adminRole developerRole,
        hashPassword runtime draws.salt password = .ok passwordHash
        ∧ Bootstrapped before after orgId
            (bootstrapUser draws now orgId (normalizeEmail runtime email) passwordHash
              (strip name))
            adminRole developerRole := by
  rw [bootstrapSteps, Transaction.alone] at performed
  cases admin : roleByName "admin" before with
  | none =>
      rw [admin] at performed
      cases performed
  | some adminRole =>
      rw [admin] at performed
      simp only [Transaction.alone] at performed
      cases ungranted : activeGrant orgId adminRole.id before with
      | some grant =>
          rw [ungranted] at performed
          cases performed
      | none =>
          rw [ungranted] at performed
          simp only [Transaction.alone] at performed
          cases org : before.orgById orgId with
          | some found =>
              rw [org] at performed
              obtain ⟨passwordHash, developerRole, hashed, known, unknown, orgs, users, userRoles,
                roles⟩ := createAdminSteps_performed performed
              exact ⟨passwordHash, adminRole, developerRole, hashed, admin, known, ungranted,
                unknown, .inl orgs, users, userRoles, roles⟩
          | none =>
              rw [org] at performed
              obtain ⟨middle, ran, creating⟩ := Transaction.alone_execute_ok performed
              obtain ⟨accepted, rfl⟩ := Database.insertOrg_ok ran
              obtain ⟨passwordHash, developerRole, hashed, known, unknown, orgs, users, userRoles,
                roles⟩ := createAdminSteps_performed creating
              exact ⟨passwordHash, adminRole, developerRole, hashed, admin, known, ungranted,
                unknown, .inr ⟨org, orgs⟩, users, userRoles, roles⟩

end Effects

end SpecterCloud.Scripts
