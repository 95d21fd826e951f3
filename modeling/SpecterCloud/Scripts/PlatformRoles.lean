import SpecterCloud.Auth.Permissions
import SpecterCloud.Scripts.BootstrapOutcomes

/-! Platform-only roles are for root orgs. A bootstrap grants `developer` at the org that it finds
under its id, whatever place the org has in the hierarchy.
-/

namespace SpecterCloud.Scripts

open SpecterCloud.Foundations
open SpecterCloud.Models
open SpecterCloud.Core
open SpecterCloud.Auth

/-- The role is in `PLATFORM_ONLY_ROLES` or has the flag. -/
def IsPlatformOnly (role : Role) : Prop :=
  role.name ∈ platformOnlyRoles ∨ role.isPlatformRole = true

/-- The org is stored, and has no parent. -/
def IsRootOrg (orgId : UUID) (db : Database) : Prop :=
  ∃ org ∈ db.orgs, org.id = orgId ∧ org.parentOrgId = none

/-- Every unrevoked grant of a platform-only role is at a root org. -/
def PlatformRolesAtRoots (db : Database) : Prop :=
  ∀ grant ∈ db.userRoles,
    grant.revokedAt = none
    → ∀ role ∈ db.roles, role.id = grant.roleId → IsPlatformOnly role → IsRootOrg grant.orgId db

/-- An org that has a parent is stored under the id. -/
def IsBelow (orgId : UUID) (db : Database) : Prop :=
  ∃ org, db.orgById orgId = some org ∧ org.parentOrgId ≠ none

section Additions

variable {orgId : UUID} {user : User} {adminRole developerRole : Role}
  {before after : Database}

/-- The rows that a run adds leave root orgs in their places. -/
theorem AddsAccount.isRootOrg (adds : AddsAccount orgId user adminRole developerRole before after)
    {other : UUID} (root : IsRootOrg other before)
    : IsRootOrg other after := by
  obtain ⟨org, stored, same, isRoot⟩ := root
  refine ⟨org, ?_, same, isRoot⟩
  by_cases absent : before.orgById orgId = none
  · rw [adds.orgAdded absent]
    exact List.mem_append_left _ stored
  · rw [adds.orgKept absent]
    exact stored

/-- The org that a run has found or added is a root org unless it was found below another. -/
theorem AddsAccount.isRootOrg_iff
    (adds : AddsAccount orgId user adminRole developerRole before after)
    : IsRootOrg orgId after ↔ ¬ IsBelow orgId before := by
  cases org : before.orgById orgId with
  | none =>
      refine iff_of_true ⟨specterOrg orgId, ?_, rfl, rfl⟩ ?_
      · rw [adds.orgAdded org]
        simp
      · rintro ⟨found, stored, _⟩
        cases org.symm.trans stored
  | some found =>
      have kept : after.orgs = before.orgs := adds.orgKept (by simp [org])
      obtain ⟨stored, same⟩ := findBy_sound org
      constructor
      · rintro ⟨other, storedOther, sameOther, isRoot⟩ ⟨again, foundAgain, below⟩
        cases org.symm.trans foundAgain
        rw [kept] at storedOther
        obtain rfl := eq_of_key_eq before.orgIds storedOther stored (sameOther.trans same.symm)
        exact below isRoot
      · intro atRoot
        refine ⟨found, kept.symm ▸ stored, same, ?_⟩
        exact not_not.mp fun below => atRoot ⟨found, org, below⟩

/-- After a run has added its rows, platform-only roles are at root orgs exactly when the org was
not found below another.
-/
theorem AddsAccount.platformRoles
    (adds : AddsAccount orgId user adminRole developerRole before after)
    (developer : roleByName "developer" before = some developerRole)
    (atRoots : PlatformRolesAtRoots before)
    : PlatformRolesAtRoots after ↔ ¬ IsBelow orgId before := by
  obtain ⟨stored, named⟩ := findBy_sound developer
  rw [← adds.isRootOrg_iff]
  constructor
  · intro kept
    refine kept (bootstrapGrant user.id orgId developerRole) ?_ rfl developerRole
      (adds.roles.symm ▸ stored) rfl (.inl ?_)
    · rw [adds.userRoles]
      simp
    · rw [named]
      exact .head _
  · intro root grant granted active role storedRole same platform
    rw [adds.userRoles, List.mem_append] at granted
    rw [adds.roles] at storedRole
    rcases granted with old | new
    · exact adds.isRootOrg (atRoots grant old active role storedRole same platform)
    · rcases List.mem_cons.mp new with rfl | new
      · exact root
      · obtain rfl := List.mem_singleton.mp new
        exact root

end Additions

/-- For every database in which the unrevoked grants of platform-only roles are at root orgs, and
every bootstrap: they are after it exactly when it does not come to add its rows at an org that
it finds below another.
-/
theorem bootstrap_keeps_platform_roles_at_roots (runtime : Runtime) (isPrintable : Char → Bool)
    (draws : BootstrapDraws) (now : Instant) (orgId : UUID) (email password name : String)
    (before : Database) (atRoots : PlatformRolesAtRoots before)
    : PlatformRolesAtRoots
          ((bootstrap runtime isPrintable draws now orgId email password name).perform before).2
      ↔ ¬ (IsBelow orgId before
          ∧ ∃ adminRole developerRole,
              Proceeds runtime draws orgId email password name before adminRole
                developerRole) := by
  obtain ⟨outcome, after, ways, ran⟩ :=
    bootstrap_cases runtime isPrintable draws now orgId email password name before
  rw [ran]
  cases ways with
  | idle administered =>
      refine iff_of_true atRoots ?_
      rintro ⟨_, _, _, proceeds⟩
      exact proceeds.unadministered administered
  | raised _ blocked =>
      refine iff_of_true atRoots ?_
      rintro ⟨_, _, _, proceeds⟩
      exact proceeds.unblocked blocked
  | performed _ proceeds adds =>
      rw [adds.platformRoles proceeds.developer atRoots]
      exact not_congr (and_iff_left ⟨_, _, proceeds⟩).symm

/-- A bootstrap of an org right after the migrations. -/
def samplePlatformBootstrap (orgId : UUID) : DbAction Bool :=
  bootstrap sampleRuntime (fun _ => true) ⟨7, "somesalt"⟩ 0 orgId "admin@specter.example"
    "password" "Specter Admin"

/-- The org that it adds is a root org. -/
theorem samplePlatformBootstrap_at_root
    : PlatformRolesAtRoots ((samplePlatformBootstrap 1).perform migratedDatabase).2 := by
  refine (bootstrap_keeps_platform_roles_at_roots sampleRuntime (fun _ => true)
    ⟨7, "somesalt"⟩ 0 1 "admin@specter.example" "password" "Specter Admin" migratedDatabase
    ?_).mpr ?_
  · exact fun _ granted => absurd granted List.not_mem_nil
  · rintro ⟨⟨_, found, _⟩, _⟩
    cases found

/-- The root org and a customer's org below it. -/
def sampleHierarchy : List Org :=
  [⟨1, "Specter", "specter", none⟩, ⟨2, "Customer", "customer", some 1⟩]

theorem sampleHierarchy_ids : (sampleHierarchy.map Org.id).Nodup := by decide

theorem sampleHierarchy_slugs : (sampleHierarchy.map Org.slug).Nodup := by decide

theorem sampleHierarchy_users
    : ∀ user ∈ migratedDatabase.users, user.orgId ∈ sampleHierarchy.map Org.id :=
  List.forall_mem_nil _

/-- The migrated database with both orgs. -/
def hierarchyDatabase : Database :=
  { migratedDatabase with
    orgs := sampleHierarchy
    orgIds := sampleHierarchy_ids
    orgSlugs := sampleHierarchy_slugs
    userOrgs := sampleHierarchy_users }

/-- A bootstrap under the id of the customer's org grants `developer` there. -/
theorem samplePlatformBootstrap_below_root
    : PlatformRolesAtRoots hierarchyDatabase
      ∧ hierarchyDatabase.orgById 2 = some ⟨2, "Customer", "customer", some 1⟩
      ∧ ((samplePlatformBootstrap 2).perform hierarchyDatabase).1 = .ok true
      ∧ ⟨7, 2, 5, none, none⟩
        ∈ ((samplePlatformBootstrap 2).perform hierarchyDatabase).2.userRoles
      ∧ ¬ PlatformRolesAtRoots ((samplePlatformBootstrap 2).perform hierarchyDatabase).2 := by
  have granted
      : ((samplePlatformBootstrap 2).perform hierarchyDatabase).2.userRoles
        = [⟨7, 2, 6, none, none⟩, ⟨7, 2, 5, none, none⟩] := by
    rfl
  have orgs
      : ((samplePlatformBootstrap 2).perform hierarchyDatabase).2.orgs = sampleHierarchy := by
    rfl
  have roles
      : ((samplePlatformBootstrap 2).perform hierarchyDatabase).2.roles = migratedRoles := by
    rfl
  have developer : (⟨7, 2, 5, none, none⟩ : UserRole)
      ∈ ((samplePlatformBootstrap 2).perform hierarchyDatabase).2.userRoles := by
    rw [granted]
    exact .tail _ (.head _)
  refine ⟨fun _ granted => absurd granted List.not_mem_nil, rfl, by rfl, developer, ?_⟩
  intro atRoots
  obtain ⟨org, stored, same, isRoot⟩ :=
    atRoots _ developer rfl ⟨5, "developer", true⟩ (by rw [roles]; decide) rfl (.inr rfl)
  rw [orgs] at stored
  revert org
  decide

end SpecterCloud.Scripts
