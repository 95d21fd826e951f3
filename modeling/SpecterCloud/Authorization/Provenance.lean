import SpecterCloud.Authorization.BootstrappedAdmin
import SpecterCloud.Authorization.TenantIsolation

/-! When the result of a check, which its audit row records, is a function of the rows and not of
their order.
-/

namespace SpecterCloud.Auth

open SpecterCloud.Foundations
open SpecterCloud.Models
open SpecterCloud.Core
open SpecterCloud.Scripts

/-- The same rows in the tables that a check reads, in any order. -/
structure SameRows (left right : AccessTables) : Prop where
  orgs : left.orgs.Perm right.orgs
  userRoles : left.userRoles.Perm right.userRoles
  roles : left.roles.Perm right.roles

/-- The check has one result for all orders of the rows. -/
def OrderIndependent (tables : AccessTables) (user : User) (permission : Permission)
    (targetOrgId : UUID)
    : Prop :=
  ∀ left right,
    SameRows tables left
    → SameRows tables right
    → checkPermission left user permission targetOrgId
      = checkPermission right user permission targetOrgId

/-- At the closest org within the cap where the user holds an eligible role, it is the only one.
-/
def OneClosestRole (tables : AccessTables) (userId : UUID) (permission : Permission)
    (targetOrgId : UUID)
    : Prop :=
  ∀ k ≤ maxHierarchyDepth, ∀ org,
    FirstEligible tables userId permission targetOrgId k org
    → ∀ role other,
        Grants tables userId permission org.id role
        → Grants tables userId permission org.id other
        → role = other

section Orders

variable {left right : AccessTables}

theorem SameRows.refl (tables : AccessTables) : SameRows tables tables := ⟨.rfl, .rfl, .rfl⟩

theorem SameRows.symm (same : SameRows left right) : SameRows right left :=
  ⟨same.orgs.symm, same.userRoles.symm, same.roles.symm⟩

theorem SameRows.trans {other : AccessTables} (same : SameRows left right)
    (again : SameRows right other)
    : SameRows left other :=
  ⟨same.orgs.trans again.orgs, same.userRoles.trans again.userRoles,
    same.roles.trans again.roles⟩

variable (same : SameRows left right)

include same

theorem SameRows.orgById (id : UUID) : left.orgById id = right.orgById id :=
  findBy_perm left.orgIds same.orgs

theorem SameRows.parentOrg : parentOrg left = parentOrg right := by
  funext org
  unfold Auth.parentOrg
  cases org.parentOrgId with
  | none => rfl
  | some id => exact same.orgById id

theorem SameRows.grants {userId orgId : UUID} {permission : Permission} {role : Role}
    (grants : Grants left userId permission orgId role)
    : Grants right userId permission orgId role := by
  obtain ⟨grant, stored, held⟩ := grants.granted
  exact ⟨same.roles.mem_iff.mp grants.known, grants.bundled, grant,
    same.userRoles.mem_iff.mp stored, held⟩

theorem SameRows.eligible (userId : UUID) (permission : Permission)
    : Eligible left userId permission = Eligible right userId permission := by
  funext org
  refine propext ⟨?_, ?_⟩
  · rintro ⟨role, grants⟩
    exact ⟨role, same.grants grants⟩
  · rintro ⟨role, grants⟩
    exact ⟨role, same.symm.grants grants⟩

/-- The first eligible org is the same. -/
theorem SameRows.firstEligible {userId targetOrgId : UUID} {permission : Permission} {k : Nat}
    {org : Org} (first : FirstEligible left userId permission targetOrgId k org)
    : FirstEligible right userId permission targetOrgId k org := by
  obtain ⟨target, found, met⟩ := first
  rw [same.orgById] at found
  rw [same.parentOrg, same.eligible] at met
  exact ⟨target, found, met⟩

theorem SameRows.covers (userId targetOrgId : UUID)
    : CoversChain left right userId targetOrgId := by
  refine ⟨?_, ?_⟩
  · intro k _ org above
    rw [← same.orgById, orgAbove_stored above, Option.map_some]
  · intro k _ org _ roleId
    simp only [ActiveGrant, same.userRoles.mem_iff]

/-- The tables agree on everything that a decision depends on. -/
theorem SameRows.agree (userId targetOrgId : UUID)
    : AgreeOnChain left right userId targetOrgId :=
  ⟨fun _ => same.roles.mem_iff, same.covers userId targetOrgId,
    same.symm.covers userId targetOrgId⟩

/-- Where only one role is held at the closest org, both orders name it. -/
theorem SameRows.sameResult {user : User} {permission : Permission} {targetOrgId : UUID}
    (one : OneClosestRole left user.id permission targetOrgId)
    : checkPermission left user permission targetOrgId
      = checkPermission right user permission targetOrgId := by
  rcases checkPermission_cases left user permission targetOrgId with
    ⟨k, capped, org, role, first, grants, granted⟩ | ⟨_, denied⟩
  · rcases checkPermission_cases right user permission targetOrgId with
      ⟨_, _, other, otherRole, firstOther, otherGrants, grantedOther⟩ | ⟨none, _⟩
    · obtain ⟨_, rfl⟩ := (same.firstEligible first).unique firstOther
      rw [granted, grantedOther, one k capped org first role otherRole grants
        (same.symm.grants otherGrants)]
    · obtain ⟨above, eligible⟩ := (same.firstEligible first).met
      exact absurd eligible (none k capped org above)
  · have refused := ((same.agree user.id targetOrgId).sameDecision permission).1
    rw [denied] at refused
    rw [denied, checkPermission_refused refused.symm]

end Orders

-----------------------------------------------------------------------------------------
-- An order that names a given role
-----------------------------------------------------------------------------------------

/-- The tables with the grants in another order. -/
def reorderGrants (tables : AccessTables) (userRoles : List UserRole)
    (same : tables.userRoles.Perm userRoles)
    : AccessTables :=
  { tables with
    userRoles
    grantKeys := (same.map UserRole.key).nodup_iff.mp tables.grantKeys }

/-- The joined rows of one grant. -/
def grantMatches (roles : List Role) (chain : List ChainRow) (userId : UUID)
    (eligibleRoles : List String) (ur : UserRole)
    : List GrantMatch :=
  (chain.filter (fun c => ur.orgId = c.id)).flatMap
    (fun c =>
      (roles.filter
          (fun r =>
            ur.roleId = r.id ∧ ur.userId = userId ∧ ur.revokedAt = none
            ∧ r.name ∈ eligibleRoles)).map
        (fun r => { roleId := ur.roleId, orgId := ur.orgId, name := r.name, depth := c.depth }))

/-- The join goes through the grants in their order. -/
theorem matchedGrants_cons {tables : AccessTables} {chain : List ChainRow} {userId : UUID}
    {eligibleRoles : List String} {grant : UserRole} {later : List UserRole}
    (ordered : tables.userRoles = grant :: later)
    : matchedGrants tables chain userId eligibleRoles
      = grantMatches tables.roles chain userId eligibleRoles grant
        ++ later.flatMap (grantMatches tables.roles chain userId eligibleRoles) := by
  rw [matchedGrants, ordered]
  rfl

/-- All rows of a grant have its role. -/
theorem grantMatches_roleId {roles : List Role} {chain : List ChainRow} {userId : UUID}
    {eligibleRoles : List String} {ur : UserRole} {row : GrantMatch}
    (member : row ∈ grantMatches roles chain userId eligibleRoles ur)
    : row.roleId = ur.roleId := by
  obtain ⟨c, _, inRoles⟩ := List.mem_flatMap.mp member
  obtain ⟨r, _, rfl⟩ := List.mem_map.mp inRoles
  rfl

/-- With its grant in front of the others, a role at the closest org is the one that is named. -/
theorem exists_order_naming {tables : AccessTables} {user : User} {permission : Permission}
    {targetOrgId : UUID} {k : Nat} (capped : k ≤ maxHierarchyDepth) {org : Org} {role : Role}
    (first : FirstEligible tables user.id permission targetOrgId k org)
    (grants : Grants tables user.id permission org.id role)
    : ∃ other,
        SameRows tables other
        ∧ (checkPermission other user permission targetOrgId).matchedRoleId = some role.id := by
  obtain ⟨grant, stored, byUser, atOrg, byRole, active⟩ := grants.granted
  have same := List.perm_cons_erase stored
  let other := reorderGrants tables (grant :: tables.userRoles.erase grant) same
  have rows : SameRows tables other := ⟨.rfl, same, .rfl⟩
  have firstOther := rows.firstEligible first
  refine ⟨other, rows, ?_⟩
  let chain := orgChain other.orgs targetOrgId
  let eligibleRoles := rolesWithPermission permission
  let front := grantMatches other.roles chain user.id eligibleRoles grant
  let behind :=
    (tables.userRoles.erase grant).flatMap
      (grantMatches other.roles chain user.id eligibleRoles)
  have split_ : matchedGrants other chain user.id eligibleRoles = front ++ behind :=
    matchedGrants_cons rfl
  have joined
      : { roleId := grant.roleId, orgId := grant.orgId, name := role.name, depth := k }
        ∈ front := by
    have met := mem_orgChain.mpr ⟨k, capped, org, firstOther.met.1, rfl⟩
    refine List.mem_flatMap.mpr ⟨chainRow k org, ?_, ?_⟩
    · exact List.mem_filter.mpr ⟨met, decide_eq_true atOrg⟩
    · refine List.mem_map.mpr ⟨role, List.mem_filter.mpr ⟨grants.known, ?_⟩, rfl⟩
      exact decide_eq_true
        ⟨byRole, byUser, active, mem_rolesWithPermission.mpr grants.bundled⟩
  have least : ∀ row ∈ front ++ behind, k ≤ row.depth := by
    intro row member
    rw [← split_] at member
    obtain ⟨j, _, closer, held, above, heldGrants, rfl⟩ := mem_matchedGrants.mp member
    exact Nat.not_lt.mp fun lt => firstOther.first lt above ⟨held, heldGrants⟩
  obtain ⟨kept, inFront, ordered⟩
      : ∃ kept ∈ front, orderByLimit1 GrantMatch.depth (front ++ behind) = some kept :=
    orderByLimit1_append joined least
  simp only [checkPermission, rolesWithPermission_ne_nil, ↓reduceIte]
  rw [show matchedGrants other (orgChain other.orgs targetOrgId) user.id
      (rolesWithPermission permission) = front ++ behind from split_, ordered]
  exact congrArg some ((grantMatches_roleId inFront).trans byRole)

/-- For all tables, users, permissions and targets: the order of the rows decides neither whether
the check allows nor at which org; and it decides nothing exactly when the user holds a single
eligible role at the closest org where they hold any.
-/
theorem checkPermission_provenance (tables : AccessTables) (user : User)
    (permission : Permission) (targetOrgId : UUID)
    : (∀ left right,
        SameRows tables left
        → SameRows tables right
        → (checkPermission left user permission targetOrgId).allowed
            = (checkPermission right user permission targetOrgId).allowed
          ∧ (checkPermission left user permission targetOrgId).matchedOrgId
            = (checkPermission right user permission targetOrgId).matchedOrgId)
      ∧ (OrderIndependent tables user permission targetOrgId
        ↔ OneClosestRole tables user.id permission targetOrgId) := by
  refine ⟨?_, ?_, ?_⟩
  · intro left right toLeft toRight
    exact ((toLeft.symm.trans toRight).agree user.id targetOrgId).sameDecision permission
  · intro independent k capped org first role other grants otherGrants
    obtain ⟨left, toLeft, named⟩ := exists_order_naming capped first grants
    obtain ⟨right, toRight, namedOther⟩ := exists_order_naming capped first otherGrants
    rw [independent left right toLeft toRight] at named
    exact eq_of_key_eq tables.roleIds grants.known otherGrants.known
      (Option.some.inj (named.symm.trans namedOther))
  · intro one left right toLeft toRight
    rw [← toLeft.sameResult one, ← toRight.sameResult one]

/-- The grants of a bootstrap, `admin` and `developer`. -/
def bootstrappedGrants : List UserRole := [⟨7, 1, 6, none, none⟩, ⟨7, 1, 5, none, none⟩]

theorem bootstrappedGrants_keys : (bootstrappedGrants.map UserRole.key).Nodup := by decide

/-- The tables right after a bootstrap. -/
def bootstrappedTables : AccessTables where
  orgs := [specterOrg 1]
  userRoles := bootstrappedGrants
  roles := migratedRoles
  orgIds := List.nodup_singleton _
  grantKeys := bootstrappedGrants_keys
  roleIds := migratedRoles_ids
  roleNames := migratedRoles_names

theorem bootstrappedGrants_swap
    : bootstrappedTables.userRoles.Perm [⟨7, 1, 5, none, none⟩, ⟨7, 1, 6, none, none⟩] :=
  .swap ..

/-- The same tables with the grant of `developer` first. -/
def swappedTables : AccessTables := reorderGrants bootstrappedTables _ bootstrappedGrants_swap

/-- A bootstrap leaves its administrator with two roles at one org, and whether they may read
drones as `admin` or as `developer` is left to the order of the two grants.
-/
theorem bootstrapped_provenance_open
    : (sampleBootstrap.perform migratedDatabase).2.toAccessTables = bootstrappedTables
      ∧ ¬ OrderIndependent bootstrappedTables sampleUser .droneRead 1 := by
  refine ⟨by rfl, ?_⟩
  intro independent
  have same :=
    independent bootstrappedTables swappedTables (.refl _) ⟨.rfl, bootstrappedGrants_swap, .rfl⟩
  have admin
      : (checkPermission bootstrappedTables sampleUser .droneRead 1).matchedRoleId = some 6 := by
    decide
  have developer
      : (checkPermission swappedTables sampleUser .droneRead 1).matchedRoleId = some 5 := by
    decide
  rw [same, developer] at admin
  cases admin

end SpecterCloud.Auth
