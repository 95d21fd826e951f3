import SpecterCloud.Authorization.OrgWalks

/-! What `check_permission` decides: the closest org on the way up from the target where the
user holds an eligible role, and which role it names.
-/

namespace SpecterCloud.Auth

open SpecterCloud.Foundations
open SpecterCloud.Models

/-- The user holds at the org an unrevoked grant of the role, and the role's bundle includes
the permission.
-/
structure Grants (tables : AccessTables) (userId : UUID) (permission : Permission)
    (orgId : UUID) (role : Role)
    : Prop where
  known : role ∈ tables.roles
  bundled : permission ∈ bundle role.name
  granted
    : ∃ grant ∈ tables.userRoles,
        grant.userId = userId
        ∧ grant.orgId = orgId
        ∧ grant.roleId = role.id
        ∧ grant.revokedAt = none

/-- Some eligible role is granted to the user at the org. -/
def Eligible (tables : AccessTables) (userId : UUID) (permission : Permission) (org : Org)
    : Prop :=
  ∃ role, Grants tables userId permission org.id role

/-- The result that names a role granted at an org. -/
def PermissionCheckResult.granted (org : Org) (role : Role) : PermissionCheckResult :=
  {
    allowed := true
    matchedRoleId := some role.id
    matchedOrgId := some org.id
    matchedRoleName := some role.name
    reason := "granted_via_" ++ role.name
  }

/-- The joined rows are the grants met within the cap, each with its step as the depth. -/
theorem mem_matchedGrants {tables : AccessTables} {targetOrgId userId : UUID}
    {permission : Permission} {row : GrantMatch}
    : row
        ∈ matchedGrants tables (orgChain tables.orgs targetOrgId) userId
          (rolesWithPermission permission)
      ↔ ∃ k ≤ maxHierarchyDepth, ∃ org role,
          orgAbove tables targetOrgId k = some org
          ∧ Grants tables userId permission org.id role
          ∧ row = { roleId := role.id, orgId := org.id, name := role.name, depth := k } := by
  simp only [matchedGrants, List.mem_flatMap, List.mem_filter, List.mem_map, mem_orgChain,
    decide_eq_true_eq, mem_rolesWithPermission]
  constructor
  · rintro ⟨ur, stored, c, ⟨⟨k, capped, org, above, rfl⟩, atOrg⟩, role,
      ⟨known, byRole, byUser, active, bundled⟩, rfl⟩
    refine ⟨k, capped, org, role, above, ⟨known, bundled, ?_⟩, ?_⟩
    · exact ⟨ur, stored, byUser, atOrg, byRole, active⟩
    · rw [byRole, atOrg]
      rfl
  · rintro ⟨k, capped, org, role, above, ⟨known, bundled, ur, stored, byUser, atOrg, byRole,
      active⟩, rfl⟩
    exact ⟨ur, stored, chainRow k org, ⟨⟨k, capped, org, above, rfl⟩, atOrg⟩, role,
      ⟨known, byRole, byUser, active, bundled⟩, by rw [byRole, atOrg]; rfl⟩

/-- The first org on the way up from the target where an eligible role is granted. -/
def FirstEligible (tables : AccessTables) (userId : UUID) (permission : Permission)
    (targetOrgId : UUID) (steps : Nat) (org : Org)
    : Prop :=
  ∃ target,
    tables.orgById targetOrgId = some target
    ∧ FirstMet (parentOrg tables) target (Eligible tables userId permission) steps org

/-- An eligible org met on the way up gives a first one, no farther away. -/
theorem FirstEligible.exists_le {tables : AccessTables} {userId targetOrgId : UUID}
    {permission : Permission} {steps : Nat} {org : Org}
    (above : orgAbove tables targetOrgId steps = some org)
    (eligible : Eligible tables userId permission org)
    : ∃ k ≤ steps, ∃ first, FirstEligible tables userId permission targetOrgId k first := by
  obtain ⟨target, found, reached⟩ := Option.bind_eq_some_iff.mp above
  obtain ⟨k, le, first, met⟩ := FirstMet.exists_le reached eligible
  exact ⟨k, le, first, target, found, met⟩

/-- The first eligible org is met on the way up and is eligible. -/
theorem FirstEligible.met {tables : AccessTables} {userId targetOrgId : UUID}
    {permission : Permission} {steps : Nat} {org : Org}
    (first : FirstEligible tables userId permission targetOrgId steps org)
    : orgAbove tables targetOrgId steps = some org
      ∧ Eligible tables userId permission org := by
  obtain ⟨target, found, met⟩ := first
  exact ⟨by rw [orgAbove, found]; exact met.reached, met.wanted⟩

/-- No org below the first eligible one is eligible. -/
theorem FirstEligible.first {tables : AccessTables} {userId targetOrgId : UUID}
    {permission : Permission} {steps k : Nat} {org earlier : Org}
    (first : FirstEligible tables userId permission targetOrgId steps org) (lt : k < steps)
    (above : orgAbove tables targetOrgId k = some earlier)
    : ¬ Eligible tables userId permission earlier := by
  obtain ⟨target, found, met⟩ := first
  rw [orgAbove, found] at above
  exact met.first k lt earlier above

/-- An eligible org with no eligible one below it is the first. -/
theorem FirstEligible.of_above {tables : AccessTables} {userId targetOrgId : UUID}
    {permission : Permission} {steps : Nat} {org : Org}
    (above : orgAbove tables targetOrgId steps = some org)
    (eligible : Eligible tables userId permission org)
    (first
      : ∀ k < steps, ∀ earlier, orgAbove tables targetOrgId k = some earlier
        → ¬ Eligible tables userId permission earlier)
    : FirstEligible tables userId permission targetOrgId steps org := by
  obtain ⟨target, found, reached⟩ := Option.bind_eq_some_iff.mp above
  refine ⟨target, found, reached, eligible, ?_⟩
  intro k lt earlier visited
  exact first k lt earlier (by rw [orgAbove, found]; exact visited)

/-- There is one first eligible org. -/
theorem FirstEligible.unique {tables : AccessTables} {userId targetOrgId : UUID}
    {permission : Permission} {left right : Nat} {a b : Org}
    (hl : FirstEligible tables userId permission targetOrgId left a)
    (hr : FirstEligible tables userId permission targetOrgId right b)
    : left = right ∧ a = b := by
  obtain ⟨target, found, metLeft⟩ := hl
  obtain ⟨again, foundAgain, metRight⟩ := hr
  have same : target = again := Option.some.inj (found.symm.trans foundAgain)
  subst same
  exact metLeft.unique metRight

/-- The two ways a check can end: it grants at the first eligible org, or there is none
within the cap and it denies.
-/
theorem checkPermission_cases (tables : AccessTables) (user : User) (permission : Permission)
    (targetOrgId : UUID)
    : (∃ k ≤ maxHierarchyDepth, ∃ org role,
          FirstEligible tables user.id permission targetOrgId k org
          ∧ Grants tables user.id permission org.id role
          ∧ checkPermission tables user permission targetOrgId = .granted org role)
      ∨ ((∀ k ≤ maxHierarchyDepth, ∀ org, orgAbove tables targetOrgId k = some org
            → ¬ Eligible tables user.id permission org)
          ∧ checkPermission tables user permission targetOrgId
            = .denied "no_matching_role_grant") := by
  simp only [checkPermission, rolesWithPermission_ne_nil, ↓reduceIte]
  cases kept : orderByLimit1 GrantMatch.depth
      (matchedGrants tables (orgChain tables.orgs targetOrgId) user.id
        (rolesWithPermission permission)) with
  | none =>
      right
      refine ⟨?_, rfl⟩
      rintro k capped org above ⟨role, grants⟩
      have empty := orderByLimit1_eq_none.mp kept
      have row := mem_matchedGrants.mpr ⟨k, capped, org, role, above, grants, rfl⟩
      rw [empty] at row
      cases row
  | some row =>
      left
      obtain ⟨member, minimal⟩ := orderByLimit1_minimal kept
      obtain ⟨k, capped, org, role, above, grants, rfl⟩ := mem_matchedGrants.mp member
      obtain ⟨j, le, first, closest⟩ := FirstEligible.exists_le above ⟨role, grants⟩
      -- The kept row has the least depth of all joined rows, so it is the first match.
      obtain ⟨other, eligible⟩ := closest.met.2
      have depth := minimal _ (mem_matchedGrants.mpr
        ⟨j, le.trans capped, first, other, closest.met.1, eligible, rfl⟩)
      have same : j = k := le_antisymm le depth
      subst same
      have sameOrg : first = org := Option.some.inj (closest.met.1.symm.trans above)
      subst sameOrg
      exact ⟨j, capped, first, role, closest, grants, rfl⟩

/-- A check that does not allow is a deny for want of a grant, and names nothing. -/
theorem checkPermission_refused {tables : AccessTables} {user : User} {permission : Permission}
    {targetOrgId : UUID}
    (refused : (checkPermission tables user permission targetOrgId).allowed = false)
    : checkPermission tables user permission targetOrgId
      = .denied "no_matching_role_grant" := by
  rcases checkPermission_cases tables user permission targetOrgId with
    ⟨_, _, _, _, _, _, granted⟩ | ⟨_, denied⟩
  · rw [granted] at refused
    cases refused
  · exact denied

/-- A check allows what a grant that is met within the cap allows. -/
theorem checkPermission_allows {tables : AccessTables} {user : User} {permission : Permission}
    {targetOrgId : UUID} {k : Nat} {org : Org} {role : Role} (capped : k ≤ maxHierarchyDepth)
    (above : orgAbove tables targetOrgId k = some org)
    (grants : Grants tables user.id permission org.id role)
    : (checkPermission tables user permission targetOrgId).allowed = true := by
  rcases checkPermission_cases tables user permission targetOrgId with
    ⟨_, _, _, _, _, _, granted⟩ | ⟨none, _⟩
  · exact congrArg PermissionCheckResult.allowed granted
  · exact absurd ⟨role, grants⟩ (none k capped org above)

/-- `check_permission` decides its specification: it allows exactly when an eligible role is
granted at most ten parent steps above an existing target, and then names the closest such
org and a role granted there; when it denies it names nothing.
-/
theorem checkPermission_decides (tables : AccessTables) (user : User)
    (permission : Permission) (targetOrgId : UUID)
    : let result := checkPermission tables user permission targetOrgId
      (result.allowed = true
        ↔ (∃ target, tables.orgById targetOrgId = some target)
          ∧ ∃ k ≤ maxHierarchyDepth, ∃ org role,
              orgAbove tables targetOrgId k = some org
              ∧ Grants tables user.id permission org.id role)
      ∧ (result.allowed = true
          → ∃ k ≤ maxHierarchyDepth, ∃ org role,
              orgAbove tables targetOrgId k = some org
              ∧ Grants tables user.id permission org.id role
              ∧ (∀ j < k, ∀ closer other, orgAbove tables targetOrgId j = some closer
                  → ¬ Grants tables user.id permission closer.id other)
              ∧ result.matchedOrgId = some org.id
              ∧ result.matchedRoleId = some role.id
              ∧ result.matchedRoleName = some role.name
              ∧ result.reason = "granted_via_" ++ role.name)
      ∧ (result.allowed = false
          → result.matchedOrgId = none
            ∧ result.matchedRoleId = none
            ∧ result.matchedRoleName = none) := by
  intro result
  refine ⟨⟨?_, ?_⟩, ?_, ?_⟩
  · intro allowed
    rcases checkPermission_cases tables user permission targetOrgId with
      ⟨k, capped, org, role, first, grants, _⟩ | ⟨_, denied⟩
    · obtain ⟨target, found, _⟩ := Option.bind_eq_some_iff.mp first.met.1
      exact ⟨⟨target, found⟩, k, capped, org, role, first.met.1, grants⟩
    · simp [result, denied, PermissionCheckResult.denied] at allowed
  · rintro ⟨_, k, capped, org, role, above, grants⟩
    exact checkPermission_allows capped above grants
  · intro allowed
    rcases checkPermission_cases tables user permission targetOrgId with
      ⟨k, capped, org, role, first, grants, granted⟩ | ⟨_, denied⟩
    · refine ⟨k, capped, org, role, first.met.1, grants, ?_, ?_⟩
      · exact fun j lt closer other above held => first.first lt above ⟨other, held⟩
      · simp only [result, granted, PermissionCheckResult.granted, and_self]
    · simp [result, denied, PermissionCheckResult.denied] at allowed
  · intro refused
    simp only [result, checkPermission_refused refused, PermissionCheckResult.denied, and_self]

end SpecterCloud.Auth
