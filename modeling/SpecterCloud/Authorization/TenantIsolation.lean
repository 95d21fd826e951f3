import SpecterCloud.Authorization.CheckSpecification

/-! A decision depends on nothing but the parent links on the way up from the target and the
user's unrevoked grants there: no other tenant's rows can change it.
-/

namespace SpecterCloud.Auth

open SpecterCloud.Models

/-- An unrevoked grant of a role id to the user at an org. -/
def ActiveGrant (tables : AccessTables) (userId orgId : UUID) (roleId : Int) : Prop :=
  ∃ grant ∈ tables.userRoles,
    grant.userId = userId
    ∧ grant.orgId = orgId
    ∧ grant.roleId = roleId
    ∧ grant.revokedAt = none

/-- Every org reached within the cap in the left tables has the same parent link and the
same unrevoked grants of the user in the right ones.
-/
structure CoversChain (left right : AccessTables) (userId targetOrgId : UUID) : Prop where
  links
    : ∀ k ≤ maxHierarchyDepth, ∀ org, orgAbove left targetOrgId k = some org
      → (right.orgById org.id).map Org.parentOrgId = some org.parentOrgId
  grants
    : ∀ k ≤ maxHierarchyDepth, ∀ org, orgAbove left targetOrgId k = some org
      → ∀ roleId, ActiveGrant left userId org.id roleId
        ↔ ActiveGrant right userId org.id roleId

/-- Two states that agree on the roles table, and on each other's reached orgs. Everything
else may differ: other orgs and their links, names, other users' grants, revoked grants.
-/
structure AgreeOnChain (left right : AccessTables) (userId targetOrgId : UUID) : Prop where
  roles : ∀ role, role ∈ left.roles ↔ role ∈ right.roles
  forward : CoversChain left right userId targetOrgId
  backward : CoversChain right left userId targetOrgId

/-- Agreement is symmetric. -/
theorem AgreeOnChain.symm {left right : AccessTables} {userId targetOrgId : UUID}
    (agree : AgreeOnChain left right userId targetOrgId)
    : AgreeOnChain right left userId targetOrgId :=
  ⟨fun role => (agree.roles role).symm, agree.backward, agree.forward⟩

/-- The walk goes through the same ids and links in both states, by induction on the steps:
an org below has the same parent id in both, and the right state covers the org above.
-/
theorem AgreeOnChain.orgAbove {left right : AccessTables} {userId targetOrgId : UUID}
    (agree : AgreeOnChain left right userId targetOrgId) {k : Nat}
    (capped : k ≤ maxHierarchyDepth) {org : Org} (above : orgAbove left targetOrgId k = some org)
    : ∃ other,
        Auth.orgAbove right targetOrgId k = some other
        ∧ other.id = org.id
        ∧ other.parentOrgId = org.parentOrgId := by
  obtain ⟨other, found, sameLink⟩ :=
    Option.map_eq_some_iff.mp (agree.forward.links k capped org above)
  refine ⟨other, ?_, (orgById_sound found).2, sameLink⟩
  induction k generalizing org other with
  | zero =>
      rw [orgAbove_zero] at above ⊢
      rw [← (orgById_sound above).2]
      exact found
  | succ k ih =>
      rw [orgAbove_succ] at above ⊢
      obtain ⟨below, aboveBelow, link⟩ := Option.bind_eq_some_iff.mp above
      obtain ⟨parent, parentId, foundParent⟩ := Option.bind_eq_some_iff.mp link
      obtain ⟨otherBelow, foundBelow, sameBelow⟩ :=
        Option.map_eq_some_iff.mp (agree.forward.links k (by omega) below aboveBelow)
      rw [ih (by omega) aboveBelow otherBelow foundBelow sameBelow, Option.bind_some, parentOrg,
        sameBelow, parentId, Option.bind_some, ← (orgById_sound foundParent).2]
      exact found

/-- Eligibility of a reached org carries over: it needs one of the user's unrevoked grants
there and a role row, and both states have the same of each.
-/
theorem AgreeOnChain.eligible {left right : AccessTables} {userId targetOrgId : UUID}
    (agree : AgreeOnChain left right userId targetOrgId) {k : Nat}
    (capped : k ≤ maxHierarchyDepth) {org other : Org}
    (above : Auth.orgAbove left targetOrgId k = some org) (sameId : other.id = org.id)
    {permission : Permission} (eligible : Eligible left userId permission org)
    : Eligible right userId permission other := by
  obtain ⟨role, grants⟩ := eligible
  refine ⟨role, (agree.roles role).mp grants.known, grants.bundled, ?_⟩
  rw [sameId]
  exact (agree.forward.grants k capped org above role.id).mp grants.granted

/-- The first eligible org has the same id in both states. -/
theorem AgreeOnChain.firstEligible {left right : AccessTables} {userId targetOrgId : UUID}
    (agree : AgreeOnChain left right userId targetOrgId) {permission : Permission} {k : Nat}
    (capped : k ≤ maxHierarchyDepth) {org : Org}
    (first : FirstEligible left userId permission targetOrgId k org)
    : ∃ other, FirstEligible right userId permission targetOrgId k other
        ∧ other.id = org.id := by
  obtain ⟨above, eligible⟩ := first.met
  obtain ⟨other, otherAbove, sameId, _⟩ := agree.orgAbove capped above
  refine ⟨other, ?_, sameId⟩
  apply FirstEligible.of_above otherAbove (agree.eligible capped above sameId eligible)
  intro j lt earlier earlierAbove earlierEligible
  obtain ⟨back, backAbove, sameBack, _⟩ := agree.symm.orgAbove (by omega) earlierAbove
  exact first.first lt backAbove
    (agree.symm.eligible (by omega) earlierAbove sameBack earlierEligible)

/-- An allow in one state is an allow at the same org in the other. -/
theorem AgreeOnChain.allows {left right : AccessTables} {user : User} {targetOrgId : UUID}
    (agree : AgreeOnChain left right user.id targetOrgId) {permission : Permission}
    (allowed : (checkPermission left user permission targetOrgId).allowed = true)
    : (checkPermission right user permission targetOrgId).allowed = true
      ∧ (checkPermission right user permission targetOrgId).matchedOrgId
        = (checkPermission left user permission targetOrgId).matchedOrgId := by
  rcases checkPermission_cases left user permission targetOrgId with
    ⟨k, capped, org, role, first, _, granted⟩ | ⟨_, denied⟩
  · obtain ⟨other, firstOther, sameId⟩ := agree.firstEligible capped first
    rcases checkPermission_cases right user permission targetOrgId with
      ⟨j, _, again, _, firstAgain, _, grantedRight⟩ | ⟨none, _⟩
    · obtain ⟨_, same⟩ := firstAgain.unique firstOther
      rw [grantedRight, granted]
      simp [PermissionCheckResult.granted, same, sameId]
    · obtain ⟨above, eligible⟩ := firstOther.met
      exact absurd eligible (none k capped other above)
  · rw [denied] at allowed
    cases allowed

/-- Agreeing states decide alike, and at the same org. -/
theorem AgreeOnChain.sameDecision {left right : AccessTables} {user : User}
    {targetOrgId : UUID} (agree : AgreeOnChain left right user.id targetOrgId)
    (permission : Permission)
    : (checkPermission left user permission targetOrgId).allowed
        = (checkPermission right user permission targetOrgId).allowed
      ∧ (checkPermission left user permission targetOrgId).matchedOrgId
        = (checkPermission right user permission targetOrgId).matchedOrgId := by
  cases allowed : (checkPermission left user permission targetOrgId).allowed with
  | true =>
      obtain ⟨allowedRight, sameOrg⟩ := agree.allows allowed
      exact ⟨allowedRight.symm, sameOrg.symm⟩
  | false =>
      cases allowedRight : (checkPermission right user permission targetOrgId).allowed with
      | true =>
          rw [(agree.symm.allows allowedRight).1] at allowed
          cases allowed
      | false =>
          rw [checkPermission_refused allowed, checkPermission_refused allowedRight]
          exact ⟨rfl, rfl⟩

/-- The tables without the grants that were revoked. -/
def withoutRevoked (tables : AccessTables) : AccessTables :=
  { tables with
    userRoles := tables.userRoles.filter (fun grant => grant.revokedAt = none)
    grantKeys := (List.filter_sublist.map UserRole.key).nodup tables.grantKeys }

/-- Dropping revoked grants keeps the orgs, the roles and every unrevoked grant. -/
theorem agreeOnChain_withoutRevoked (tables : AccessTables) (userId targetOrgId : UUID)
    : AgreeOnChain tables (withoutRevoked tables) userId targetOrgId := by
  have sameGrants (orgId : UUID) (roleId : Int)
      : ActiveGrant tables userId orgId roleId
        ↔ ActiveGrant (withoutRevoked tables) userId orgId roleId := by
    simp only [ActiveGrant, withoutRevoked, List.mem_filter, decide_eq_true_eq]
    constructor
    · rintro ⟨grant, stored, user, org, role, active⟩
      exact ⟨grant, ⟨stored, active⟩, user, org, role, active⟩
    · rintro ⟨grant, ⟨stored, _⟩, fields⟩
      exact ⟨grant, stored, fields⟩
  refine ⟨fun _ => Iff.rfl, ⟨?_, ?_⟩, ⟨?_, ?_⟩⟩
  · intro k _ org above
    have found : (withoutRevoked tables).orgById org.id = some org := orgAbove_stored above
    rw [found]
    rfl
  · exact fun k _ org _ roleId => sameGrants org.id roleId
  · intro k _ org above
    have found : tables.orgById org.id = some org := orgAbove_stored above
    rw [found]
    rfl
  · exact fun k _ org _ roleId => (sameGrants org.id roleId).symm

/-- Tenant isolation: two states that agree on the roles, on the parent links met within
the cap, and on the user's unrevoked grants at those orgs get the same decision at the same
org, whatever else differs between them. In particular revoked grants decide nothing.
-/
theorem checkPermission_isolated (left right : AccessTables) (user : User)
    (permission : Permission) (targetOrgId : UUID)
    (agree : AgreeOnChain left right user.id targetOrgId)
    : ((checkPermission left user permission targetOrgId).allowed
          = (checkPermission right user permission targetOrgId).allowed
        ∧ (checkPermission left user permission targetOrgId).matchedOrgId
          = (checkPermission right user permission targetOrgId).matchedOrgId)
      ∧ ((checkPermission left user permission targetOrgId).allowed
          = (checkPermission (withoutRevoked left) user permission targetOrgId).allowed
        ∧ (checkPermission left user permission targetOrgId).matchedOrgId
          = (checkPermission (withoutRevoked left) user permission targetOrgId).matchedOrgId) :=
  ⟨agree.sameDecision permission,
    (agreeOnChain_withoutRevoked left user.id targetOrgId).sameDecision permission⟩

-----------------------------------------------------------------------------------------
-- Two states that differ in another customer's subtree
-----------------------------------------------------------------------------------------

/-- A root org whose administrator is user 7, and one customer below it. -/
def oneCustomer : AccessTables where
  orgs := [⟨1, "Specter", "specter", none⟩, ⟨2, "A", "a", some 1⟩]
  userRoles := [⟨7, 1, 6, none, none⟩]
  roles := [⟨6, "admin", false⟩]
  orgIds := by decide
  grantKeys := by decide
  roleIds := by decide
  roleNames := by decide

/-- The same root with the customer moved away, another customer, another user's grant at
the root, and a revoked grant of user 7 elsewhere.
-/
def rearrangedCustomers : AccessTables where
  orgs := [⟨3, "B", "b", some 1⟩, ⟨2, "A", "a", none⟩, ⟨1, "Specter", "specter", none⟩]
  userRoles := [⟨8, 1, 6, none, none⟩, ⟨7, 3, 6, none, some 40⟩, ⟨7, 1, 6, none, none⟩]
  roles := [⟨6, "admin", false⟩]
  orgIds := by decide
  grantKeys := by decide
  roleIds := by decide
  roleNames := by decide

def administrator : User where
  id := 7
  email := "admin@specter.example"
  passwordHash := ""
  name := "Specter Admin"
  orgId := 1
  isActive := true
  lastLoginAt := none
  failedLoginCount := 0
  lockedUntil := none
  updatedAt := 0

/-- The two states agree on the way up from the root, which is the root alone. -/
theorem customers_agree : AgreeOnChain oneCustomer rearrangedCustomers 7 1 := by
  have root : oneCustomer.orgById 1 = some ⟨1, "Specter", "specter", none⟩ := by decide
  have rootAgain : rearrangedCustomers.orgById 1 = some ⟨1, "Specter", "specter", none⟩ := by
    decide
  refine ⟨fun _ => Iff.rfl, ⟨?_, ?_⟩, ⟨?_, ?_⟩⟩
  · intro k _ org above
    rw [orgAbove_of_root root rfl above, rootAgain]
    rfl
  · intro k _ org above roleId
    rw [orgAbove_of_root root rfl above]
    simp [ActiveGrant, oneCustomer, rearrangedCustomers]
  · intro k _ org above
    rw [orgAbove_of_root rootAgain rfl above, root]
    rfl
  · intro k _ org above roleId
    rw [orgAbove_of_root rootAgain rfl above]
    simp [ActiveGrant, oneCustomer, rearrangedCustomers]

/-- The administrator may invite users at the root in both states. -/
theorem customers_isolated
    : (checkPermission oneCustomer administrator .userInvite 1).allowed = true
      ∧ (checkPermission rearrangedCustomers administrator .userInvite 1).allowed = true := by
  have same := checkPermission_isolated oneCustomer rearrangedCustomers administrator
    .userInvite 1 customers_agree
  have allowed : (checkPermission oneCustomer administrator .userInvite 1).allowed = true := by
    decide
  exact ⟨allowed, same.1.1.symm.trans allowed⟩

end SpecterCloud.Auth
