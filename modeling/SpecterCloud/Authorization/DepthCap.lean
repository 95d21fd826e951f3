import SpecterCloud.Authorization.CheckSpecification

/-! The depth cap against the unbounded closure: it never adds an allow, and it takes none
away while at most eleven orgs can be reached.
-/

namespace SpecterCloud.Auth

open SpecterCloud.Foundations
open SpecterCloud.Models

/-- The decision without a cap: an eligible org any number of parent steps up. -/
def UncappedAllows (tables : AccessTables) (userId : UUID) (permission : Permission)
    (targetOrgId : UUID)
    : Prop :=
  ∃ k org, orgAbove tables targetOrgId k = some org
    ∧ Eligible tables userId permission org

/-- The orgs reachable from the target, itself included. -/
def reachableOrgs (tables : AccessTables) (targetOrgId : UUID) : Set Org :=
  {org | ∃ k, orgAbove tables targetOrgId k = some org}

/-- The recursive table has at most one row for each depth up to the cap. -/
theorem orgChain_length (tables : AccessTables) (targetOrgId : UUID)
    : (orgChain tables.orgs targetOrgId).length ≤ maxHierarchyDepth + 1 := by
  rw [orgChain_eq]
  exact (List.length_filterMap_le _ _).trans (List.length_range).le

/-- An allow names a walk to an eligible org, which the uncapped decision finds too. -/
theorem uncappedAllows_of_allowed {tables : AccessTables} {user : User}
    {permission : Permission} {targetOrgId : UUID}
    (allowed : (checkPermission tables user permission targetOrgId).allowed = true)
    : UncappedAllows tables user.id permission targetOrgId := by
  rcases checkPermission_cases tables user permission targetOrgId with
    ⟨k, _, org, _, first, _, _⟩ | ⟨_, denied⟩
  · exact ⟨k, org, first.met⟩
  · rw [denied] at allowed
    cases allowed

/-- On a small hierarchy the first eligible org is within the cap, cycles or not: the walk
to it visits distinct orgs only.
-/
theorem FirstEligible.within_cap {tables : AccessTables} {userId targetOrgId : UUID}
    {permission : Permission} {steps : Nat} {org : Org}
    (first : FirstEligible tables userId permission targetOrgId steps org)
    (small : (reachableOrgs tables targetOrgId).encard ≤ maxHierarchyDepth + 1)
    : steps ≤ maxHierarchyDepth := by
  obtain ⟨target, found, met⟩ := first
  have reachable : reachableOrgs tables targetOrgId
      = {element | Reachable (parentOrg tables) target element} := by
    ext element
    simp [reachableOrgs, Reachable, orgAbove, found]
  rw [reachable] at small
  exact Nat.lt_succ_iff.mp (met.steps_lt (by exact_mod_cast small))

/-- The cap is conservative on every table, and exact while at most eleven orgs can be
reached: then the two decisions agree, and the match is the eligible org met first.
-/
theorem depthCap_exact (tables : AccessTables) (user : User) (permission : Permission)
    (targetOrgId : UUID)
    : let result := checkPermission tables user permission targetOrgId
      (∃ rows,
          UnionAll (orgChainStep tables.orgs) (orgChainSeed tables.orgs targetOrgId) rows
          ∧ rows.length ≤ 11)
      ∧ (result.allowed = true → UncappedAllows tables user.id permission targetOrgId)
      ∧ ((reachableOrgs tables targetOrgId).encard ≤ 11
          → (result.allowed = true ↔ UncappedAllows tables user.id permission targetOrgId)
            ∧ (result.allowed = true
                → ∃ k org,
                    orgAbove tables targetOrgId k = some org
                    ∧ Eligible tables user.id permission org
                    ∧ (∀ j < k, ∀ earlier, orgAbove tables targetOrgId j = some earlier
                        → ¬ Eligible tables user.id permission earlier)
                    ∧ result.matchedOrgId = some org.id)) := by
  intro result
  refine ⟨⟨orgChain tables.orgs targetOrgId, orgChain_evaluates.mpr rfl, orgChain_length _ _⟩,
    uncappedAllows_of_allowed, ?_⟩
  intro small
  rcases checkPermission_cases tables user permission targetOrgId with
    ⟨k, _, org, role, first, _, granted⟩ | ⟨none, denied⟩
  · have allowed : result.allowed = true := congrArg PermissionCheckResult.allowed granted
    refine ⟨⟨fun _ => ⟨k, org, first.met⟩, fun _ => allowed⟩, fun _ => ?_⟩
    refine ⟨k, org, first.met.1, first.met.2, ?_, ?_⟩
    · exact fun j lt earlier above => first.first lt above
    · exact congrArg PermissionCheckResult.matchedOrgId granted
  · have refused : result.allowed = false := congrArg PermissionCheckResult.allowed denied
    refine ⟨⟨fun allowed => ?_, ?_⟩, fun allowed => ?_⟩
    · simp [refused] at allowed
    · rintro ⟨k, org, above, eligible⟩
      obtain ⟨j, _, closest, first⟩ := FirstEligible.exists_le above eligible
      have capped := first.within_cap small
      exact absurd first.met.2 (none j capped closest first.met.1)
    · simp [refused] at allowed

end SpecterCloud.Auth
