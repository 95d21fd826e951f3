import SpecterCloud.Foundations.RecursiveQueries
import SpecterCloud.Auth.Permissions
import SpecterCloud.Models.Database

/-! `check_permission`: the recursive walk of the org hierarchy and the match of grants. -/

namespace SpecterCloud.Auth

open SpecterCloud.Foundations
open SpecterCloud.Models

/-- `MAX_HIERARCHY_DEPTH`. -/
def maxHierarchyDepth : Nat := 10

structure PermissionCheckResult where
  allowed : Bool
  matchedRoleId : Option Int
  matchedOrgId : Option UUID
  matchedRoleName : Option String
  reason : String
deriving DecidableEq

/-- A row of the recursive table `org_chain`. -/
structure ChainRow where
  id : UUID
  parentOrgId : Option UUID
  depth : Nat
deriving DecidableEq

/-- `SELECT id, parent_org_id, 0 FROM orgs WHERE id = :target_org_id`. -/
def orgChainSeed (orgs : List Org) (targetOrgId : UUID) : List ChainRow :=
  (orgs.filter (fun o => o.id = targetOrgId)).map
    (fun o => { id := o.id, parentOrgId := o.parentOrgId, depth := 0 })

/-- `SELECT o.id, o.parent_org_id, c.depth + 1 FROM orgs o JOIN org_chain c
ON o.id = c.parent_org_id WHERE c.depth < :max_depth`; a NULL parent joins no row.
-/
def orgChainStep (orgs : List Org) (working : List ChainRow) : List ChainRow :=
  working.flatMap
    (fun c =>
      (orgs.filter (fun o => some o.id = c.parentOrgId ∧ c.depth < maxHierarchyDepth)).map
        (fun o => { id := o.id, parentOrgId := o.parentOrgId, depth := c.depth + 1 }))

/-- The recursive table; `orgChain_evaluates` says that its rounds are all there are. -/
def orgChain (orgs : List Org) (targetOrgId : UUID) : List ChainRow :=
  unionAllRounds (orgChainStep orgs) (maxHierarchyDepth + 1) (orgChainSeed orgs targetOrgId)

/-- A row of the joined tables: the selected columns and the ordering key. -/
structure GrantMatch where
  roleId : Int
  orgId : UUID
  name : String
  depth : Nat
deriving DecidableEq

/-- `user_roles ur JOIN org_chain c JOIN roles r` under the `WHERE` clause. -/
def matchedGrants (tables : AccessTables) (chain : List ChainRow) (userId : UUID)
    (eligibleRoles : List String)
    : List GrantMatch :=
  tables.userRoles.flatMap
    (fun ur =>
      (chain.filter (fun c => ur.orgId = c.id)).flatMap
        (fun c =>
          (tables.roles.filter
              (fun r =>
                ur.roleId = r.id ∧ ur.userId = userId ∧ ur.revokedAt = none
                ∧ r.name ∈ eligibleRoles)).map
            (fun r =>
              { roleId := ur.roleId, orgId := ur.orgId, name := r.name, depth := c.depth })))

def PermissionCheckResult.denied (reason : String) : PermissionCheckResult :=
  {
    allowed := false
    matchedRoleId := none
    matchedOrgId := none
    matchedRoleName := none
    reason
  }

def checkPermission (tables : AccessTables) (user : User) (permission : Permission)
    (targetOrgId : UUID)
    : PermissionCheckResult :=
  let eligibleRoles := rolesWithPermission permission
  if eligibleRoles = [] then
    .denied "permission_not_in_any_role"
  else
    let matched := matchedGrants tables (orgChain tables.orgs targetOrgId) user.id eligibleRoles
    match orderByLimit1 GrantMatch.depth matched with
    | none => .denied "no_matching_role_grant"
    | some row =>
        {
          allowed := true
          matchedRoleId := some row.roleId
          matchedOrgId := some row.orgId
          matchedRoleName := some row.name
          reason := "granted_via_" ++ row.name
        }

end SpecterCloud.Auth
