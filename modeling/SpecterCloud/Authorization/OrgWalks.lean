import SpecterCloud.Auth.PermissionChecks

/-! The recursive table holds the walk along parent links, one row for each step up to the
cap, whatever the links look like.
-/

namespace SpecterCloud.Auth

open SpecterCloud.Foundations
open SpecterCloud.Models

/-- The parent of an org, if the link is set and its org exists. -/
def parentOrg (tables : AccessTables) (org : Org) : Option Org :=
  org.parentOrgId.bind tables.orgById

/-- The org `steps` parent steps above the target org. -/
def orgAbove (tables : AccessTables) (targetOrgId : UUID) (steps : Nat) : Option Org :=
  (tables.orgById targetOrgId).bind (walk (parentOrg tables) steps)

/-- The org of a lookup is stored under the id that was looked up. -/
theorem orgById_sound {tables : AccessTables} {id : UUID} {org : Org}
    (found : tables.orgById id = some org)
    : org ∈ tables.orgs ∧ org.id = id :=
  findBy_sound found

/-- No parent step leads to the target itself. -/
theorem orgAbove_zero (tables : AccessTables) (targetOrgId : UUID)
    : orgAbove tables targetOrgId 0 = tables.orgById targetOrgId := by
  rw [orgAbove]
  cases tables.orgById targetOrgId <;> rfl

/-- The walk goes up by one parent link at a time. -/
theorem orgAbove_succ (tables : AccessTables) (targetOrgId : UUID) (steps : Nat)
    : orgAbove tables targetOrgId (steps + 1)
      = (orgAbove tables targetOrgId steps).bind (parentOrg tables) := by
  rw [orgAbove, orgAbove]
  cases tables.orgById targetOrgId with
  | none => rfl
  | some target => exact walk_last _ steps target

/-- The walk from a root org ends where it starts. -/
theorem orgAbove_of_root {tables : AccessTables} {targetOrgId : UUID} {root org : Org}
    (found : tables.orgById targetOrgId = some root) (isRoot : root.parentOrgId = none)
    {steps : Nat} (above : orgAbove tables targetOrgId steps = some org)
    : org = root := by
  cases steps with
  | zero =>
      rw [orgAbove_zero, found] at above
      exact (Option.some.inj above).symm
  | succ steps =>
      rw [orgAbove, found, Option.bind_some, walk_succ, parentOrg, isRoot] at above
      cases above

/-- Every org met on the way up is stored under its own id, by its last lookup. -/
theorem orgAbove_stored {tables : AccessTables} {targetOrgId : UUID} {steps : Nat} {org : Org}
    (above : orgAbove tables targetOrgId steps = some org)
    : tables.orgById org.id = some org := by
  cases steps with
  | zero =>
      rw [orgAbove_zero] at above
      rw [(orgById_sound above).2]
      exact above
  | succ steps =>
      rw [orgAbove_succ] at above
      obtain ⟨below, _, link⟩ := Option.bind_eq_some_iff.mp above
      obtain ⟨parent, _, found⟩ := Option.bind_eq_some_iff.mp link
      rw [(orgById_sound found).2]
      exact found

/-- The rows of one round have the round's number as their depth, by induction. -/
theorem workingTable_depth {orgs : List Org} {targetOrgId : UUID} {rounds : Nat}
    : ∀ row ∈ workingTable (orgChainStep orgs) rounds (orgChainSeed orgs targetOrgId),
        row.depth = rounds := by
  induction rounds with
  | zero =>
      intro row member
      obtain ⟨org, _, rfl⟩ := List.mem_map.mp member
      rfl
  | succ rounds ih =>
      intro row member
      rw [workingTable, Function.iterate_succ_apply'] at member
      obtain ⟨c, earlier, extended⟩ := List.mem_flatMap.mp member
      obtain ⟨org, _, rfl⟩ := List.mem_map.mp extended
      exact congrArg (· + 1) (ih c earlier)

/-- The bounded rounds are the one evaluation of the recursive query: after the round of the
maximal depth the guard leaves nothing to extend. No constraint on the table is needed.
-/
theorem orgChain_evaluates {orgs : List Org} {targetOrgId : UUID} {rows : List ChainRow}
    : UnionAll (orgChainStep orgs) (orgChainSeed orgs targetOrgId) rows
      ↔ rows = orgChain orgs targetOrgId := by
  have evaluated
      : UnionAll (orgChainStep orgs) (orgChainSeed orgs targetOrgId)
          (orgChain orgs targetOrgId) := by
    apply unionAllRounds_evaluates rfl
    rw [workingTable, Function.iterate_succ_apply']
    apply List.flatMap_eq_nil_iff.mpr
    intro c member
    have depth := workingTable_depth c member
    simp [depth]
  exact ⟨fun other => other.deterministic evaluated, fun same => same ▸ evaluated⟩

-----------------------------------------------------------------------------------------
-- With unique ids each row has at most one successor
-----------------------------------------------------------------------------------------

/-- The row of an org at a depth. -/
def chainRow (depth : Nat) (org : Org) : ChainRow :=
  { id := org.id, parentOrgId := org.parentOrgId, depth }

/-- The row above a chain row, until the depth guard stops. -/
def chainSuccessor (tables : AccessTables) (row : ChainRow) : Option ChainRow :=
  if row.depth < maxHierarchyDepth then
    (row.parentOrgId.bind tables.orgById).map (chainRow (row.depth + 1))
  else
    none

/-- The recursive term extends every row by its successor, since ids are unique. -/
theorem orgChainStep_successor (tables : AccessTables)
    : orgChainStep tables.orgs
      = List.flatMap (fun row => (chainSuccessor tables row).toList) := by
  funext working
  apply List.flatMap_congr
  intro row _
  by_cases guard : row.depth < maxHierarchyDepth
  · cases link : row.parentOrgId with
    | none => simp [chainSuccessor, guard, link]
    | some parent =>
        have parents : tables.orgs.filter (fun o => o.id = parent)
            = (findBy Org.id parent tables.orgs).toList := filter_key tables.orgIds
        simp only [guard, and_true, Option.some.injEq, parents, chainSuccessor, link,
          ↓reduceIte, Option.bind_some, AccessTables.orgById]
        cases findBy Org.id parent tables.orgs <;> rfl
  · simp [chainSuccessor, guard]

/-- The seed is the row of the target org, if there is one. -/
theorem orgChainSeed_row (tables : AccessTables) (targetOrgId : UUID)
    : orgChainSeed tables.orgs targetOrgId
      = ((tables.orgById targetOrgId).map (chainRow 0)).toList := by
  rw [orgChainSeed, filter_key tables.orgIds, AccessTables.orgById]
  cases findBy Org.id targetOrgId tables.orgs <;> rfl

/-- Up to the cap, walking chain rows is walking the parent links, by induction on steps. -/
theorem walk_chainSuccessor (tables : AccessTables) (org : Org) {steps : Nat}
    (capped : steps ≤ maxHierarchyDepth)
    : walk (chainSuccessor tables) steps (chainRow 0 org)
      = (walk (parentOrg tables) steps org).map (chainRow steps) := by
  induction steps with
  | zero => rfl
  | succ steps ih =>
      rw [walk_last, walk_last, ih (by omega)]
      cases walk (parentOrg tables) steps org with
      | none => rfl
      | some above =>
          have guard : steps < maxHierarchyDepth := by omega
          simp [chainSuccessor, chainRow, guard, parentOrg]

/-- The recursive table has one row for each step that the walk takes within the cap. -/
theorem orgChain_eq (tables : AccessTables) (targetOrgId : UUID)
    : orgChain tables.orgs targetOrgId
      = (List.range (maxHierarchyDepth + 1)).filterMap
          (fun k => (orgAbove tables targetOrgId k).map (chainRow k)) := by
  rw [orgChain, orgChainStep_successor, orgChainSeed_row, unionAllRounds_walk]
  apply List.filterMap_congr
  intro k member
  rw [List.mem_range] at member
  rw [orgAbove]
  cases tables.orgById targetOrgId with
  | none => rfl
  | some org => exact walk_chainSuccessor tables org (by omega)

/-- Membership in the recursive table is a walk of at most the maximal depth. -/
theorem mem_orgChain {tables : AccessTables} {targetOrgId : UUID} {row : ChainRow}
    : row ∈ orgChain tables.orgs targetOrgId
      ↔ ∃ k ≤ maxHierarchyDepth, ∃ org,
          orgAbove tables targetOrgId k = some org ∧ chainRow k org = row := by
  simp only [orgChain_eq, List.mem_filterMap, List.mem_range, Option.map_eq_some_iff,
    Nat.lt_succ_iff]

end SpecterCloud.Auth
